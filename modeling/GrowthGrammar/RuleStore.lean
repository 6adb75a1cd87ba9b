import GrowthGrammar.Rule.Candidates

/-!
# Rule stores

A rule set keeps rules by predecessor.  Predecessors stand in the order of their
first rule, and the rules of one in the order of their registration; no rule ever
replaces another.  With each predecessor goes its window: the longest left and
right context of its rules, which is all of the surroundings they can ask for.

A rule store is a rule set behind a lock.  Frozen rules are what a store holds at
one moment.  Both answer the two questions of a derivation, which are a
`Rulebook`: how wide the window of a symbol is, and which rules apply to it
between two words.  A store answers under its lock, so it may refuse all of them.
-/

namespace GrowthGrammar

/-- The rules of one predecessor. -/
structure RuleGroup where
  /-- The predecessor of all of them. -/
  predecessor : Symbol
  /-- The rules in the order of their registration. -/
  rules : List Rule
  /-- Their longest left context. -/
  leftWindow : Nat
  /-- Their longest right context. -/
  rightWindow : Nat

/-- The group with one more rule. -/
def RuleGroup.add (g : RuleGroup) (r : Rule) : RuleGroup where
  predecessor := g.predecessor
  rules := g.rules ++ [r]
  leftWindow := max g.leftWindow r.left.length
  rightWindow := max g.rightWindow r.right.length

/-- The group of one rule. -/
def RuleGroup.single (r : Rule) : RuleGroup :=
  ⟨r.predecessor, [r], r.left.length, r.right.length⟩

/-- Rules by predecessor. -/
structure RuleSet where
  /-- One group for each predecessor, in the order of first rules. -/
  groups : List RuleGroup

namespace RuleSet

/-- No rules. -/
def empty : RuleSet := ⟨[]⟩

/-- Some groups with one more rule. -/
def addTo (r : Rule) : List RuleGroup → List RuleGroup
  | [] => [RuleGroup.single r]
  | g :: rest => if g.predecessor.same r.predecessor then g.add r :: rest else g :: addTo r rest

/-- The rule set with one more rule. -/
def add (rules : RuleSet) (r : Rule) : RuleSet := ⟨addTo r rules.groups⟩

/-- The group of a predecessor. -/
def group? (rules : RuleSet) (s : Symbol) : Option RuleGroup :=
  rules.groups.find? fun g => g.predecessor.same s

/-- The rules of a predecessor. -/
def rulesOf (rules : RuleSet) (s : Symbol) : List Rule :=
  ((rules.group? s).map RuleGroup.rules).getD []

/-- The window of a predecessor. -/
def window (rules : RuleSet) (s : Symbol) : Nat × Nat :=
  ((rules.group? s).map fun g => (g.leftWindow, g.rightWindow)).getD (0, 0)

/-- All rules, group by group. -/
def toList (rules : RuleSet) : List Rule := rules.groups.flatMap RuleGroup.rules

/-- The number of rules. -/
def size (rules : RuleSet) : Nat := rules.toList.length

end RuleSet

/-! ## Sources of rules -/

/-- Answers to the questions of a derivation. -/
structure Rulebook where
  /-- Whether any question is answered. -/
  answers : Except Error Unit
  /-- How much of its surroundings the rules of a symbol can ask for. -/
  window : Symbol → Except Error (Nat × Nat)
  /-- The rules that apply to a symbol between two words. -/
  candidates : Symbol → Word → Word → Except Error (List Rule)

/-- What a store holds at one moment. -/
structure FrozenRules where
  /-- The rules of each predecessor. -/
  groups : List (Symbol × List Rule)
  /-- The choice among rules of one specificity. -/
  tieBreak : TieBreak

namespace FrozenRules

/-- The rules of a predecessor. -/
def rulesOf (frozen : FrozenRules) (s : Symbol) : List Rule :=
  ((frozen.groups.find? fun g => g.1.same s).map Prod.snd).getD []

/-- The window of a predecessor. -/
def window (frozen : FrozenRules) (s : Symbol) : Nat × Nat :=
  Rule.windowOf (frozen.rulesOf s)

/-- The rules that apply to a symbol between two words. -/
def candidates (frozen : FrozenRules) (s : Symbol) (before after : Word) : List Rule :=
  Rule.candidates frozen.tieBreak (frozen.rulesOf s) before after

/-- The number of rules. -/
def size (frozen : FrozenRules) : Nat := (frozen.groups.flatMap Prod.snd).length

/-- Frozen rules never refuse an answer. -/
def rulebook (frozen : FrozenRules) : Rulebook where
  answers := .ok ()
  window s := .ok (frozen.window s)
  candidates s before after := .ok (frozen.candidates s before after)

end FrozenRules

/-- Rules behind a lock. -/
structure RuleStore where
  /-- The rules. -/
  guarded : Guarded RuleSet
  /-- The choice among rules of one specificity. -/
  tieBreak : TieBreak

namespace RuleStore

/-- A store without rules. -/
def new (tieBreak : TieBreak) (timeout : Timeout) : RuleStore :=
  ⟨⟨Lock.free "production store" timeout, .empty⟩, tieBreak⟩

/-- A computation on the guarded rules of a store. -/
def onRules {α : Type} (step : Step (Guarded RuleSet) α) : Step RuleStore α :=
  Step.on RuleStore.guarded (fun g store => { store with guarded := g }) step

/-- Register a rule, whatever its symbols are. -/
def insert (r : Rule) : Step RuleStore Unit :=
  onRules (Guarded.write fun rules => ((), rules.add r))

/-- The window of a predecessor. -/
def window (s : Symbol) : Step RuleStore (Nat × Nat) :=
  onRules (Guarded.read (·.window s))

/-- The rules of a predecessor. -/
def rulesOf (s : Symbol) : Step RuleStore (List Rule) :=
  onRules (Guarded.read (·.rulesOf s))

/-- The rules that apply to a symbol between two words. -/
def candidates (s : Symbol) (before after : Word) : Step RuleStore (List Rule) := do
  let rules ← rulesOf s
  return Rule.candidates (← get).tieBreak rules before after

/-- What the store holds now. -/
def freeze : Step RuleStore FrozenRules := do
  let groups ← onRules (Guarded.read fun rules =>
    rules.groups.map fun g => (g.predecessor, g.rules))
  return ⟨groups, (← get).tieBreak⟩

/-- The number of rules. -/
def size : Step RuleStore Nat :=
  onRules (Guarded.read RuleSet.size)

/-- All rules, predecessor by predecessor. -/
def toList : Step RuleStore (List Rule) :=
  onRules (Guarded.read RuleSet.toList)

/-- The answers of a store as it is now. -/
def rulebook (store : RuleStore) : Rulebook where
  answers := (RuleStore.size.runFrom store).1.map fun _ => ()
  window s := ((RuleStore.window s).runFrom store).1
  candidates s before after := ((RuleStore.candidates s before after).runFrom store).1

end RuleStore

end GrowthGrammar
