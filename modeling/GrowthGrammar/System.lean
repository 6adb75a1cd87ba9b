import GrowthGrammar.Derivation
import GrowthGrammar.Settings.Schedule

/-!
# Systems

A system is a rule store over a name table.  A rule is only registered if the
table gave every one of its symbols their codes, and a word is only derived if
the table gave every one of its symbols theirs.

A derivation looks at the store once, before its first pass, so it is not touched
by what happens to the store later.  It draws from the generator of its seed.
Without a seed it draws from a fresh generator, which can be any.
-/

namespace GrowthGrammar

open GrowthGrammar.Random (Generator)

/-- A rule store over a name table. -/
structure System where
  /-- The table of the names. -/
  table : NameTable
  /-- The rules. -/
  store : RuleStore

namespace System

/-- A system without names and rules. -/
def new (tieBreak : TieBreak) (timeout : Timeout) : System :=
  ⟨NameTable.new timeout, RuleStore.new tieBreak timeout⟩

/-- A computation on the table of a system. -/
def onTable {α : Type} (step : Step NameTable α) : Step System α :=
  Step.on System.table (fun t s => { s with table := t }) step

/-- A computation on the store of a system. -/
def onStore {α : Type} (step : Step RuleStore α) : Step System α :=
  Step.on System.store (fun r s => { s with store := r }) step

/-! ## Rules -/

/-- Refuse symbols that the table did not give their codes. -/
def checkSymbols : Word → Step System Unit
  | [] => return ()
  | s :: rest => do
    if ← onTable (NameTable.contains s) then checkSymbols rest
    else
      match ← onTable (NameTable.nameAt s.code) with
      | none => throw (.symbol (.noSuchCode s))
      | some here => throw (.symbol (.otherName s here))

/-- Register a rule. -/
def add (r : Rule) : Step System Rule := do
  checkSymbols r.symbols
  onStore (RuleStore.insert r)
  return r

/-- Register the rule that a text writes. -/
def addText (text : String) : Step System Rule := do
  add (← onTable (Rule.read text))

/-- A rule to register: one that is there, or one that a text writes. -/
inductive RuleSource
  /-- A rule. -/
  | built (r : Rule)
  /-- The rule that a text writes. -/
  | written (text : String)

/-- Register the rule of a source. -/
def addFrom : RuleSource → Step System Rule
  | .built r => add r
  | .written text => addText text

/-- Register some rules one after the other, up to the first that is refused. -/
def addAll (sources : List RuleSource) : Step System (List Rule) :=
  sources.mapM addFrom

/-- The number of names and the number of rules. -/
def counts : Step System (Nat × Nat) := do
  return (← onTable NameTable.size, ← onStore RuleStore.size)

/-- A system as a message shows it. -/
def shown : Step System String := do
  let (names, rules) ← counts
  return "System(" ++ toString names ++ " symbols, " ++ toString rules
    ++ " productions, tie_break=" ++ (← get).store.tieBreak.word ++ ")"

/-! ## Derivation -/

/-- Refuse a word with a symbol that the table did not give its code.
`position` is the place of the first symbol of the rest. -/
def checkWordFrom (position : Nat) : Word → Step System Unit
  | [] => return ()
  | s :: rest => do
    if ← onTable (NameTable.contains s) then checkWordFrom (position + 1) rest
    else throw (.symbol (.atPosition s position))

/-- Refuse a word with a symbol that the table did not give its code. -/
def checkWord (w : Word) : Step System Unit :=
  checkWordFrom 0 w

/-- Do something with the word that a draft is.  What is refused first, a symbol or
a datum, is reported. -/
def onDraft {α : Type} (d : Draft) (step : Word → Step System α) : Step System α :=
  match d.word with
  | .ok w => step w
  | .error e => do
    checkWord d.leading
    throw e

/-- One pass over a word of the system, with the draws of a generator. -/
def pass (w : Word) : Step (System × Generator) Word := do
  let frozen ← Step.on Prod.fst (fun s p => (s, p.2))
    (do checkWord w; onStore RuleStore.freeze)
  Step.on Prod.snd (fun g p => (p.1, g)) (Derivation.pass frozen.rulebook w)

/-- The generator of a derivation: the one of its seed, or a fresh one. -/
def generatorOf (settings : Schedule) (fresh : Generator) : Generator :=
  match settings.seed with
  | some seed => Generator.ofSeed seed
  | none => fresh

/-- The word after the passes that the settings ask for.  The fresh generator is for
settings without a seed. -/
def derive (settings : Schedule) (fresh : Generator) (w : Word) : Step System Word := do
  checkWord w
  if settings.iterations = 0 then return w
  else
    let frozen ← onStore RuleStore.freeze
    let run := Derivation.derive frozen.rulebook settings.iterations w
    ExceptT.mk (pure (run.runFrom (generatorOf settings fresh)).1)

end System

end GrowthGrammar
