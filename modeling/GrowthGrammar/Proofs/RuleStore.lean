import GrowthGrammar.Proofs.Guarded
import GrowthGrammar.Proofs.Rule.Candidates
import GrowthGrammar.RuleStore

/-!
# What a rule set holds

A rule set is determined by the rules that were registered, in their order
(`RuleSet.ofList`).  The rules of a predecessor are those of the list with that
predecessor (`rulesOf_ofList`), and its window is the one of these rules
(`window_ofList`), although a rule set never goes through its rules again but widens
a window with each rule it gets.

Groups stand apart: each holds rules of one predecessor, and no two have the same one.  So
the listing of a rule set is a rearrangement of the registered rules that keeps those of
each predecessor in their order (`toList_ofList_perm`, `filter_toList_ofList`).

The answers of a store with a free lock are those of its rule set, and frozen rules
give the same ones.
-/

namespace GrowthGrammar

namespace RuleSet

/-! ## One more rule -/

theorem group?_addTo (r : Rule) (s : Symbol) (groups : List RuleGroup) :
    (addTo r groups).find? (·.predecessor.same s) =
      if r.predecessor.same s then
        some (((groups.find? (·.predecessor.same s)).map (·.add r)).getD (.single r))
      else groups.find? (·.predecessor.same s) := by
  induction groups with
  | nil => by_cases wanted : r.predecessor.same s <;> simp [addTo, RuleGroup.single, wanted]
  | cons g rest ih =>
    by_cases mine : g.predecessor.same r.predecessor = true
    · have alike : g.predecessor.same s = r.predecessor.same s := by
        simp only [Symbol.same_iff] at mine
        simp [Symbol.same, mine]
      have kept : (g.add r).predecessor = g.predecessor := rfl
      simp only [addTo, mine, if_true, List.find?_cons, kept, alike]
      by_cases wanted : r.predecessor.same s <;> simp [wanted]
    · simp only [addTo, mine, List.find?_cons, Bool.false_eq_true, if_false, ih]
      by_cases found : g.predecessor.same s = true
      · have other : ¬ r.predecessor.same s = true := by
          intro wanted
          rw [Symbol.same_iff] at found wanted mine
          exact mine (found.trans wanted.symm)
        simp [found, other]
      · simp [found]

theorem group?_add (rules : RuleSet) (r : Rule) (s : Symbol) :
    (rules.add r).group? s =
      if r.predecessor.same s then some (((rules.group? s).map (·.add r)).getD (.single r))
      else rules.group? s :=
  group?_addTo r s rules.groups

/-- A rule joins the rules of its predecessor behind those that are there. -/
theorem rulesOf_add (rules : RuleSet) (r : Rule) (s : Symbol) :
    (rules.add r).rulesOf s =
      if r.predecessor.same s then rules.rulesOf s ++ [r] else rules.rulesOf s := by
  rw [rulesOf, group?_add]
  by_cases wanted : r.predecessor.same s = true
  · cases found : rules.group? s <;>
      simp [wanted, rulesOf, found, RuleGroup.add, RuleGroup.single]
  · simp [wanted, rulesOf]

/-- A rule widens the window of its predecessor as far as its contexts reach. -/
theorem window_add (rules : RuleSet) (r : Rule) (s : Symbol) :
    (rules.add r).window s =
      if r.predecessor.same s then
        (max (rules.window s).1 r.left.length, max (rules.window s).2 r.right.length)
      else rules.window s := by
  rw [window, group?_add]
  by_cases wanted : r.predecessor.same s = true
  · cases found : rules.group? s <;>
      simp [wanted, window, found, RuleGroup.add, RuleGroup.single]
  · simp [wanted, window]

/-! ## All rules -/

/-- The rule set that holds some rules, registered in their order. -/
def ofList (rules : List Rule) : RuleSet := rules.foldl add empty

theorem ofList_append_singleton (rules : List Rule) (r : Rule) :
    ofList (rules ++ [r]) = (ofList rules).add r := by
  simp [ofList]

theorem rulesOf_foldl_add (start : RuleSet) (rules : List Rule) (s : Symbol) :
    (rules.foldl add start).rulesOf s =
      start.rulesOf s ++ rules.filter (·.predecessor.same s) := by
  induction rules generalizing start with
  | nil => simp
  | cons r rest ih =>
    rw [List.foldl_cons, ih, rulesOf_add, List.filter_cons]
    by_cases wanted : r.predecessor.same s = true <;> simp [wanted]

theorem window_foldl_add (start : RuleSet) (rules : List Rule) (s : Symbol) :
    (rules.foldl add start).window s =
      ((rules.filter (·.predecessor.same s)).foldl (fun most r => max most r.left.length)
          (start.window s).1,
        (rules.filter (·.predecessor.same s)).foldl (fun most r => max most r.right.length)
          (start.window s).2) := by
  induction rules generalizing start with
  | nil => simp
  | cons r rest ih =>
    rw [List.foldl_cons, ih, window_add, List.filter_cons]
    by_cases wanted : r.predecessor.same s = true <;> simp [wanted]

/-- The rules of a predecessor are those registered for it, in their order. -/
theorem rulesOf_ofList (rules : List Rule) (s : Symbol) :
    (ofList rules).rulesOf s = rules.filter (·.predecessor.same s) := by
  rw [ofList, rulesOf_foldl_add]
  rfl

/-- The window of a predecessor is the one of the rules registered for it. -/
theorem window_ofList (rules : List Rule) (s : Symbol) :
    (ofList rules).window s = Rule.windowOf (rules.filter (·.predecessor.same s)) := by
  rw [ofList, window_foldl_add]
  rfl

theorem flatMap_addTo_perm (r : Rule) (groups : List RuleGroup) :
    ((addTo r groups).flatMap RuleGroup.rules).Perm (groups.flatMap RuleGroup.rules ++ [r]) := by
  induction groups with
  | nil => exact .refl _
  | cons g rest ih =>
    rw [addTo]
    split
    · rw [List.flatMap_cons, List.flatMap_cons, RuleGroup.add, List.append_assoc, List.append_assoc]
      exact List.perm_append_comm.append_left _
    · rw [List.flatMap_cons, List.flatMap_cons, List.append_assoc]
      exact ih.append_left _

theorem toList_foldl_add_perm (start : RuleSet) (rules : List Rule) :
    (rules.foldl add start).toList.Perm (start.toList ++ rules) := by
  induction rules generalizing start with
  | nil => rw [List.append_nil]; exact .refl _
  | cons r rest ih =>
    have first : (start.add r).toList.Perm (start.toList ++ [r]) := flatMap_addTo_perm r _
    refine (ih (start.add r)).trans ((first.append_right rest).trans ?_)
    rw [List.append_assoc, List.singleton_append]

/-- A rule set lists the rules that were registered, each as often as it was, predecessor by
predecessor. -/
theorem toList_ofList_perm (rules : List Rule) : (ofList rules).toList.Perm rules :=
  toList_foldl_add_perm empty rules

/-! ## Groups -/

theorem forall_mem_addTo {Q : Symbol → Prop} {r : Rule} {groups : List RuleGroup}
    (all : ∀ g ∈ groups, Q g.predecessor) (new : Q r.predecessor) :
    ∀ g ∈ addTo r groups, Q g.predecessor := by
  induction groups with
  | nil => exact List.forall_mem_singleton.mpr new
  | cons g rest ih =>
    obtain ⟨here, later⟩ := List.forall_mem_cons.mp all
    rw [addTo]
    split
    · exact List.forall_mem_cons.mpr ⟨here, later⟩
    · exact List.forall_mem_cons.mpr ⟨here, ih later⟩

/-- What the groups of a rule set keep. -/
structure IsGrouped (groups : List RuleGroup) : Prop where
  /-- The rules of a group have its predecessor. -/
  own : ∀ g ∈ groups, ∀ r ∈ g.rules, r.predecessor.same g.predecessor = true
  /-- No two groups have the same predecessor. -/
  apart : groups.Pairwise fun g h => ¬ g.predecessor.same h.predecessor = true

theorem IsGrouped.addTo {groups : List RuleGroup} (grouped : IsGrouped groups) (r : Rule) :
    IsGrouped (addTo r groups) := by
  induction groups with
  | nil => exact ⟨by simp [RuleSet.addTo, RuleGroup.single, Symbol.same], by simp [RuleSet.addTo]⟩
  | cons g rest ih =>
    obtain ⟨own, apart⟩ := grouped
    obtain ⟨ownHere, ownLater⟩ := List.forall_mem_cons.mp own
    obtain ⟨apartHere, apartLater⟩ := List.pairwise_cons.mp apart
    rw [RuleSet.addTo]
    split
    case isTrue mine =>
      have joined : ∀ q ∈ (g.add r).rules, q.predecessor.same g.predecessor = true :=
        List.forall_mem_append.mpr
          ⟨ownHere, List.forall_mem_singleton.mpr (Symbol.same_comm _ _ ▸ mine)⟩
      exact ⟨List.forall_mem_cons.mpr ⟨joined, ownLater⟩,
        List.pairwise_cons.mpr ⟨apartHere, apartLater⟩⟩
    case isFalse other =>
      obtain ⟨own, apart⟩ := ih ⟨ownLater, apartLater⟩
      have stillApart := forall_mem_addTo (Q := fun s => ¬ g.predecessor.same s = true)
        apartHere other
      exact ⟨List.forall_mem_cons.mpr ⟨ownHere, own⟩, List.pairwise_cons.mpr ⟨stillApart, apart⟩⟩

theorem isGrouped_foldl_add {start : RuleSet} (grouped : IsGrouped start.groups)
    (rules : List Rule) : IsGrouped (rules.foldl add start).groups := by
  induction rules generalizing start with
  | nil => exact grouped
  | cons r rest ih => exact ih (grouped.addTo r)

theorem filter_rules_of_own {g : RuleGroup}
    (own : ∀ r ∈ g.rules, r.predecessor.same g.predecessor = true) (s : Symbol) :
    g.rules.filter (·.predecessor.same s) = if g.predecessor.same s then g.rules else [] := by
  split
  case isTrue mine =>
    rw [List.filter_eq_self]
    intro r member
    rw [Symbol.same_iff] at mine ⊢
    exact (Symbol.same_iff.mp (own r member)).trans mine
  case isFalse other =>
    rw [List.filter_eq_nil_iff]
    intro r member same
    rw [Symbol.same_iff] at other same
    exact other ((Symbol.same_iff.mp (own r member)).symm.trans same)

/-- Among the rules of all groups, those of a predecessor are the rules of its group. -/
theorem IsGrouped.filter_flatMap {groups : List RuleGroup} (grouped : IsGrouped groups)
    (s : Symbol) :
    (groups.flatMap RuleGroup.rules).filter (·.predecessor.same s) =
      ((groups.find? (·.predecessor.same s)).map RuleGroup.rules).getD [] := by
  induction groups with
  | nil => rfl
  | cons g rest ih =>
    obtain ⟨own, apart⟩ := grouped
    obtain ⟨ownHere, ownLater⟩ := List.forall_mem_cons.mp own
    obtain ⟨apartHere, apartLater⟩ := List.pairwise_cons.mp apart
    rw [List.flatMap_cons, List.filter_append, ih ⟨ownLater, apartLater⟩,
      filter_rules_of_own ownHere, List.find?_cons]
    cases mine : g.predecessor.same s with
    | false => rfl
    | true =>
      -- no later group has this predecessor
      have absent : rest.find? (·.predecessor.same s) = none := by
        rw [List.find?_eq_none]
        intro h member same
        refine apartHere h member ?_
        rw [Symbol.same_iff] at mine same ⊢
        exact mine.trans same.symm
      simp [absent]

/-- A rule set lists the rules of each predecessor in the order of their registration. -/
theorem filter_toList_ofList (rules : List Rule) (s : Symbol) :
    (ofList rules).toList.filter (·.predecessor.same s) = rules.filter (·.predecessor.same s) := by
  have grouped : IsGrouped (ofList rules).groups := isGrouped_foldl_add ⟨by simp, .nil⟩ rules
  rw [← rulesOf_ofList rules]
  exact grouped.filter_flatMap s

end RuleSet

/-! ## Answers of a store -/

namespace RuleStore

/-- The store after one more rule. -/
def withRule (store : RuleStore) (r : Rule) : RuleStore :=
  { store with guarded := { store.guarded with value := store.guarded.value.add r } }

/-- What the store holds, without its lock. -/
def frozen (store : RuleStore) : FrozenRules :=
  ⟨store.guarded.value.groups.map fun g => (g.predecessor, g.rules), store.tieBreak⟩

variable {store : RuleStore} (free : store.guarded.lock.IsFree)

include free

theorem insert_runFrom (r : Rule) :
    (insert r).runFrom store = (.ok (), store.withRule r) := by
  simp only [insert, onRules, Step.runFrom_on, Guarded.write_runFrom free]
  rfl

theorem freeze_runFrom : freeze.runFrom store = (.ok store.frozen, store) := by
  have opened : (onRules (Guarded.read fun rules : RuleSet =>
      rules.groups.map fun g => (g.predecessor, g.rules))).runFrom store =
        (.ok store.frozen.groups, store) := by
    simp only [onRules, Step.runFrom_on, Guarded.read_runFrom free]
    rfl
  rw [freeze, Step.runFrom_bind_ok opened]
  rfl

theorem window_runFrom (s : Symbol) :
    (window s).runFrom store = (.ok (store.guarded.value.window s), store) := by
  simp only [window, onRules, Step.runFrom_on, Guarded.read_runFrom free]

theorem rulesOf_runFrom (s : Symbol) :
    (rulesOf s).runFrom store = (.ok (store.guarded.value.rulesOf s), store) := by
  simp only [rulesOf, onRules, Step.runFrom_on, Guarded.read_runFrom free]

theorem candidates_runFrom (s : Symbol) (before after : Word) :
    (candidates s before after).runFrom store =
      (.ok (Rule.candidates store.tieBreak (store.guarded.value.rulesOf s) before after),
        store) := by
  rw [candidates, Step.runFrom_bind_ok (rulesOf_runFrom free s)]
  rfl

theorem size_runFrom : size.runFrom store = (.ok store.guarded.value.size, store) := by
  simp only [size, onRules, Step.runFrom_on, Guarded.read_runFrom free]

theorem toList_runFrom : toList.runFrom store = (.ok store.guarded.value.toList, store) := by
  simp only [toList, onRules, Step.runFrom_on, Guarded.read_runFrom free]

theorem rulebook_window (s : Symbol) :
    store.rulebook.window s = .ok (store.guarded.value.window s) := by
  simp only [rulebook, window_runFrom free]

theorem rulebook_candidates (s : Symbol) (before after : Word) :
    store.rulebook.candidates s before after =
      .ok (Rule.candidates store.tieBreak (store.guarded.value.rulesOf s) before after) := by
  simp only [rulebook, candidates_runFrom free]

end RuleStore

namespace FrozenRules

theorem rulesOf_frozen (store : RuleStore) (s : Symbol) :
    store.frozen.rulesOf s = store.guarded.value.rulesOf s := by
  simp [rulesOf, RuleStore.frozen, RuleSet.rulesOf, RuleSet.group?, List.find?_map,
    Function.comp_def]

theorem size_frozen (store : RuleStore) : store.frozen.size = store.guarded.value.size := by
  simp [size, RuleStore.frozen, RuleSet.size, RuleSet.toList, List.flatMap_map]

end FrozenRules

end GrowthGrammar
