import GrowthGrammar.Proofs.NameTable
import GrowthGrammar.Proofs.RuleStore
import GrowthGrammar.System

/-!
# Registering rules

A system registers a rule exactly if its table gave every symbol of the rule its
code.  A rule that is refused leaves the system as it was, and one that is accepted
joins the others (`System.add_runFrom`).

`RuleStore.Registered` relates a store to the list of the rules that successful
registrations brought into it.  Its table may have become another one between two of
them.  The list determines everything the store holds (`Registered.value_eq`).
-/

namespace GrowthGrammar

/-! ## Symbols of one vocabulary -/

namespace Vocabulary

/-- Two symbols of one vocabulary with the same code have the same name. -/
theorem name_eq_of_same {v : Vocabulary} {a b : Symbol} (aGiven : v.contains a = true)
    (bGiven : v.contains b = true) (same : a.same b = true) : a.name = b.name := by
  rw [contains_iff] at aGiven bGiven
  rw [Symbol.same_iff.mp same, bGiven] at aGiven
  exact (Option.some.inj aGiven).symm

/-- In a sound vocabulary symbols are the same exactly if their names are. -/
theorem Sound.same_iff {v : Vocabulary} (sound : v.Sound) {a b : Symbol}
    (aGiven : v.contains a = true) (bGiven : v.contains b = true) :
    a.same b = true ↔ a.name = b.name := by
  refine ⟨name_eq_of_same aGiven bGiven, fun sameName => ?_⟩
  obtain ⟨j, aCode, aFound⟩ := (sound.contains_iff a).mp aGiven
  obtain ⟨k, bCode, bFound⟩ := (sound.contains_iff b).mp bGiven
  rw [sameName, bFound] at aFound
  rw [Symbol.same_iff, aCode, bCode, Option.some.inj aFound]

end Vocabulary

namespace System

/-- The table of the system gave every symbol of the word its code. -/
def Knows (system : System) (w : Word) : Prop :=
  ∀ s ∈ w, system.table.value.contains s = true

instance (system : System) (w : Word) : Decidable (system.Knows w) :=
  inferInstanceAs (Decidable (∀ s ∈ w, system.table.value.contains s = true))

theorem keeps_store_onTable {α : Type} (step : Step NameTable α) :
    (onTable step).Keeps System.store :=
  fun _ => rfl

theorem onTable_runFrom {α : Type} {step : Step NameTable α} {system : System}
    {outcome : Except Error α} {table : NameTable}
    (run : step.runFrom system.table = (outcome, table)) :
    (onTable step).runFrom system = (outcome, { system with table := table }) := by
  simp only [onTable, Step.runFrom_on, run]

theorem onStore_runFrom {α : Type} {step : Step RuleStore α} {system : System}
    {outcome : Except Error α} {store : RuleStore}
    (run : step.runFrom system.store = (outcome, store)) :
    (onStore step).runFrom system = (outcome, { system with store := store }) := by
  simp only [onStore, Step.runFrom_on, run]

/-- A sequence of two computations on the table, one after the other on the system. -/
theorem onTable_bind {α β : Type} (x : Step NameTable α) (f : α → Step NameTable β) :
    onTable (x >>= f) = onTable x >>= fun a => onTable (f a) := by
  funext system
  show (onTable (x >>= f)).runFrom system = (onTable x >>= fun a => onTable (f a)).runFrom system
  rw [Step.runFrom_bind]
  simp only [onTable, Step.runFrom_on, Step.runFrom_bind]
  rcases x.runFrom system.table with ⟨outcome, t⟩
  cases outcome <;> rfl

/-! ## Checking symbols -/

theorem checkSymbols_keeps_store (w : Word) : (checkSymbols w).Keeps System.store := by
  induction w with
  | nil => exact .pure _ _
  | cons s rest ih =>
    refine .bind (keeps_store_onTable _) fun known => ?_
    cases known with
    | true => exact ih
    | false =>
      refine .bind (keeps_store_onTable _) fun named => ?_
      cases named <;> exact .throw _ _

theorem checkSymbols_runFrom_of_knows {system : System} (free : system.table.lock.IsFree)
    {w : Word} (known : system.Knows w) :
    (checkSymbols w).runFrom system = (.ok (), system) := by
  induction w with
  | nil => rfl
  | cons s rest ih =>
    have here : system.table.value.contains s = true := known s (by simp)
    rw [checkSymbols,
      Step.runFrom_bind_ok (onTable_runFrom (NameTable.contains_runFrom free s)), here]
    exact ih fun other member => known other (by simp [member])

/-- A symbol that the table did not give its code is refused, and nothing changes. -/
theorem checkSymbols_runFrom_of_not_knows {system : System} (free : system.table.lock.IsFree)
    {w : Word} (unknown : ¬ system.Knows w) :
    ∃ fault, (checkSymbols w).runFrom system = (.error (.symbol fault), system) := by
  induction w with
  | nil => exact absurd (fun s member => by cases member) unknown
  | cons s rest ih =>
    rw [checkSymbols, Step.runFrom_bind_ok (onTable_runFrom (NameTable.contains_runFrom free s))]
    cases here : system.table.value.contains s with
    | true =>
      refine ih fun known => unknown fun other member => ?_
      rcases List.mem_cons.mp member with rfl | later
      · exact here
      · exact known other later
    | false =>
      simp only [Bool.false_eq_true, if_false]
      rw [Step.runFrom_bind_ok (onTable_runFrom (NameTable.nameAt_runFrom free s.code))]
      cases system.table.value.name? s.code with
      | none => exact ⟨_, rfl⟩
      | some here => exact ⟨_, rfl⟩

/-! ## Registering -/

/-- The system after one more rule. -/
def withRule (system : System) (r : Rule) : System :=
  { system with store := system.store.withRule r }

theorem add_runFrom {system : System} (tableFree : system.table.lock.IsFree)
    (storeFree : system.store.guarded.lock.IsFree) {r : Rule} (known : system.Knows r.symbols) :
    (add r).runFrom system = (.ok r, system.withRule r) := by
  rw [add, Step.runFrom_bind_ok (checkSymbols_runFrom_of_knows tableFree known),
    Step.runFrom_bind_ok (onStore_runFrom (RuleStore.insert_runFrom storeFree r))]
  rfl

theorem add_runFrom_of_not_knows {system : System} (tableFree : system.table.lock.IsFree)
    {r : Rule} (unknown : ¬ system.Knows r.symbols) :
    ∃ fault, (add r).runFrom system = (.error (.symbol fault), system) := by
  obtain ⟨fault, refused⟩ := checkSymbols_runFrom_of_not_knows tableFree unknown
  exact ⟨fault, by rw [add, Step.runFrom_bind_error refused]⟩

/-- A rule that is accepted has joined the rules of the store. -/
theorem store_of_add {system after : System} (free : system.store.guarded.lock.IsFree)
    {r accepted : Rule} (run : (add r).runFrom system = (.ok accepted, after)) :
    after.store = system.store.withRule r := by
  obtain ⟨_, between, checked, stored⟩ := Step.ok_of_runFrom_bind run
  have kept : between.store = system.store := by
    have := checkSymbols_keeps_store r.symbols system
    rwa [checked] at this
  have stillFree : between.store.guarded.lock.IsFree := by rw [kept]; exact free
  rw [Step.runFrom_bind_ok (onStore_runFrom (RuleStore.insert_runFrom stillFree r))] at stored
  cases stored
  exact congrArg (RuleStore.withRule · r) kept

end System

/-! ## Histories of a store -/

namespace RuleStore

/-- The store holds the rules of the list, which successful registrations brought into
it one after the other. -/
inductive Registered (tieBreak : TieBreak) : RuleStore → List Rule → Prop
  /-- A new store holds no rules. -/
  | new (timeout : Timeout) : Registered tieBreak (RuleStore.new tieBreak timeout) []
  /-- A registration that a system with some table accepts adds its rule. -/
  | add {before after : System} {rules : List Rule} {r : Rule} :
    Registered tieBreak before.store rules →
    (System.add r).runFrom before = (.ok r, after) →
    Registered tieBreak after.store (rules ++ [r])

variable {tieBreak : TieBreak} {store : RuleStore} {rules : List Rule}

theorem Registered.free (history : Registered tieBreak store rules) :
    store.guarded.lock.IsFree := by
  induction history with
  | new timeout => exact Lock.free_isFree _ _
  | add _ accepted free =>
    rw [System.store_of_add free accepted]
    exact free

theorem Registered.tieBreak_eq (history : Registered tieBreak store rules) :
    store.tieBreak = tieBreak := by
  induction history with
  | new timeout => rfl
  | add earlier accepted same =>
    rw [System.store_of_add earlier.free accepted]
    exact same

/-- A store holds what its registrations make of an empty rule set. -/
theorem Registered.value_eq (history : Registered tieBreak store rules) :
    store.guarded.value = RuleSet.ofList rules := by
  induction history with
  | new timeout => rfl
  | add earlier accepted same =>
    rw [System.store_of_add earlier.free accepted, RuleSet.ofList_append_singleton, ← same]
    rfl

end RuleStore

end GrowthGrammar
