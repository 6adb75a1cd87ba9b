import GrowthGrammar.Proofs.Lock
import GrowthGrammar.Proofs.System.Locks
import GrowthGrammar.Proofs.Workspace.Call

/-!
# Systems that are made while others hold the locks

A system can be made on the table of another system or of a family, whose lock others may hold.
For a family its described names are entered, so the lock can refuse one of them.  The tables there
were keep their locks and have only grown, and the stores there were stay as they are
(`Workspace.GrownUnderLocks`).  The new store is not seen by anybody if a name is refused.

Main statement: what locks come to, for runs of a lock, for every operation on a reached system, for
systems that are made, and for names that are entered (`operations_under_locks`).  A run of
registrations that is refused halfway is the one case in which a store has changed
(`refused_registrations_stay`).
-/

namespace GrowthGrammar

namespace Workspace

/-- The tables there were keep their locks and have grown, and the stores there were are as they
were. -/
structure GrownUnderLocks (before after : Workspace) : Prop where
  /-- Every table is there, under the same lock, and has grown. -/
  tables : ∀ (i : Nat) (t : NameTable), before.tables[i]? = some t → ∃ now : NameTable,
    after.tables[i]? = some now ∧ now.lock = t.lock ∧ NameTable.GrownFrom t.value now
  /-- Every store is there as it was. -/
  stores : ∀ (i : Nat) (entry : TableId × RuleStore), before.stores[i]? = some entry →
    after.stores[i]? = some entry

theorem GrownUnderLocks.refl {ws : Workspace} (sound : ∀ t ∈ ws.tables, t.value.Sound) :
    GrownUnderLocks ws ws where
  tables _ t found := ⟨t, found, rfl, .refl (sound t (Array.mem_of_getElem? found))⟩
  stores _ _ found := found

variable {base : Workspace}

theorem look_grownUnderLocks {α : Type} (f : Workspace → Except Error α) :
    (Step.look f).Preserves (GrownUnderLocks base) :=
  .look _ f

theorem newSystemOn_grownUnderLocks (table : TableId) (tieBreak : TieBreak) (timeout : Timeout) :
    (newSystemOn table tieBreak timeout).Preserves (GrownUnderLocks base) := by
  intro ws grown
  refine ⟨grown.tables, fun i entry found => ?_⟩
  obtain ⟨inside, same⟩ := Array.getElem?_eq_some_iff.mp (grown.stores i entry found)
  show (ws.stores.push _)[i]? = some entry
  rw [Array.getElem?_push_lt inside, same]

/-- A computation on a system that keeps the lock of its table and its store. -/
theorem onSystem_grownUnderLocks {α : Type} (id : SystemId) {step : Step System α}
    (store : step.Keeps System.store) (lock : step.Keeps fun system => system.table.lock)
    (grows : ∀ v, step.Preserves fun system => NameTable.GrownFrom v system.table) :
    (onSystem id step).Preserves (GrownUnderLocks base) := by
  intro ws grown
  rw [onSystem, Step.runFrom_ofRun]
  cases found : ws.stores[id.index]? with
  | none => exact grown
  | some entry =>
    obtain ⟨table, rules⟩ := entry
    cases foundTable : ws.tables[table.index]? with
    | none => simpa only [foundTable] using grown
    | some t =>
      have sameStore : (step.runFrom ⟨t, rules⟩).2.store = rules := store ⟨t, rules⟩
      simp only [foundTable, sameStore, setIfInBounds_eq_self found]
      refine ⟨fun i old there => ?_, grown.stores⟩
      obtain ⟨now, foundNow, sameLock, since⟩ := grown.tables i old there
      by_cases here : table.index = i
      · subst here
        rw [foundTable, Option.some_inj] at foundNow
        subst foundNow
        have inside := (Array.getElem?_eq_some_iff.mp foundTable).1
        refine ⟨_, ?_, (lock ⟨t, rules⟩).trans sameLock, grows old.value ⟨t, rules⟩ since⟩
        rw [Array.getElem?_setIfInBounds_self, if_pos inside]
      · refine ⟨now, ?_, sameLock, since⟩
        rw [Array.getElem?_setIfInBounds_ne here, foundNow]

theorem enterNames_grownUnderLocks (id : SystemId) (names : List String) :
    (enterNames id names).Preserves (GrownUnderLocks base) :=
  onSystem_grownUnderLocks id (.discard fun _ => rfl)
    (.discard fun system => NameTable.enterAll_keeps_lock names system.table)
    fun _ => .bind (fun system => NameTable.enterAll_preserves names system.table)
      fun _ => .pure _ _

theorem tieBreakOf_grownUnderLocks (id : SystemId) :
    (tieBreakOf id).Preserves (GrownUnderLocks base) :=
  onSystem_grownUnderLocks id (fun _ => rfl) (fun _ => rfl) fun _ _ grown => grown

theorem family_grownUnderLocks (id : FamilyId) : (family id).Preserves (GrownUnderLocks base) := by
  intro ws grown
  cases found : ws.families[id.index]?.bind fun entry => ws.tables[entry.1.index]? with
  | none =>
    rw [family, onFamily_runFrom_of_missing found]
    exact grown
  | some t =>
    obtain ⟨⟨table, f⟩, foundFamily, foundTable⟩ := Option.bind_eq_some_iff.mp found
    rw [family, onFamily_runFrom foundFamily foundTable]
    show GrownUnderLocks base { ws with
      tables := ws.tables.setIfInBounds table.index t
      families := ws.families.setIfInBounds id.index (table, f) }
    rw [setIfInBounds_eq_self foundTable, setIfInBounds_eq_self foundFamily]
    exact grown

theorem systemOfFamily_grownUnderLocks (id : FamilyId) (tieBreak : TieBreak) :
    (systemOfFamily id tieBreak).Preserves (GrownUnderLocks base) :=
  .bind (look_grownUnderLocks _) fun table =>
    .bind (newSystemOn_grownUnderLocks table tieBreak _) fun system =>
    .bind (family_grownUnderLocks id) fun f =>
    .bind (enterNames_grownUnderLocks system (f.descriptions.map Description.name))
      fun _ => .pure _ _

end Workspace

/-! ## Making a system -/

/-- A way to make a system. -/
inductive Making
  /-- On a table. -/
  | onTable (table : TableId) (tieBreak : TieBreak) (timeout : Timeout)
  /-- On the table of another system. -/
  | beside (system : SystemId) (tieBreak : Option TieBreak) (timeout : Timeout)
  /-- On the table of a family. -/
  | ofFamily (family : FamilyId) (tieBreak : TieBreak)
  /-- On the table of a registered family. -/
  | ofRegistered (name : String) (tieBreak : TieBreak)

namespace Making

/-- Make a system. -/
def perform : Making → Step Workspace SystemId
  | .onTable table tieBreak timeout => Workspace.newSystemOn table tieBreak timeout
  | .beside system tieBreak timeout => Workspace.newSystemBeside system tieBreak timeout
  | .ofFamily family tieBreak => Workspace.systemOfFamily family tieBreak
  | .ofRegistered name tieBreak => Workspace.systemOfRegistered name tieBreak

theorem perform_preserves {base : Workspace} (making : Making) :
    making.perform.Preserves (Workspace.GrownUnderLocks base) := by
  cases making with
  | onTable table tieBreak timeout =>
    exact Workspace.newSystemOn_grownUnderLocks table tieBreak timeout
  | beside system tieBreak timeout =>
    exact .bind (Workspace.tieBreakOf_grownUnderLocks system) fun _ =>
      .bind (Workspace.look_grownUnderLocks _) fun table =>
        Workspace.newSystemOn_grownUnderLocks table _ _
  | ofFamily family tieBreak => exact Workspace.systemOfFamily_grownUnderLocks family tieBreak
  | ofRegistered name tieBreak =>
    refine .bind (Workspace.look_grownUnderLocks _) fun found => ?_
    cases found with
    | none => exact fun _ grown => grown
    | some id => exact Workspace.systemOfFamily_grownUnderLocks id tieBreak

end Making

/-! ## What locks come to -/

/-- What an operation has left. -/
structure Operation.Leaves (operation : Operation) (before : System)
    (outcome : Except Error Unit) (after : System) : Prop where
  /-- The lock of the table is as it was. -/
  tableLock : after.table.lock = before.table.lock
  /-- The lock of the store is as it was. -/
  storeLock : after.store.guarded.lock = before.store.guarded.lock
  /-- Names keep their codes. -/
  codes : ∀ name code, before.table.value.code? name = some code →
    after.table.value.code? name = some code
  /-- Codes keep their names. -/
  names : ∀ code name, before.table.value.name? code = some name →
    after.table.value.name? code = some name
  /-- If a lock refused, the store is as it was, up to rules registered before. -/
  store : ∀ e, outcome = .error e → e.kind = .locking → operation.LeftInStore e before after

theorem Operation.leaves_of_reached {tieBreak : TieBreak} {system after : System}
    {rules : List Rule} (reached : System.Reached tieBreak system rules) (operation : Operation)
    {outcome : Except Error Unit} (run : operation.perform.runFrom system = (outcome, after)) :
    operation.Leaves system outcome after := by
  obtain ⟨⟨registered, taken⟩, left⟩ := perform_taken reached.closed.sound operation run
  exact {
    tableLock := taken.tableLock
    storeLock := taken.storeLock
    codes := fun _ _ found => taken.grown.extended.code? found
    names := fun _ _ found => taken.grown.extended.name? found
    store := fun e failed _ => left e failed }

/-- Runs of a lock keep it proper and count its readers, and a refused call changes nothing.  On a
reached system under any locks every operation leaves both locks as they were, the names of the
table and, if a lock refuses, the store.  So does the making of a system for all tables and stores
there are.  A valid name is refused by the lock of a table exactly if a writer holds it, or a reader
and the name is new. -/
theorem operations_under_locks :
    (∀ (α : Type) (value : α) (name : String) (timeout : Timeout) (uses : List Lock.Use),
      let start : Guarded α := ⟨Lock.free name timeout, value⟩
      Guarded.Counts start (start.afterUses uses) (start.granted uses) ∧
        ∀ (use : Lock.Use) (e : Error) (now : Guarded α),
          use.perform.runFrom (start.afterUses uses) = (.error e, now) →
          now = start.afterUses uses) ∧
    (∀ (tieBreak : TieBreak) (system : System) (rules : List Rule),
      System.Reached tieBreak system rules →
      ∀ (operation : Operation) (outcome : Except Error Unit) (after : System),
        operation.perform.runFrom system = (outcome, after) →
        operation.Leaves system outcome after) ∧
    (∀ ws : Workspace, (∀ t ∈ ws.tables, t.value.Sound) → ∀ making : Making,
      ws.GrownUnderLocks (making.perform.runFrom ws).2) ∧
    (∀ t : NameTable, t.lock.TimesOut → ∀ (d : Datum) (name : String), Name.ofDatum d = .ok name →
      ∀ (outcome : Except Error Symbol) (after : NameTable),
        (NameTable.enterDatum d).runFrom t = (outcome, after) →
        ((∃ e, outcome = .error e ∧ e.kind = .locking) ↔
          t.lock.writing = true ∨ t.lock.readers ≠ 0 ∧ t.value.code? name = none) ∧
        ∀ e, outcome = .error e → after = t) := by
  refine ⟨fun α value name timeout uses => ⟨?_, fun use e now refused => ?_⟩,
    fun tieBreak system rules reached operation outcome after run => ?_,
    fun ws sound making => ?_, fun t ends d name named outcome after run => ?_⟩
  · exact Guarded.counts_afterUses (Lock.free_isProper name timeout) uses
  · exact Guarded.perform_of_error refused
  · exact operation.leaves_of_reached reached run
  · exact making.perform_preserves ws (.refl sound)
  · exact NameTable.enterDatum_refused_iff ends named run

/-- A system with the name `X`, whose table a reader holds. -/
def readerHeld : System :=
  ⟨⟨⟨"symbol table", .whole 0, 1, false⟩, .ofNames ["X"]⟩, .new .pool (.whole 0)⟩

theorem readerHeld_reached : System.Reached .pool readerHeld [] :=
  .new ⟨by decide, by decide⟩ _

theorem readerHeld_timesOut : readerHeld.table.lock.TimesOut :=
  fun _ => ⟨.whole 0, rfl⟩

/-- A reader of the table keeps out a rule with a new name and that name, but not the name `X`. -/
theorem operations_under_locks_reader :
    let adding := Operation.add (.written "X -> Y")
    let (outcome, after) := adding.perform.runFrom readerHeld
    let (old, _) := (NameTable.enterDatum (.text "X")).runFrom readerHeld.table
    let (new, same) := (NameTable.enterDatum (.text "Y")).runFrom readerHeld.table
    adding.Leaves readerHeld outcome after ∧ (¬ ∃ e, old = .error e ∧ e.kind = .locking) ∧
      (∃ e, new = .error e ∧ e.kind = .locking) ∧ ∀ e, new = .error e → same = readerHeld.table := by
  obtain ⟨-, left, -, refused⟩ := operations_under_locks
  have known := refused _ readerHeld_timesOut (.text "X") "X" rfl _ _ rfl
  have unknown := refused _ readerHeld_timesOut (.text "Y") "Y" rfl _ _ rfl
  refine ⟨left .pool readerHeld [] readerHeld_reached _ _ _ rfl, fun failed => ?_,
    unknown.1.mpr (.inr ⟨Nat.one_ne_zero, by decide +kernel⟩), unknown.2⟩
  rcases known.1.mp failed with writing | ⟨-, new⟩
  · exact Bool.false_ne_true writing
  · exact absurd new (by decide +kernel)

/-- A lock refused a computation. -/
def wasRefused {α : Type} : Except Error α → Bool
  | .error e => e.kind == .locking
  | .ok _ => false

/-- Not every operation that a lock refuses leaves the store as it was: of two rules to register,
the first stays although the second has a new name, which a reader of the table keeps out. -/
theorem refused_registrations_stay :
    ¬ ∀ (tieBreak : TieBreak) (system : System) (rules : List Rule),
      System.Reached tieBreak system rules →
      ∀ (operation : Operation) (e : Error) (after : System),
        operation.perform.runFrom system = (.error e, after) → e.kind = .locking →
        after.store = system.store := by
  intro unchanged
  let both := Operation.addAll [.written "X -> X", .written "X -> Y"]
  rcases run : both.perform.runFrom readerHeld with ⟨outcome, after⟩
  have refused : wasRefused (both.perform.runFrom readerHeld).1 = true := by
    decide +kernel
  have size : (both.perform.runFrom readerHeld).2.store.guarded.value.size = 1 := by
    decide +kernel
  rw [run] at refused size
  cases outcome with
  | ok _ => cases refused
  | error e =>
    have same := unchanged .pool readerHeld [] readerHeld_reached both e after run
      (eq_of_beq refused)
    rw [same] at size
    exact Nat.zero_ne_one size

end GrowthGrammar
