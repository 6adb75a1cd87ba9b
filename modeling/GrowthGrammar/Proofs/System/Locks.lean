import GrowthGrammar.Proofs.Lock
import GrowthGrammar.Proofs.System.Reached

/-!
# Operations while others hold the locks

The locks of a table and of a store may be held by others for as long as an operation runs.  An
operation may have to take several locks one after the other, and each of them may be refused.
Every access gives back what it took, so the locks are left as they were found, and the table has
only grown.

Most operations ask something and leave everything as it was (`Step.Keeps id`).  Reading into a
table changes the table alone.  Registering a rule changes the store last, so a rule that is
refused has not changed it (`System.addFrom_taken`).  Only an operation that registers several
rules can change the store and be refused nevertheless: the rules before the one that was refused
stay (`System.addAll_taken`).

Main statement: all of this for every operation under any locks (`Operation.perform_taken`).  When
a name is refused by the lock of its table is told by `NameTable.enterDatum_refused_iff`.
-/

namespace GrowthGrammar

/-! ## Computations that change nothing -/

namespace Step

variable {σ τ α β : Type}

theorem Keeps.get : Keeps id (MonadState.get : Step σ σ) := fun _ => rfl

theorem Keeps.on {part : σ → τ} {put : τ → σ → σ} {x : Step τ α} (kept : x.Keeps id)
    (put_part : ∀ s, put (part s) s = s) : (on part put x).Keeps id := by
  intro s
  have same : (x.runFrom (part s)).2 = part s := kept (part s)
  rw [runFrom_on, same]
  exact put_part s

theorem Keeps.discard {part : σ → τ} {x : Step σ α} (kept : x.Keeps part) :
    (do let _ ← x : Step σ Unit).Keeps part :=
  kept.bind fun _ => .pure _ _

end Step

namespace Guarded

variable {α β : Type}

theorem read_keeps (f : α → β) : (Guarded.read f).Keeps id := by
  intro g
  rcases read_cases g f with found | ⟨fault, refused⟩
  · rw [found]
  · rw [refused]

theorem read_runFrom_of_writing {g : Guarded α} (held : g.lock.writing = true) (f : α → β) :
    (Guarded.read f).runFrom g = (.error (.lock (g.lock.waitFault .reading none)), g) := by
  obtain ⟨⟨name, timeout, readers, writing⟩, value⟩ := g
  cases held
  rfl

theorem read_runFrom_of_not_writing {g : Guarded α} (noWriter : g.lock.writing = false)
    (f : α → β) : (Guarded.read f).runFrom g = (.ok (f g.value), g) := by
  obtain ⟨⟨name, timeout, readers, writing⟩, value⟩ := g
  cases noWriter
  rfl

theorem write_runFrom_of_readers {g : Guarded α} (noWriter : g.lock.writing = false)
    (held : g.lock.readers ≠ 0) (f : α → β × α) :
    (Guarded.write f).runFrom g = (.error (.lock (g.lock.waitFault .writing none)), g) := by
  obtain ⟨⟨name, timeout, readers, writing⟩, value⟩ := g
  cases noWriter
  cases readers with
  | zero => exact absurd rfl held
  | succ readers => rfl

theorem write_keeps_lock (f : α → β × α) : (Guarded.write f).Keeps Guarded.lock := by
  intro g
  rcases write_cases g f with written | ⟨fault, refused⟩
  · rw [written]
  · rw [refused]

theorem read_keeps_lock (f : α → β) : (Guarded.read f).Keeps Guarded.lock :=
  fun g => congrArg Guarded.lock (read_keeps f g)

end Guarded

namespace NameTable

theorem enter_keeps_lock (name : String) : (enter name).Keeps Guarded.lock := by
  rw [enter]
  cases Name.fault? name with
  | some fault => exact .throw _ _
  | none =>
    refine .bind (Guarded.read_keeps_lock _) fun seen => ?_
    cases seen with
    | some s => exact .pure _ _
    | none => exact Guarded.write_keeps_lock _

theorem enterFrom_keeps_lock (done : Word) (names : List String) :
    (enterFrom done names).Keeps Guarded.lock := by
  induction names generalizing done with
  | nil => exact .pure _ _
  | cons name rest ih => exact .bind (enter_keeps_lock name) fun s => ih (s :: done)

theorem enterAll_keeps_lock (names : List String) : (enterAll names).Keeps Guarded.lock :=
  enterFrom_keeps_lock [] names

theorem ofWritten_keeps_lock {α : Type} (written : Except WrittenFault α) :
    (ofWritten written).Keeps Guarded.lock := by
  cases written with
  | error fault => exact .throw _ _
  | ok found => exact .pure _ _

theorem ruleRead_keeps_lock (text : String) : (Rule.read text).Keeps Guarded.lock :=
  .bind (ofWritten_keeps_lock _) fun written =>
    .bind (enter_keeps_lock written.head.predecessor) fun _ =>
    .bind (enterAll_keeps_lock written.body.successor) fun _ =>
    .bind (enterAll_keeps_lock written.head.left) fun _ =>
    .bind (enterAll_keeps_lock written.head.right) fun _ _ => rfl

/-! ## Questions to a table -/

theorem lookUpCode_keeps (d : Datum) : (lookUpCode d).Keeps id := by
  refine .bind (Guarded.read_keeps _) fun found => ?_
  cases found with
  | ok code => exact .pure _ _
  | error e => exact .throw _ _

theorem lookUpName_keeps (d : Datum) : (lookUpName d).Keeps id := by
  refine .bind (Guarded.read_keeps _) fun found => ?_
  cases found with
  | ok name => exact .pure _ _
  | error e => exact .throw _ _

theorem find_keeps (d : Datum) : (find d).Keeps id :=
  .bind (lookUpCode_keeps d) fun _ => .pure _ _

theorem contains_keeps (s : Symbol) : (contains s).Keeps id :=
  .bind (Guarded.read_keeps _) fun _ => .pure _ _

theorem holds_keeps (part : Part) : (holds part).Keeps id := by
  cases part with
  | symbol s => exact contains_keeps s
  | datum d =>
    cases d with
    | text name => exact .bind (lookUpCode_keeps _) fun _ => .pure _ _
    | _ => exact .pure _ _

theorem shown_keeps : shown.Keeps id := .bind (Guarded.read_keeps _) fun _ => .pure _ _

end NameTable

/-! ## Names that the lock of a table refuses -/

/-- A wait for the lock that is not granted ends in its timeout. -/
def Lock.TimesOut (lock : Lock) : Prop :=
  ∀ access, ∃ after, lock.waitFault access none = .timedOut access after lock.name

theorem Lock.TimesOut.kind_waitFault {lock : Lock} (ends : lock.TimesOut) (access : Access) :
    (Error.lock (lock.waitFault access none)).kind = .locking := by
  obtain ⟨after, fault⟩ := ends access
  rw [fault]
  rfl

/-- The lock keeps a name out of the table: a writer every name, and readers a name that is new,
because it is looked up before it is added. -/
def NameTable.KeepsOut (t : NameTable) (name : String) : Prop :=
  t.lock.writing = true ∨ t.lock.readers ≠ 0 ∧ t.value.code? name = none

instance NameTable.instDecidableKeepsOut (t : NameTable) (name : String) :
    Decidable (t.KeepsOut name) :=
  inferInstanceAs (Decidable (_ ∨ _ ∧ _))

/-- A name that is kept out is refused by the lock and changes nothing. -/
theorem NameTable.enter_runFrom_of_keepsOut {t : NameTable} {name : String}
    (valid : Name.IsValid name) (out : t.KeepsOut name) :
    ∃ access, (enter name).runFrom t = (.error (.lock (t.lock.waitFault access none)), t) := by
  have sections := enter.eq_def name
  simp only [show Name.fault? name = none from valid] at sections
  cases held : t.lock.writing with
  | true =>
    refine ⟨.reading, ?_⟩
    rw [sections, Step.runFrom_bind_error (Guarded.read_runFrom_of_writing held _)]
  | false =>
    obtain ⟨readers, new⟩ := out.resolve_left (by simp [held])
    refine ⟨.writing, ?_⟩
    rw [sections, Step.runFrom_bind_ok (Guarded.read_runFrom_of_not_writing held _),
      Vocabulary.symbol?_of_new new]
    exact Guarded.write_runFrom_of_readers held readers _

/-- A name that is not kept out is entered, whoever holds the lock. -/
theorem NameTable.enter_runFrom_of_not_keepsOut {t : NameTable} {name : String}
    (valid : Name.IsValid name) (letIn : ¬ t.KeepsOut name) :
    (enter name).runFrom t = (.ok (t.value.symbol name).1, t.addAll [name]) := by
  obtain ⟨noWriter, seen⟩ := not_or.mp letIn
  rw [Bool.not_eq_true] at noWriter
  cases found : t.value.code? name with
  | none =>
    have noReader : t.lock.readers = 0 := Decidable.not_not.mp fun some => seen ⟨some, found⟩
    exact enter_runFrom ⟨noWriter, noReader⟩ valid
  | some k =>
    have sections := enter.eq_def name
    simp only [show Name.fault? name = none from valid] at sections
    rw [sections, Step.runFrom_bind_ok (Guarded.read_runFrom_of_not_writing noWriter _),
      Vocabulary.symbol?_of_seen found, addAll, Vocabulary.addAll,
      Vocabulary.symbol_of_seen found]
    rfl

/-- A valid name is refused by a writer, and if it is new also by readers.  A refused name has
changed nothing. -/
theorem NameTable.enterDatum_refused_iff {t : NameTable} (ends : t.lock.TimesOut) {d : Datum}
    {name : String} (named : Name.ofDatum d = .ok name) {outcome : Except Error Symbol}
    {after : NameTable} (run : (enterDatum d).runFrom t = (outcome, after)) :
    ((∃ e, outcome = .error e ∧ e.kind = .locking) ↔
        t.lock.writing = true ∨ t.lock.readers ≠ 0 ∧ t.value.code? name = none) ∧
      ∀ e, outcome = .error e → after = t := by
  have valid := Name.ofDatum_valid named
  rw [show enterDatum d = enter name by rw [enterDatum, named]] at run
  show (_ ↔ t.KeepsOut name) ∧ _
  by_cases out : t.KeepsOut name
  · obtain ⟨access, refused⟩ := enter_runFrom_of_keepsOut valid out
    rw [refused] at run
    cases run
    exact ⟨iff_of_true ⟨_, rfl, ends.kind_waitFault access⟩ out, fun _ _ => rfl⟩
  · rw [enter_runFrom_of_not_keepsOut valid out] at run
    cases run
    exact ⟨iff_of_false (by simp) out, by simp⟩

/-- Whatever is read into a table, the lock is left as it was found. -/
theorem Entry.perform_keeps_lock (entry : Entry) : entry.perform.Keeps Guarded.lock := by
  cases entry with
  | name d =>
    refine .discard ?_
    rw [NameTable.enterDatum]
    cases Name.ofDatum d with
    | error fault => exact .throw _ _
    | ok name => exact NameTable.enter_keeps_lock name
  | word text =>
    exact .discard (.bind (NameTable.ofWritten_keeps_lock _) fun _ =>
      NameTable.enterAll_keeps_lock _)
  | head text =>
    exact .discard (.bind (NameTable.ofWritten_keeps_lock _) fun head =>
      .bind (NameTable.enterAll_keeps_lock head.left) fun _ =>
      .bind (NameTable.enter_keeps_lock head.predecessor) fun _ =>
      .bind (NameTable.enterAll_keeps_lock head.right) fun _ => .pure _ _)
  | body text =>
    exact .discard (.bind (NameTable.ofWritten_keeps_lock _) fun body =>
      .bind (NameTable.enterAll_keeps_lock body.successor) fun _ => .pure _ _)
  | rule text => exact .discard (NameTable.ruleRead_keeps_lock text)

/-! ## Questions to a store -/

namespace RuleStore

theorem onRules_keeps {α : Type} {step : Step (Guarded RuleSet) α} (kept : step.Keeps id) :
    (onRules step).Keeps id :=
  .on kept fun _ => rfl

theorem onRules_read_keeps {α : Type} (f : RuleSet → α) :
    (onRules (Guarded.read f)).Keeps id :=
  onRules_keeps (Guarded.read_keeps f)

theorem candidates_keeps (s : Symbol) (before after : Word) :
    (candidates s before after).Keeps id :=
  .bind (onRules_read_keeps _) fun _ => .bind .get fun _ => .pure _ _

theorem freeze_keeps : freeze.Keeps id :=
  .bind (onRules_read_keeps _) fun _ => .bind .get fun _ => .pure _ _

end RuleStore

/-! ## Questions to a system -/

namespace System

theorem onTable_keeps {α : Type} {step : Step NameTable α} (kept : step.Keeps id) :
    (onTable step).Keeps id :=
  .on kept fun _ => rfl

theorem onStore_keeps {α : Type} {step : Step RuleStore α} (kept : step.Keeps id) :
    (onStore step).Keeps id :=
  .on kept fun _ => rfl

theorem counts_keeps : counts.Keeps id :=
  .bind (onTable_keeps (Guarded.read_keeps _)) fun _ =>
    .bind (onStore_keeps (RuleStore.onRules_read_keeps _)) fun _ => .pure _ _

theorem shown_keeps : shown.Keeps id :=
  .bind counts_keeps fun _ => .bind .get fun _ => .pure _ _

theorem checkWordFrom_keeps (position : Nat) (w : Word) : (checkWordFrom position w).Keeps id := by
  induction w generalizing position with
  | nil => exact .pure _ _
  | cons s rest ih =>
    refine .bind (onTable_keeps (NameTable.contains_keeps s)) fun known => ?_
    cases known with
    | true => exact ih (position + 1)
    | false => exact .throw _ _

theorem onDraft_keeps {α : Type} (d : Draft) {step : Word → Step System α}
    (kept : ∀ w, (step w).Keeps id) : (onDraft d step).Keeps id := by
  rw [onDraft]
  cases d.word with
  | ok w => exact kept w
  | error e => exact .bind (checkWordFrom_keeps 0 _) fun _ => .throw _ _

theorem derive_keeps (settings : Schedule) (fresh : Random.Generator) (w : Word) :
    (derive settings fresh w).Keeps id := by
  refine .bind (checkWordFrom_keeps 0 w) fun _ => ?_
  split
  · exact .pure _ _
  · exact .bind (onStore_keeps RuleStore.freeze_keeps) fun _ _ => rfl

theorem pass_keeps (w : Word) : (pass w).Keeps Prod.fst := by
  have looked : (do checkWord w; onStore RuleStore.freeze : Step System FrozenRules).Keeps id :=
    .bind (checkWordFrom_keeps 0 w) fun _ => onStore_keeps RuleStore.freeze_keeps
  exact .bind (fun p => looked p.1) fun _ _ => rfl

/-! ## Registering -/

open NameTable (GrownFrom)

/-- The locks are as they were, the table has grown, and some rules have joined the store. -/
structure HasTaken (before : System) (rules : List Rule) (after : System) : Prop where
  /-- The table has grown. -/
  grown : GrownFrom before.table.value after.table
  /-- The lock of the table is as it was. -/
  tableLock : after.table.lock = before.table.lock
  /-- The store has the rules behind those that it had. -/
  store : after.store = rules.foldl RuleStore.withRule before.store

variable {before between after system : System} {first second rules : List Rule}

theorem HasTaken.refl (sound : before.table.value.Sound) : HasTaken before [] before :=
  ⟨.refl sound, rfl, rfl⟩

theorem HasTaken.trans (one : HasTaken before first between)
    (two : HasTaken between second after) : HasTaken before (first ++ second) after where
  grown := ⟨two.grown.sound, one.grown.extended.trans two.grown.extended⟩
  tableLock := two.tableLock.trans one.tableLock
  store := by rw [List.foldl_append, ← one.store, two.store]

theorem lock_foldl_withRule (store : RuleStore) (rules : List Rule) :
    (rules.foldl RuleStore.withRule store).guarded.lock = store.guarded.lock := by
  induction rules generalizing store with
  | nil => rfl
  | cons r rest ih => exact ih (store.withRule r)

/-- The lock of the store is as it was. -/
theorem HasTaken.storeLock (taken : HasTaken before rules after) :
    after.store.guarded.lock = before.store.guarded.lock := by
  rw [taken.store, lock_foldl_withRule]

theorem HasTaken.of_keeps {α : Type} {x : Step System α} (kept : x.Keeps id)
    (sound : before.table.value.Sound) : HasTaken before [] (x.runFrom before).2 := by
  have same : (x.runFrom before).2 = before := kept before
  rw [same]
  exact .refl sound

/-- What is done to the table alone. -/
theorem HasTaken.of_onTable {α : Type} {x : Step NameTable α}
    (preserves : x.Preserves (GrownFrom before.table.value)) (keeps : x.Keeps Guarded.lock)
    (sound : before.table.value.Sound) : HasTaken before [] ((onTable x).runFrom before).2 :=
  ⟨preserves before.table (.refl sound), keeps before.table, rfl⟩

theorem add_taken (sound : system.table.value.Sound) (r : Rule) :
    (∃ after, (add r).runFrom system = (.ok r, after) ∧ HasTaken system [r] after) ∨
      ∃ e, (add r).runFrom system = (.error e, system) := by
  rcases add_cases system r with ⟨added, -⟩ | refused
  · exact .inl ⟨_, added, .refl sound, rfl, rfl⟩
  · exact .inr refused

/-- A rule that is refused has not joined the store. -/
theorem addFrom_taken (sound : system.table.value.Sound) (source : RuleSource) :
    (∃ r after, (addFrom source).runFrom system = (.ok r, after) ∧
        HasTaken system [r] after) ∨
      ∃ e after, (addFrom source).runFrom system = (.error e, after) ∧
        HasTaken system [] after := by
  cases source with
  | built r =>
    rw [addFrom]
    rcases add_taken sound r with ⟨after, added, taken⟩ | ⟨e, refused⟩
    · exact .inl ⟨r, after, added, taken⟩
    · exact .inr ⟨e, system, refused, .refl sound⟩
  | written text =>
    rw [addFrom, addText]
    have read := HasTaken.of_onTable (NameTable.ruleRead_preserves text)
      (NameTable.ruleRead_keeps_lock text) sound
    rcases run : (onTable (Rule.read text)).runFrom system with ⟨outcome, between⟩
    rw [run] at read
    cases outcome with
    | error e => exact .inr ⟨e, between, Step.runFrom_bind_error run _, read⟩
    | ok r =>
      rw [Step.runFrom_bind_ok run]
      rcases add_taken read.grown.sound r with ⟨after, added, taken⟩ | ⟨e, refused⟩
      · exact .inl ⟨r, after, added, read.trans taken⟩
      · exact .inr ⟨e, between, refused, read⟩

theorem addAll_cons (source : RuleSource) (rest : List RuleSource) :
    addAll (source :: rest) = do return (← addFrom source) :: (← addAll rest) := by
  rw [addAll, List.mapM_cons]
  rfl

/-- The rules of some sources join the store up to the first one that is refused. -/
theorem addAll_taken (sound : system.table.value.Sound) (sources : List RuleSource) :
    (∃ rules after, (addAll sources).runFrom system = (.ok rules, after) ∧
        HasTaken system rules after) ∨
      ∃ e registered source rest rules between after,
        (addAll sources).runFrom system = (.error e, after) ∧
        sources = registered ++ source :: rest ∧
        (addAll registered).runFrom system = (.ok rules, between) ∧
        (addFrom source).runFrom between = (.error e, after) ∧
        HasTaken system rules after := by
  induction sources generalizing system with
  | nil => exact .inl ⟨[], system, rfl, .refl sound⟩
  | cons source rest ih =>
    rw [addAll_cons]
    rcases addFrom_taken sound source with ⟨r, next, added, one⟩ | ⟨e, after, refused, none⟩
    · rw [Step.runFrom_bind_ok added]
      rcases ih one.grown.sound with ⟨rules, after, all, others⟩ |
        ⟨e, registered, bad, later, rules, between, after, failed, rfl, before, refused, others⟩
      · exact .inl ⟨r :: rules, after, Step.runFrom_bind_ok all _, one.trans others⟩
      · refine .inr ⟨e, source :: registered, bad, later, r :: rules, between, after,
          Step.runFrom_bind_error failed _, rfl, ?_, refused, one.trans others⟩
        rw [addAll_cons, Step.runFrom_bind_ok added, Step.runFrom_bind_ok before]
        rfl
    · exact .inr ⟨e, [], source, rest, [], system, after, Step.runFrom_bind_error refused _, rfl,
        rfl, refused, none⟩

end System

/-! ## Operations -/

/-- An operation on the table of a system, on its store or on itself. -/
inductive Operation
  /-- Read something into the table, a name for one. -/
  | enter (entry : Entry)
  /-- Enter the names that a family describes. -/
  | enterNames (names : List String)
  /-- The code of a name. -/
  | lookUpCode (d : Datum)
  /-- The name of a code. -/
  | lookUpName (d : Datum)
  /-- The symbol of a name. -/
  | find (d : Datum)
  /-- Whether the table gave a symbol its code. -/
  | contains (s : Symbol)
  /-- Whether something is in the table. -/
  | holds (part : Part)
  /-- The number of names. -/
  | tableSize
  /-- The symbols. -/
  | symbols
  /-- The table as a message shows it. -/
  | tableShown
  /-- The window of a predecessor. -/
  | window (s : Symbol)
  /-- The rules of a predecessor. -/
  | rulesOf (s : Symbol)
  /-- The rules that apply to a symbol between two words. -/
  | candidates (s : Symbol) (before after : Word)
  /-- What the store holds now. -/
  | freeze
  /-- The number of rules. -/
  | storeSize
  /-- All rules. -/
  | rules
  /-- Register a rule. -/
  | add (source : System.RuleSource)
  /-- Register some rules. -/
  | addAll (sources : List System.RuleSource)
  /-- The system as a message shows it. -/
  | shown
  /-- One pass. -/
  | pass (d : Draft) (g : Random.Generator)
  /-- A derivation. -/
  | derive (settings : Schedule) (fresh : Random.Generator) (d : Draft)

open GrowthGrammar.System (onTable onStore HasTaken)

namespace Operation

/-- A computation without its result. -/
def discard {σ α : Type} (x : Step σ α) : Step σ Unit := do let _ ← x

/-- Run an operation, whatever it gives. -/
def perform : Operation → Step System Unit
  | .enter entry => onTable entry.perform
  | .enterNames names => onTable (discard (NameTable.enterAll names))
  | .lookUpCode d => onTable (discard (NameTable.lookUpCode d))
  | .lookUpName d => onTable (discard (NameTable.lookUpName d))
  | .find d => onTable (discard (NameTable.find d))
  | .contains s => onTable (discard (NameTable.contains s))
  | .holds part => onTable (discard (NameTable.holds part))
  | .tableSize => onTable (discard NameTable.size)
  | .symbols => onTable (discard NameTable.symbols)
  | .tableShown => onTable (discard NameTable.shown)
  | .window s => onStore (discard (RuleStore.window s))
  | .rulesOf s => onStore (discard (RuleStore.rulesOf s))
  | .candidates s before after => onStore (discard (RuleStore.candidates s before after))
  | .freeze => onStore (discard RuleStore.freeze)
  | .storeSize => onStore (discard RuleStore.size)
  | .rules => onStore (discard RuleStore.toList)
  | .add source => discard (System.addFrom source)
  | .addAll sources => discard (System.addAll sources)
  | .shown => discard System.shown
  | .pass d g => discard (System.onDraft d fun w => Step.ofRun fun system =>
      let (outcome, system, _) := (System.pass w).runFrom (system, g)
      (outcome, system))
  | .derive settings fresh d => discard (System.onDraft d (System.derive settings fresh))

/-- What a refused operation has left in the store: what was there, and for several rules also
those before the one that was refused. -/
def LeftInStore (operation : Operation) (e : Error) (before after : System) : Prop :=
  match operation with
  | .addAll sources =>
    ∃ registered source rest rules between, sources = registered ++ source :: rest ∧
      (System.addAll registered).runFrom before = (.ok rules, between) ∧
      (System.addFrom source).runFrom between = (.error e, after) ∧
      after.store = rules.foldl RuleStore.withRule before.store
  | _ => after.store = before.store

/-- Whatever an operation gives, it has left the locks as they were and the table has grown, and
if it is refused the store is as described. -/
theorem perform_taken {system : System} (sound : system.table.value.Sound)
    (operation : Operation) {outcome : Except Error Unit} {after : System}
    (run : operation.perform.runFrom system = (outcome, after)) :
    (∃ rules, HasTaken system rules after) ∧
      ∀ e, outcome = .error e → operation.LeftInStore e system after := by
  have asked {x : Step System Unit} (kept : x.Keeps id)
      (run : x.runFrom system = (outcome, after)) :
      (∃ rules, HasTaken system rules after) ∧
        ∀ e, outcome = .error e → after.store = system.store := by
    have taken := HasTaken.of_keeps kept sound
    rw [run] at taken
    exact ⟨⟨[], taken⟩, fun _ _ => taken.store⟩
  cases operation with
  | enter entry =>
    have taken := HasTaken.of_onTable entry.perform_preserves entry.perform_keeps_lock sound
    rw [perform] at run
    rw [run] at taken
    exact ⟨⟨[], taken⟩, fun _ _ => taken.store⟩
  | enterNames names =>
    have taken := HasTaken.of_onTable (x := discard (NameTable.enterAll names))
      (.bind (NameTable.enterAll_preserves names) fun _ => .pure _ _)
      (.discard (NameTable.enterAll_keeps_lock names)) sound
    rw [perform] at run
    rw [run] at taken
    exact ⟨⟨[], taken⟩, fun _ _ => taken.store⟩
  | lookUpCode d => exact asked (System.onTable_keeps (.discard (NameTable.lookUpCode_keeps d))) run
  | lookUpName d => exact asked (System.onTable_keeps (.discard (NameTable.lookUpName_keeps d))) run
  | find d => exact asked (System.onTable_keeps (.discard (NameTable.find_keeps d))) run
  | contains s => exact asked (System.onTable_keeps (.discard (NameTable.contains_keeps s))) run
  | holds part => exact asked (System.onTable_keeps (.discard (NameTable.holds_keeps part))) run
  | tableSize => exact asked (System.onTable_keeps (.discard (Guarded.read_keeps _))) run
  | symbols => exact asked (System.onTable_keeps (.discard (Guarded.read_keeps _))) run
  | tableShown => exact asked (System.onTable_keeps (.discard NameTable.shown_keeps)) run
  | window s =>
    exact asked (System.onStore_keeps (.discard (RuleStore.onRules_read_keeps _))) run
  | rulesOf s =>
    exact asked (System.onStore_keeps (.discard (RuleStore.onRules_read_keeps _))) run
  | candidates s before after =>
    exact asked (System.onStore_keeps (.discard (RuleStore.candidates_keeps s before after))) run
  | freeze => exact asked (System.onStore_keeps (.discard RuleStore.freeze_keeps)) run
  | storeSize =>
    exact asked (System.onStore_keeps (.discard (RuleStore.onRules_read_keeps _))) run
  | rules =>
    exact asked (System.onStore_keeps (.discard (RuleStore.onRules_read_keeps _))) run
  | add source =>
    rw [perform, discard] at run
    rcases System.addFrom_taken sound source with
      ⟨r, now, added, taken⟩ | ⟨e, now, refused, taken⟩
    · rw [Step.runFrom_bind_ok added] at run
      cases run
      exact ⟨⟨[r], taken⟩, nofun⟩
    · rw [Step.runFrom_bind_error refused] at run
      cases run
      exact ⟨⟨[], taken⟩, fun _ _ => taken.store⟩
  | addAll sources =>
    rw [perform, discard] at run
    rcases System.addAll_taken sound sources with ⟨rules, now, added, taken⟩ |
      ⟨e, registered, source, rest, rules, between, now, refused, parts, before, bad, taken⟩
    · rw [Step.runFrom_bind_ok added] at run
      cases run
      exact ⟨⟨rules, taken⟩, nofun⟩
    · rw [Step.runFrom_bind_error refused] at run
      cases run
      refine ⟨⟨rules, taken⟩, ?_⟩
      rintro _ ⟨⟩
      exact ⟨registered, source, rest, rules, between, parts, before, bad, taken.store⟩
  | shown => exact asked (.discard System.shown_keeps) run
  | pass d g =>
    refine asked (.discard (System.onDraft_keeps d fun w system => ?_)) run
    exact System.pass_keeps w (system, g)
  | derive settings fresh d =>
    exact asked (.discard (System.onDraft_keeps d (System.derive_keeps settings fresh))) run

end Operation

end GrowthGrammar
