import GrowthGrammar.Proofs.Entry
import GrowthGrammar.Proofs.Rule.Weights

/-!
# Systems that registrations lead to

A system is reached (`System.Reached`) from a new one by registering rules, built from
their parts or read from text.  Between two registrations anybody who shares its table may
read something into it, and anybody may take the locks or give them back, so a
registration may also be refused by a lock, before or after its names were entered.

Whatever happens, the system stays closed (`System.Closed`): it holds the accepted rules in
their order, its table knows every symbol of each of them, and each has a weight that a
rule can be built with.  The table only grows (`NameTable.GrownFrom`), so a symbol that is
known once stays known.
-/

namespace GrowthGrammar

/-! ## Tables that grow -/

namespace NameTable

/-- The vocabulary of the table is sound and has grown from an earlier one. -/
structure GrownFrom (base : Vocabulary) (t : NameTable) : Prop where
  /-- The vocabulary is sound. -/
  sound : t.value.Sound
  /-- It holds the names of the earlier one. -/
  extended : base.Extends t.value

theorem GrownFrom.refl {t : NameTable} (sound : t.value.Sound) : GrownFrom t.value t :=
  ⟨sound, .refl _⟩

variable {base : Vocabulary}

theorem read_preserves {α : Type} (f : Vocabulary → α) :
    (Guarded.read f).Preserves (GrownFrom base) := by
  intro t grown
  rcases Guarded.read_cases t f with found | ⟨fault, refused⟩
  · rwa [found]
  · rwa [refused]

theorem throw_preserves {α : Type} (e : Error) :
    (throw e : Step NameTable α).Preserves (GrownFrom base) :=
  fun _ grown => grown

theorem enter_preserves (name : String) : (enter name).Preserves (GrownFrom base) := by
  rw [enter]
  cases valid : Name.fault? name with
  | some fault => exact throw_preserves _
  | none =>
    refine .bind (read_preserves _) fun seen => ?_
    cases seen with
    | some s => exact .pure _ _
    | none =>
      intro t grown
      rcases Guarded.write_cases t (·.symbol name) with added | ⟨fault, refused⟩
      · rw [added]
        exact ⟨grown.sound.symbol valid, grown.extended.trans (t.value.extends_symbol name)⟩
      · rwa [refused]

theorem enterFrom_preserves (done : Word) (names : List String) :
    (enterFrom done names).Preserves (GrownFrom base) := by
  induction names generalizing done with
  | nil => exact .pure _ _
  | cons name rest ih => exact .bind (enter_preserves name) fun s => ih (s :: done)

theorem enterAll_preserves (names : List String) :
    (enterAll names).Preserves (GrownFrom base) :=
  enterFrom_preserves [] names

theorem ofWritten_preserves {α : Type} (written : Except WrittenFault α) :
    (ofWritten written).Preserves (GrownFrom base) := by
  cases written with
  | error fault => exact throw_preserves _
  | ok found => exact .pure _ _

theorem ruleRead_preserves (text : String) : (Rule.read text).Preserves (GrownFrom base) :=
  .bind (ofWritten_preserves _) fun written =>
    .bind (enter_preserves written.head.predecessor) fun _ =>
    .bind (enterAll_preserves written.body.successor) fun _ =>
    .bind (enterAll_preserves written.head.left) fun _ =>
    .bind (enterAll_preserves written.head.right) fun _ _ grown => grown

end NameTable

open NameTable (GrownFrom)

/-- Whatever is read into a table, under whatever lock, lets the table grow. -/
theorem Entry.perform_preserves {base : Vocabulary} (entry : Entry) :
    entry.perform.Preserves (GrownFrom base) := by
  cases entry with
  | name d =>
    refine .bind ?_ fun _ => .pure _ _
    rw [NameTable.enterDatum]
    cases Name.ofDatum d with
    | error fault => exact NameTable.throw_preserves _
    | ok name => exact NameTable.enter_preserves name
  | word text =>
    refine .bind (.bind (NameTable.ofWritten_preserves _) fun _ => ?_) fun _ => .pure _ _
    exact NameTable.enterAll_preserves _
  | head text =>
    refine .bind (.bind (NameTable.ofWritten_preserves _) fun head => ?_) fun _ => .pure _ _
    exact .bind (NameTable.enterAll_preserves head.left) fun _ =>
      .bind (NameTable.enter_preserves head.predecessor) fun _ =>
      .bind (NameTable.enterAll_preserves head.right) fun _ => .pure _ _
  | body text =>
    refine .bind (.bind (NameTable.ofWritten_preserves _) fun body => ?_) fun _ => .pure _ _
    exact .bind (NameTable.enterAll_preserves body.successor) fun _ => .pure _ _
  | rule text => exact .bind (NameTable.ruleRead_preserves text) fun _ => .pure _ _

/-! ## Weights of rules that are read -/

namespace Rule

theorem isWeighted_of_read {t after : NameTable} {text : String} {r : Rule}
    (run : (read text).runFrom t = (.ok r, after)) : r.IsWeighted := by
  obtain ⟨written, _, -, run⟩ := Step.ok_of_runFrom_bind run
  obtain ⟨_, _, -, run⟩ := Step.ok_of_runFrom_bind run
  obtain ⟨_, _, -, run⟩ := Step.ok_of_runFrom_bind run
  obtain ⟨_, _, -, run⟩ := Step.ok_of_runFrom_bind run
  obtain ⟨_, _, -, run⟩ := Step.ok_of_runFrom_bind run
  exact isWeighted_of_make (congrArg Prod.fst run)

end Rule

/-! ## Registering under any lock -/

theorem NameTable.contains_cases (t : NameTable) (s : Symbol) :
    (contains s).runFrom t = (.ok (t.value.contains s), t) ∨
      ∃ e, (contains s).runFrom t = (.error e, t) := by
  rcases Guarded.read_cases t (·.name? s.code) with found | ⟨fault, refused⟩
  · exact .inl (Step.runFrom_bind_ok found _)
  · exact .inr ⟨_, Step.runFrom_bind_error refused _⟩

theorem RuleStore.insert_cases (store : RuleStore) (r : Rule) :
    (insert r).runFrom store = (.ok (), store.withRule r) ∨
      ∃ e, (insert r).runFrom store = (.error e, store) := by
  rw [insert, onRules, Step.runFrom_on]
  rcases Guarded.write_cases store.guarded (fun rules => ((), rules.add r)) with
    added | ⟨fault, refused⟩
  · exact .inl (by rw [added]; rfl)
  · exact .inr ⟨_, by rw [refused]⟩

namespace System

theorem Knows.of_extends {system after : System} {w : Word} (known : system.Knows w)
    (extended : system.table.value.Extends after.table.value) : after.Knows w :=
  fun s member => extended.contains (known s member)

/-- Checking symbols changes nothing and passes only symbols that the table knows. -/
theorem checkSymbols_cases (system : System) (w : Word) :
    (checkSymbols w).runFrom system = (.ok (), system) ∧ system.Knows w ∨
      ∃ e, (checkSymbols w).runFrom system = (.error e, system) := by
  induction w with
  | nil => exact .inl ⟨rfl, fun s member => by cases member⟩
  | cons s rest ih =>
    rw [checkSymbols]
    rcases NameTable.contains_cases system.table s with asked | ⟨e, refused⟩
    · rw [Step.runFrom_bind_ok (onTable_runFrom asked)]
      cases here : system.table.value.contains s with
      | true =>
        rcases ih with ⟨passed, known⟩ | refused
        · exact .inl ⟨passed, List.forall_mem_cons.mpr ⟨here, known⟩⟩
        · exact .inr refused
      | false =>
        refine .inr ?_
        simp only [Bool.false_eq_true, if_false, NameTable.nameAt]
        rcases Guarded.read_cases system.table (·.name? s.code) with found | ⟨fault, refused⟩
        · rw [Step.runFrom_bind_ok (onTable_runFrom found)]
          cases system.table.value.name? s.code <;> exact ⟨_, rfl⟩
        · exact ⟨_, Step.runFrom_bind_error (onTable_runFrom refused) _⟩
    · exact .inr ⟨e, Step.runFrom_bind_error (onTable_runFrom refused) _⟩

/-- A rule is added if the table knows its symbols and no lock is in the way, and otherwise
nothing changes. -/
theorem add_cases (system : System) (r : Rule) :
    (add r).runFrom system = (.ok r, system.withRule r) ∧ system.Knows r.symbols ∨
      ∃ e, (add r).runFrom system = (.error e, system) := by
  rw [add]
  rcases checkSymbols_cases system r.symbols with ⟨passed, known⟩ | ⟨e, refused⟩
  · rw [Step.runFrom_bind_ok passed]
    rcases RuleStore.insert_cases system.store r with added | ⟨e, refused⟩
    · exact .inl ⟨Step.runFrom_bind_ok (onStore_runFrom added) _, known⟩
    · exact .inr ⟨e, Step.runFrom_bind_error (onStore_runFrom refused) _⟩
  · exact .inr ⟨e, Step.runFrom_bind_error refused _⟩

end System

/-- A way to register a rule. -/
inductive Registration
  /-- Build the rule from its parts. -/
  | built (predecessor : Part) (successor left right : Rule.Parts) (weight : Datum)
  /-- Read the rule from a text. -/
  | written (text : String)

/-- Register a rule. -/
def Registration.perform : Registration → Step System Rule
  | .built predecessor successor left right weight => do
    System.add (← Step.look fun _ => Rule.ofParts predecessor successor left right weight)
  | .written text => System.addText text

/-- What a registration does: the table may grow, and then a weighted rule that the table
knows is added or nothing else changes. -/
theorem Registration.perform_cases (registration : Registration) {system : System}
    (sound : system.table.value.Sound) :
    ∃ table, GrownFrom system.table.value table ∧
      ((∃ r, registration.perform.runFrom system =
            (.ok r, ({ system with table := table } : System).withRule r) ∧
          r.IsWeighted ∧ ({ system with table := table } : System).Knows r.symbols) ∨
        ∃ e, registration.perform.runFrom system =
          (.error e, ({ system with table := table } : System))) := by
  cases registration with
  | built predecessor successor left right weight =>
    refine ⟨system.table, .refl sound, ?_⟩
    rw [perform]
    cases built : Rule.ofParts predecessor successor left right weight with
    | error e => exact .inr ⟨e, Step.runFrom_bind_error rfl _⟩
    | ok r =>
      have given : (Step.look fun _ => .ok r).runFrom system = (.ok r, system) := rfl
      rw [Step.runFrom_bind_ok given]
      rcases System.add_cases system r with ⟨added, known⟩ | refused
      · exact .inl ⟨r, added, Rule.isWeighted_of_ofParts built, known⟩
      · exact .inr refused
  | written text =>
    rw [perform, System.addText]
    rcases run : (Rule.read text).runFrom system.table with ⟨outcome, table⟩
    have grown : GrownFrom system.table.value table := by
      have preserved := NameTable.ruleRead_preserves text system.table (.refl sound)
      rwa [run] at preserved
    refine ⟨table, grown, ?_⟩
    cases outcome with
    | error e => exact .inr ⟨e, Step.runFrom_bind_error (System.onTable_runFrom run) _⟩
    | ok r =>
      rw [Step.runFrom_bind_ok (System.onTable_runFrom run)]
      rcases System.add_cases { system with table := table } r with ⟨added, known⟩ | refused
      · exact .inl ⟨r, added, Rule.isWeighted_of_read run, known⟩
      · exact .inr refused

/-! ## Reached systems -/

namespace System

/-- The system with other locks. -/
def withLocks (system : System) (table store : Lock) : System where
  table := { system.table with lock := table }
  store := { system.store with guarded := { system.store.guarded with lock := store } }

/-- The system has accepted the rules of the list, in this order, since it was new. -/
inductive Reached (tieBreak : TieBreak) : System → List Rule → Prop
  /-- A new system may be on a table that others have used before. -/
  | new {table : NameTable} (sound : table.value.Sound) (timeout : Timeout) :
    Reached tieBreak ⟨table, RuleStore.new tieBreak timeout⟩ []
  /-- Somebody takes locks or gives them back. -/
  | locks {system : System} {rules : List Rule} (table store : Lock) :
    Reached tieBreak system rules → Reached tieBreak (system.withLocks table store) rules
  /-- Somebody reads something into the table. -/
  | read {system after : System} {rules : List Rule} {outcome : Except Error Unit} (entry : Entry) :
    Reached tieBreak system rules → (onTable entry.perform).runFrom system = (outcome, after) →
    Reached tieBreak after rules
  /-- A registration is accepted. -/
  | accepted {system after : System} {rules : List Rule} {r : Rule} (registration : Registration) :
    Reached tieBreak system rules → registration.perform.runFrom system = (.ok r, after) →
    Reached tieBreak after (rules ++ [r])
  /-- A registration is refused. -/
  | refused {system after : System} {rules : List Rule} {e : Error} (registration : Registration) :
    Reached tieBreak system rules → registration.perform.runFrom system = (.error e, after) →
    Reached tieBreak after rules

/-- What registrations keep. -/
structure Closed (tieBreak : TieBreak) (system : System) (rules : List Rule) : Prop where
  /-- The vocabulary is sound. -/
  sound : system.table.value.Sound
  /-- The table knows every symbol of every rule. -/
  known : ∀ r ∈ rules, system.Knows r.symbols
  /-- Every rule is weighted. -/
  weighted : ∀ r ∈ rules, r.IsWeighted
  /-- The store holds the rules. -/
  value_eq : system.store.guarded.value = RuleSet.ofList rules
  /-- The tie-break is the one that the system was made with. -/
  tieBreak_eq : system.store.tieBreak = tieBreak

variable {tieBreak : TieBreak} {system : System} {rules : List Rule}

theorem Closed.grow (closed : Closed tieBreak system rules) {table : NameTable}
    (grown : GrownFrom system.table.value table) :
    Closed tieBreak { system with table := table } rules where
  sound := grown.sound
  known r member := (closed.known r member).of_extends grown.extended
  weighted := closed.weighted
  value_eq := closed.value_eq
  tieBreak_eq := closed.tieBreak_eq

theorem Closed.withRule (closed : Closed tieBreak system rules) {r : Rule}
    (weighted : r.IsWeighted) (known : system.Knows r.symbols) :
    Closed tieBreak (system.withRule r) (rules ++ [r]) where
  sound := closed.sound
  known := List.forall_mem_append.mpr ⟨closed.known, List.forall_mem_singleton.mpr known⟩
  weighted := List.forall_mem_append.mpr ⟨closed.weighted, List.forall_mem_singleton.mpr weighted⟩
  value_eq := by
    rw [RuleSet.ofList_append_singleton, ← closed.value_eq]
    rfl
  tieBreak_eq := closed.tieBreak_eq

/-- Every weighted rule with known symbols can be registered while the locks are free. -/
theorem Reached.withRule (reached : Reached tieBreak system rules)
    (tableFree : system.table.lock.IsFree) (storeFree : system.store.guarded.lock.IsFree) {r : Rule}
    (weighted : r.IsWeighted) (known : system.Knows r.symbols) :
    Reached tieBreak (system.withRule r) (rules ++ [r]) := by
  let parts : Registration := .built (.symbol r.predecessor) (.list (Draft.ofWord r.successor))
    (.list (Draft.ofWord r.left)) (.list (Draft.ofWord r.right)) (.real r.weight)
  have built : (Step.look fun _ => Rule.ofParts (.symbol r.predecessor)
      (.list (Draft.ofWord r.successor)) (.list (Draft.ofWord r.left))
      (.list (Draft.ofWord r.right)) (.real r.weight)).runFrom system = (.ok r, system) := by
    rw [Step.runFrom_look, Rule.ofParts_of_isWeighted weighted]
  refine .accepted parts reached ?_
  rw [Registration.perform, Step.runFrom_bind_ok built]
  exact add_runFrom tableFree storeFree known

theorem Reached.foldl_withRule (reached : Reached tieBreak system rules)
    (tableFree : system.table.lock.IsFree) (storeFree : system.store.guarded.lock.IsFree)
    {more : List Rule} (weighted : ∀ r ∈ more, r.IsWeighted)
    (known : ∀ r ∈ more, system.Knows r.symbols) :
    Reached tieBreak (more.foldl System.withRule system) (rules ++ more) := by
  induction more generalizing system rules with
  | nil => rwa [List.append_nil]
  | cons r rest ih =>
    obtain ⟨here, later⟩ := List.forall_mem_cons.mp weighted
    obtain ⟨knownHere, knownLater⟩ := List.forall_mem_cons.mp known
    have next := ih (reached.withRule tableFree storeFree here knownHere) tableFree storeFree later
      knownLater
    rwa [List.append_assoc, List.singleton_append] at next

/-- A system whose table holds some names and that has accepted some rules, with free locks. -/
def ofRules (tieBreak : TieBreak) (names : List String) (rules : List Rule) : System :=
  rules.foldl System.withRule
    ⟨⟨Lock.free "symbol table" .forever, .ofNames names⟩, .new tieBreak .forever⟩

/-- Weighted rules over the names of a sound vocabulary are the rules of a reached system. -/
theorem reached_ofRules {names : List String} (sound : (Vocabulary.ofNames names).Sound)
    (weighted : ∀ r ∈ rules, r.IsWeighted)
    (known : ∀ r ∈ rules, ∀ s ∈ r.symbols, (Vocabulary.ofNames names).contains s = true) :
    Reached tieBreak (ofRules tieBreak names rules) rules :=
  (Reached.new sound .forever).foldl_withRule (Lock.free_isFree _ _) (Lock.free_isFree _ _)
    weighted known

/-- Every reached system is closed. -/
theorem Reached.closed (reached : Reached tieBreak system rules) :
    Closed tieBreak system rules := by
  induction reached with
  | new sound timeout =>
    exact ⟨sound, by simp, by simp, rfl, rfl⟩
  | locks table store _ closed =>
    exact ⟨closed.sound, closed.known, closed.weighted, closed.value_eq, closed.tieBreak_eq⟩
  | read entry _ run closed =>
    rename_i system after rules outcome _
    have state : after = { system with table := (entry.perform.runFrom system.table).2 } :=
      (congrArg Prod.snd run).symm
    rw [state]
    exact closed.grow (entry.perform_preserves system.table (.refl closed.sound))
  | accepted registration _ run closed =>
    obtain ⟨table, grown, ⟨r, accepted, weighted, known⟩ | ⟨e, refused⟩⟩ :=
      registration.perform_cases closed.sound
    · rw [accepted] at run
      cases run
      exact (closed.grow grown).withRule weighted known
    · rw [refused] at run
      cases run
  | refused registration _ run closed =>
    obtain ⟨table, grown, ⟨r, accepted, -⟩ | ⟨e, refused⟩⟩ :=
      registration.perform_cases closed.sound
    · rw [accepted] at run
      cases run
    · rw [refused] at run
      cases run
      exact closed.grow grown

end System

end GrowthGrammar
