import GrowthGrammar.Proofs.Workspace.Run
import Mathlib.Data.List.Dedup

/-!
# Calls that enter names side by side

Entering a name has two sections, each behind the lock: the name is looked up, and if it was not
there it is looked up again and added.  Several calls may take turns in any order, so another call
may have added a name between the two sections of a call.  A `Crowd` is a table with calls that
have come to different stages, and a turn lets one of them do its next section.

What carries over every turn is `Crowd.Consistent`: the table has only grown, each call that is
finished has the symbol of its name in the table as it is now, and each name that was added belongs
to a finished call.  Two calls with one name have one code because each of them has the code that
the table has.  The second look-up is what keeps the table sound.

Main statement: calls on a table of a run agree in whatever order they take turns, and after two
turns each all of them are finished (`enter_interleaved`).
-/

namespace GrowthGrammar.NameTable

/-! ## Sections -/

/-- How far a call that enters a name has come. -/
inductive Stage
  /-- It has not looked yet. -/
  | asking
  /-- It has looked, and the name was not there. -/
  | missing
  /-- It has ended. -/
  | ended (result : Except Error Symbol)

/-- The next section of a call: the look-up under the lock held for reading, and the look-up that
adds the name under the lock held for writing. -/
def Stage.next (name : String) (t : NameTable) : Stage → Stage × NameTable
  | .asking =>
    match (Guarded.read (·.symbol? name)).runFrom t with
    | (.ok (some s), t) => (.ended (.ok s), t)
    | (.ok none, t) => (.missing, t)
    | (.error e, t) => (.ended (.error e), t)
  | .missing =>
    match (Guarded.write (·.symbol name)).runFrom t with
    | (result, t) => (.ended result, t)
  | .ended result => (.ended result, t)

/-- A call without others does what entering its name does, whoever holds the lock. -/
theorem Stage.next_next {name : String} (valid : Name.IsValid name) (t : NameTable) :
    let (stage, between) := Stage.asking.next name t
    stage.next name between =
      (.ended ((enter name).runFrom t).1, ((enter name).runFrom t).2) := by
  have unfaulted : Name.fault? name = none := valid
  simp only [enter, unfaulted]
  rcases Guarded.read_cases t (·.symbol? name) with look | ⟨fault, look⟩
  · rw [Step.runFrom_bind_ok look]
    cases here : t.value.symbol? name with
    | none =>
      rw [here] at look
      simp only [Stage.next, look]
    | some s =>
      rw [here] at look
      simp only [Stage.next, look]
      rfl
  · rw [Step.runFrom_bind_error look]
    simp only [Stage.next, look]

/-- While the lock is free, a call either looks and finds nothing, or it ends as entering its name
in the table as it is now. -/
theorem Stage.next_cases {t : NameTable} (free : t.lock.IsFree) (name : String) (stage : Stage) :
    (stage = .asking ∧ stage.next name t = (.missing, t)) ∨
      (∃ result, stage = .ended result ∧ stage.next name t = (stage, t)) ∨
      ((∀ result, stage ≠ .ended result) ∧
        stage.next name t = (.ended (.ok (t.value.symbol name).1), t.addAll [name])) := by
  cases stage with
  | asking =>
    have look := Guarded.read_runFrom free (·.symbol? name)
    cases found : t.value.code? name with
    | none =>
      rw [Vocabulary.symbol?_of_new found] at look
      exact .inl ⟨rfl, by simp only [Stage.next, look]⟩
    | some k =>
      rw [Vocabulary.symbol?_of_seen found] at look
      refine .inr (.inr ⟨by simp, ?_⟩)
      simp only [Stage.next, look, addAll, Vocabulary.addAll, Vocabulary.symbol_of_seen found]
  | missing =>
    have added := Guarded.write_runFrom free (·.symbol name)
    refine .inr (.inr ⟨by simp, ?_⟩)
    simp only [Stage.next, added, addAll, Vocabulary.addAll]
  | ended result => exact .inr (.inl ⟨result, rfl, rfl⟩)

/-! ## Calls that take turns -/

/-- A call that enters a name. -/
structure Entering where
  /-- The name. -/
  name : String
  /-- How far the call has come. -/
  stage : Stage

/-- A table and the calls on it. -/
structure Crowd where
  /-- The table. -/
  table : NameTable
  /-- The calls. -/
  calls : List Entering

namespace Crowd

/-- Calls that have not begun. -/
def start (t : NameTable) (names : List String) : Crowd := ⟨t, names.map (⟨·, .asking⟩)⟩

/-- One call does its next section. -/
def turn (c : Crowd) (i : Nat) : Crowd :=
  match c.calls[i]? with
  | none => c
  | some call =>
    let (stage, table) := call.stage.next call.name c.table
    ⟨table, c.calls.set i { call with stage := stage }⟩

/-- The calls take turns in some order. -/
def run (c : Crowd) (order : List Nat) : Crowd := order.foldl turn c

/-- What a call has given. -/
def answer (c : Crowd) (i : Nat) : Option (Except Error Symbol) :=
  match c.calls[i]? with
  | some ⟨_, .ended result⟩ => some result
  | _ => none

/-- What every turn keeps. -/
structure Consistent (before : NameTable) (names : List String) (c : Crowd) : Prop where
  /-- The calls are for these names. -/
  names : c.calls.map Entering.name = names
  /-- The lock is as it was. -/
  lock : c.table.lock = before.lock
  /-- The table is sound. -/
  sound : c.table.value.Sound
  /-- The table has only grown. -/
  grown : before.value.Extends c.table.value
  /-- A call that has ended has the symbol of its name. -/
  ended (call : Entering) (result : Except Error Symbol) : call ∈ c.calls →
    call.stage = .ended result →
      ∃ s, result = .ok s ∧ s.name = call.name ∧ c.table.value.contains s = true
  /-- A name that was added belongs to a call that has ended. -/
  added (name : String) : name ∈ c.table.value.names → name ∉ before.value.names →
    ∃ call ∈ c.calls, call.name = name ∧ ∃ result, call.stage = .ended result

theorem start_consistent {t : NameTable} (sound : t.value.Sound) (names : List String) :
    (start t names).Consistent t names where
  names := by simp [start, Function.comp_def]
  lock := rfl
  sound := sound
  grown := .refl _
  ended call result member stage := by
    obtain ⟨name, -, rfl⟩ := List.mem_map.mp member
    cases stage
  added name member new := absurd member new

/-! ## One turn -/

variable {before : NameTable} {names : List String} {c : Crowd}

theorem turn_of_some {i : Nat} {call : Entering} (here : c.calls[i]? = some call) :
    c.turn i = ⟨(call.stage.next call.name c.table).2,
      c.calls.set i { call with stage := (call.stage.next call.name c.table).1 }⟩ := by
  simp only [turn, here]

theorem mem_set_of_ended {calls : List Entering} {i : Nat} {call other changed : Entering}
    (here : calls[i]? = some call) (notEnded : ∀ result, call.stage ≠ .ended result)
    (member : other ∈ calls) {result : Except Error Symbol} (ended : other.stage = .ended result) :
    other ∈ calls.set i changed := by
  obtain ⟨j, there⟩ := List.mem_iff_getElem?.mp member
  have elsewhere : i ≠ j := by
    rintro rfl
    rw [here] at there
    cases there
    exact notEnded result ended
  exact List.mem_iff_getElem?.mpr ⟨j, by rw [List.getElem?_set_ne elsewhere, there]⟩

theorem Consistent.name_mem (consistent : c.Consistent before names) {call : Entering}
    (member : call ∈ c.calls) : call.name ∈ names := by
  rw [← consistent.names]
  exact List.mem_map_of_mem member

theorem names_set {calls : List Entering} {i : Nat} {call : Entering}
    (here : calls[i]? = some call) (stage : Stage) :
    (calls.set i { call with stage := stage }).map Entering.name = calls.map Entering.name := by
  rw [List.map_set]
  have there : (calls.map Entering.name)[i]? = some call.name := by
    rw [List.getElem?_map, here]
    rfl
  obtain ⟨inside, same⟩ := List.getElem?_eq_some_iff.mp there
  rw [← same, List.set_getElem_self]

/-- A call that has looked in vain changes nothing. -/
theorem Consistent.turn_missing (consistent : c.Consistent before names) {i : Nat} {call : Entering}
    (here : c.calls[i]? = some call) (asking : call.stage = .asking) :
    Consistent before names ⟨c.table, c.calls.set i { call with stage := .missing }⟩ where
  names := (names_set here _).trans consistent.names
  lock := consistent.lock
  sound := consistent.sound
  grown := consistent.grown
  ended other result member stage := by
    rcases List.mem_or_eq_of_mem_set member with old | rfl
    · exact consistent.ended other result old stage
    · cases stage
  added name member new := by
    obtain ⟨other, there, named, result, ended⟩ := consistent.added name member new
    have notEnded (result : Except Error Symbol) : call.stage ≠ .ended result := by
      rw [asking]
      exact nofun
    exact ⟨other, mem_set_of_ended here notEnded there ended, named, result, ended⟩

/-- A call that ends has added its name, unless another one has before. -/
theorem Consistent.turn_ended (consistent : c.Consistent before names) {i : Nat} {call : Entering}
    (here : c.calls[i]? = some call) (notEnded : ∀ result, call.stage ≠ .ended result)
    (valid : Name.IsValid call.name) :
    Consistent before names ⟨c.table.addAll [call.name],
      c.calls.set i { call with stage := .ended (.ok (c.table.value.symbol call.name).1) }⟩ where
  names := (names_set here _).trans consistent.names
  lock := consistent.lock
  sound := consistent.sound.symbol valid
  grown := consistent.grown.trans (c.table.value.extends_symbol call.name)
  ended other result member stage := by
    rcases List.mem_or_eq_of_mem_set member with old | rfl
    · obtain ⟨s, given, named, issued⟩ := consistent.ended other result old stage
      exact ⟨s, given, named, (c.table.value.extends_symbol call.name).contains issued⟩
    · cases stage
      exact ⟨_, rfl, c.table.value.symbol_name call.name, c.table.value.contains_symbol call.name⟩
  added name member new := by
    have inside : i < c.calls.length := (List.getElem?_eq_some_iff.mp here).1
    rw [addAll_value, Vocabulary.addAll_cons, Vocabulary.addAll_nil, Vocabulary.names_symbol]
      at member
    by_cases known : name ∈ c.table.value.names
    · obtain ⟨other, there, named, result, ended⟩ := consistent.added name known new
      exact ⟨other, mem_set_of_ended here notEnded there ended, named, result, ended⟩
    · refine ⟨_, List.mem_set inside _, ?_, _, rfl⟩
      split at member
      · exact absurd member known
      · exact (List.mem_singleton.mp ((List.mem_append.mp member).resolve_left known)).symm

theorem Consistent.turn (consistent : c.Consistent before names) (free : before.lock.IsFree)
    (valid : ∀ name ∈ names, Name.IsValid name) (i : Nat) :
    (c.turn i).Consistent before names := by
  cases here : c.calls[i]? with
  | none =>
    rw [Crowd.turn, here]
    exact consistent
  | some call =>
    have freeNow : c.table.lock.IsFree := consistent.lock ▸ free
    rw [turn_of_some here]
    rcases Stage.next_cases freeNow call.name call.stage with
      ⟨asking, next⟩ | ⟨result, ended, next⟩ | ⟨notEnded, next⟩
    · rw [next]
      exact consistent.turn_missing here asking
    · obtain ⟨inside, same⟩ := List.getElem?_eq_some_iff.mp here
      have kept : c.calls.set i { call with stage := call.stage } = c.calls := by
        rw [← same, List.set_getElem_self]
      rw [next, kept]
      exact consistent
    · rw [next]
      exact consistent.turn_ended here notEnded
        (valid call.name (consistent.name_mem (List.mem_of_getElem? here)))

/-! ## All turns -/

theorem Consistent.run (consistent : c.Consistent before names) (free : before.lock.IsFree)
    (valid : ∀ name ∈ names, Name.IsValid name) (order : List Nat) :
    (c.run order).Consistent before names := by
  induction order generalizing c with
  | nil => exact consistent
  | cons i rest ih => exact ih (consistent.turn free valid i)

/-! ## How many turns a call needs -/

/-- The sections that are behind a call at a stage. -/
def sectionsDone : Stage → Nat
  | .asking => 0
  | .missing => 1
  | .ended _ => 2

/-- The sections that are behind a call, two for a call that there is not. -/
def done (c : Crowd) (i : Nat) : Nat := (c.calls[i]?.map fun call => sectionsDone call.stage).getD 2

theorem sectionsDone_next (name : String) (t : NameTable) (stage : Stage) :
    min 2 (sectionsDone stage + 1) ≤ sectionsDone (stage.next name t).1 := by
  cases stage with
  | asking =>
    simp only [Stage.next]
    split <;> simp [sectionsDone]
  | missing => exact Nat.le_refl 2
  | ended result => exact Nat.le_refl 2

theorem done_le (c : Crowd) (i : Nat) : c.done i ≤ 2 := by
  rw [done]
  cases c.calls[i]? with
  | none => exact Nat.le_refl 2
  | some call =>
    show sectionsDone call.stage ≤ 2
    cases call.stage <;> simp [sectionsDone]

theorem done_turn (c : Crowd) (i j : Nat) :
    min 2 (c.done j + if i = j then 1 else 0) ≤ (c.turn i).done j := by
  have atMost := c.done_le j
  cases here : c.calls[i]? with
  | none =>
    rw [turn, here]
    by_cases same : i = j
    · subst same
      have missing : c.done i = 2 := by rw [done, here]; rfl
      simp [missing]
    · rw [if_neg same]
      exact Nat.min_le_right _ _
  | some call =>
    rw [turn_of_some here]
    by_cases same : i = j
    · subst same
      have inside : i < c.calls.length := (List.getElem?_eq_some_iff.mp here).1
      rw [if_pos rfl, done, done, here, List.getElem?_set_self inside]
      exact sectionsDone_next call.name c.table call.stage
    · rw [if_neg same, Nat.add_zero, done, done, List.getElem?_set_ne same]
      exact Nat.min_le_right _ _

/-- Each turn of a call brings it one section further, until it has ended. -/
theorem done_run (c : Crowd) (order : List Nat) (i : Nat) :
    min 2 (c.done i + order.count i) ≤ (c.run order).done i := by
  induction order generalizing c with
  | nil => exact Nat.min_le_right _ _
  | cons j rest ih =>
    have first := c.done_turn j i
    have later := ih (c.turn j)
    rw [List.count_cons]
    simp only [beq_iff_eq]
    rw [run, List.foldl_cons, ← run]
    omega

theorem exists_answer {i : Nat} (inside : i < c.calls.length) (done : c.done i = 2) :
    ∃ result, c.answer i = some result := by
  have here := List.getElem?_eq_getElem inside
  rw [Crowd.done, here] at done
  rw [answer, here]
  revert done
  rcases c.calls[i] with ⟨name, _ | _ | result⟩
  · exact nofun
  · exact nofun
  · exact fun _ => ⟨result, rfl⟩

/-! ## Answers -/

/-- The calls have got on as if one of them had gone after the other. -/
structure Agrees (before : NameTable) (names : List String) (after : Crowd) : Prop where
  /-- Every call that has ended has given a symbol of its name that the table contains. -/
  answers (i : Nat) (result : Except Error Symbol) : after.answer i = some result →
    ∃ s, result = .ok s ∧ names[i]? = some s.name ∧ after.table.value.contains s = true
  /-- Two calls give the same code exactly if they are for the same name. -/
  codes (i j : Nat) (s s' : Symbol) : after.answer i = some (.ok s) →
    after.answer j = some (.ok s') → (s.code = s'.code ↔ names[i]? = names[j]?)
  /-- The names of the table keep their codes. -/
  kept (name : String) (code : Nat) : before.value.code? name = some code →
    after.table.value.code? name = some code
  /-- The codes of the table keep their names. -/
  keptNames (code : Int) (name : String) : before.value.name? code = some name →
    after.table.value.name? code = some name
  /-- The new names have the next codes, and some call has given each of them. -/
  added : ∃ new, after.table.value.names = before.value.names ++ new ∧ new.Nodup ∧
    ∀ k name, new[k]? = some name → name ∉ before.value.names ∧
      ∃ i, names[i]? = some name ∧
        after.answer i = some (.ok ⟨(before.value.size + k : Nat), name⟩)

theorem stage_of_answer {i : Nat} {result : Except Error Symbol}
    (given : c.answer i = some result) :
    ∃ call, c.calls[i]? = some call ∧ call.stage = .ended result := by
  rw [answer] at given
  split at given
  case h_1 name found here =>
    cases given
    exact ⟨_, here, rfl⟩
  case h_2 => cases given

theorem answer_of_stage {i : Nat} {call : Entering} {result : Except Error Symbol}
    (here : c.calls[i]? = some call) (ended : call.stage = .ended result) :
    c.answer i = some result := by
  obtain ⟨name, stage⟩ := call
  subst ended
  rw [answer, here]

theorem Consistent.names_getElem? (consistent : c.Consistent before names) {i : Nat}
    {call : Entering} (here : c.calls[i]? = some call) : names[i]? = some call.name := by
  rw [← consistent.names, List.getElem?_map, here]
  rfl

theorem Consistent.answers (consistent : c.Consistent before names) {i : Nat}
    {result : Except Error Symbol} (given : c.answer i = some result) :
    ∃ s, result = .ok s ∧ names[i]? = some s.name ∧ c.table.value.contains s = true := by
  obtain ⟨call, here, ended⟩ := stage_of_answer given
  obtain ⟨s, ok, named, issued⟩ :=
    consistent.ended call result (List.mem_of_getElem? here) ended
  exact ⟨s, ok, named ▸ consistent.names_getElem? here, issued⟩

theorem Consistent.agrees (consistent : c.Consistent before names) : c.Agrees before names where
  answers i result given := consistent.answers given
  codes i j s s' given given' := by
    obtain ⟨_, ⟨⟩, named, issued⟩ := consistent.answers given
    obtain ⟨_, ⟨⟩, named', issued'⟩ := consistent.answers given'
    rw [named, named', Option.some_inj]
    rw [Vocabulary.contains_iff] at issued issued'
    constructor
    · intro same
      rw [same, issued'] at issued
      exact (Option.some.inj issued).symm
    · intro same
      obtain ⟨k, code, found⟩ :=
        (consistent.sound.contains_iff s).mp ((Vocabulary.contains_iff _ s).mpr issued)
      obtain ⟨k', code', found'⟩ :=
        (consistent.sound.contains_iff s').mp ((Vocabulary.contains_iff _ s').mpr issued')
      rw [same, found'] at found
      rw [code, code', Option.some.inj found]
  kept name code found := consistent.grown.code? found
  keptNames code name named := consistent.grown.name? named
  added := by
    obtain ⟨new, joined⟩ := consistent.grown
    have distinct := consistent.sound.distinct
    rw [← joined, List.nodup_append] at distinct
    obtain ⟨-, distinctNew, apart⟩ := distinct
    refine ⟨new, joined.symm, distinctNew, fun k name here => ?_⟩
    have member := List.mem_of_getElem? here
    have notBefore : name ∉ before.value.names := fun old => apart name old name member rfl
    refine ⟨notBefore, ?_⟩
    obtain ⟨call, there, rfl, result, ended⟩ := consistent.added name
      (joined ▸ List.mem_append_right _ member) notBefore
    obtain ⟨i, place⟩ := List.mem_iff_getElem?.mp there
    refine ⟨i, consistent.names_getElem? place, ?_⟩
    obtain ⟨s, rfl, named, issued⟩ := consistent.ended call result there ended
    rw [answer_of_stage place ended]
    -- a name has one code, and the place of the new name is one
    obtain ⟨k', code, found⟩ := (consistent.sound.contains_iff s).mp issued
    have placed : c.table.value.name? (before.value.size + k : Nat) = some call.name := by
      rw [Vocabulary.name?_natCast, ← joined, ← Vocabulary.length_names,
        List.getElem?_append_right (Nat.le_add_right _ _), Nat.add_sub_cancel_left, here]
    rw [named, consistent.sound.code?_iff.mpr placed] at found
    obtain ⟨code', name'⟩ := s
    simp only at named code
    rw [named, code, ← Option.some.inj found]

theorem Consistent.length_calls (consistent : c.Consistent before names) :
    c.calls.length = names.length := by
  rw [← consistent.names, List.length_map]

end Crowd

/-! ## Calls on a table of a run -/

/-- Calls for valid names on any table that a run leaves behind agree with each other after any
turns in any order.  Once every call has had two turns, all of them have ended, and the table has
the names that it had and then the names of the calls that were new, each of them once. -/
theorem enter_interleaved (calls : List Call) (id : TableId) (t : NameTable)
    (found : (Workspace.empty.afterAll calls).tables[id.index]? = some t) (names : List String)
    (valid : ∀ name ∈ names, Name.IsValid name) (order : List Nat) :
    let after := (Crowd.start t names).run order
    after.Agrees t names ∧ after.table.lock = t.lock ∧
      ((∀ i < names.length, 2 ≤ order.count i) →
        (∀ i < names.length, ∃ s, after.answer i = some (.ok s)) ∧
          ∃ new, after.table.value.names = t.value.names ++ new ∧
            new.Perm (names.filter fun name => name ∉ t.value.names).dedup) := by
  intro after
  obtain ⟨free, sound⟩ :=
    (Workspace.empty_lawful.afterAll calls).tables t (Array.mem_of_getElem? found)
  have consistent : after.Consistent t names :=
    (Crowd.start_consistent sound names).run free valid order
  have agrees := consistent.agrees
  refine ⟨agrees, consistent.lock, fun turns => ?_⟩
  have ended (i : Nat) (inside : i < names.length) : ∃ s, after.answer i = some (.ok s) := by
    have done : after.done i = 2 := by
      have atLeast := (Crowd.start t names).done_run order i
      have atMost := after.done_le i
      have enough := turns i inside
      show ((Crowd.start t names).run order).done i = 2
      change ((Crowd.start t names).run order).done i ≤ 2 at atMost
      omega
    obtain ⟨result, given⟩ :=
      Crowd.exists_answer (consistent.length_calls ▸ inside) done
    obtain ⟨s, rfl, -⟩ := agrees.answers i result given
    exact ⟨s, given⟩
  refine ⟨ended, ?_⟩
  obtain ⟨new, joined, distinct, given⟩ := agrees.added
  refine ⟨new, joined, (List.perm_ext_iff_of_nodup distinct (List.nodup_dedup _)).mpr fun name => ?_⟩
  rw [List.mem_dedup, List.mem_filter, decide_eq_true_eq]
  constructor
  · intro member
    obtain ⟨k, here⟩ := List.mem_iff_getElem?.mp member
    obtain ⟨notBefore, i, asked, -⟩ := given k name here
    exact ⟨List.mem_of_getElem? asked, notBefore⟩
  · rintro ⟨member, notBefore⟩
    obtain ⟨i, asked⟩ := List.mem_iff_getElem?.mp member
    obtain ⟨s, answered⟩ := ended i (List.getElem?_eq_some_iff.mp asked).1
    obtain ⟨_, ⟨⟩, named, issued⟩ := agrees.answers i _ answered
    have there := Vocabulary.mem_of_name? ((Vocabulary.contains_iff _ s).mp issued)
    rw [asked, Option.some_inj] at named
    rw [← named, joined] at there
    exact (List.mem_append.mp there).resolve_left notBefore

/-- A table with the name `F`, and three calls on it.  Both calls for `X` look in vain before one of
them adds it. -/
def staleRun : List Call × List String × List Nat :=
  ([.newTable .forever, .read ⟨0⟩ (.word "F")], ["X", "F", "X"], [0, 2, 2, 1, 0, 1])

/-- The two calls for `X` give the same symbol all the same. -/
theorem enter_interleaved_stale :
    let (calls, names, order) := staleRun
    ∃ t, (Workspace.empty.afterAll calls).tables[0]? = some t ∧
      let after := (Crowd.start t names).run order
      after.Agrees t names ∧ after.answer 0 = some (.ok ⟨1, "X"⟩) ∧
        after.answer 1 = some (.ok ⟨0, "F"⟩) ∧ after.answer 2 = some (.ok ⟨1, "X"⟩) := by
  let t := (Workspace.empty.afterAll staleRun.1).tables[0]?.getD (.new .forever)
  let after := (Crowd.start t staleRun.2.1).run staleRun.2.2
  have there : (Workspace.empty.afterAll staleRun.1).tables[0]?.isSome = true := by decide +kernel
  have found : (Workspace.empty.afterAll staleRun.1).tables[0]? = some t := by
    obtain ⟨other, same⟩ := Option.isSome_iff_exists.mp there
    show _ = some ((Workspace.empty.afterAll staleRun.1).tables[0]?.getD (.new .forever))
    rw [same, Option.getD_some]
  have valid : ∀ name ∈ staleRun.2.1, Name.IsValid name := by decide
  obtain ⟨agrees, -⟩ := enter_interleaved staleRun.1 ⟨0⟩ t found staleRun.2.1 valid staleRun.2.2
  have gives {i : Nat} {s : Symbol}
      (shown : (after.answer i).bind Except.toOption = some s) : after.answer i = some (.ok s) := by
    obtain ⟨_ | ok, given, same⟩ := Option.bind_eq_some_iff.mp shown
    · cases same
    · cases same
      exact given
  exact ⟨t, found, agrees, gives (by decide +kernel), gives (by decide +kernel),
    gives (by decide +kernel)⟩

end GrowthGrammar.NameTable
