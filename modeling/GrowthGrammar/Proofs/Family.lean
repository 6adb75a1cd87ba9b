import GrowthGrammar.Proofs.System.Locks
import GrowthGrammar.Proofs.Workspace.Call

/-!
# Families whose tables are held by others

A family describes a name before it enters it in its table.  A call can end in four ways
(`Family.Describes`).  A name that is no name, or is described already, is refused and nothing
changes; a name that the lock of the table lets in is described and entered.  In the fourth case
the lock keeps the name out: the call fails, but the description stays, and since no name is
described twice, no later call can make up for the code.

Between two calls anybody may take the lock or give it back and read something into the table
(`Family.Event`).  The only described names without a code are those that were kept out, which is
one case for each event (`Family.Event.coded_or_keptOut`) and then an induction over the history.

Main statement: a call is made as a whole or not at all exactly if the lock does not keep its name
out, and after any history every described name has a code exactly if each name that was kept out
has got one by other means (`Family.describes_whole_iff`).
-/

namespace GrowthGrammar

theorem Vocabulary.code?_addAll_singleton (v : Vocabulary) (name : String) :
    (v.addAll [name]).code? name ≠ none := by
  rw [ne_eq, code?_eq_none_iff, Decidable.not_not, addAll_cons,
    addAll_nil, names_symbol]
  by_cases seen : name ∈ v.names
  · rwa [if_pos seen]
  · rw [if_neg seen]
    exact List.mem_append_right _ List.mem_cons_self

namespace Family

/-- The family with one more description. -/
def adding (f : Family) (d : Description) : Family :=
  { f with descriptions := f.descriptions ++ [d] }

@[simp]
theorem names_adding (f : Family) (d : Description) : (f.adding d).names = f.names ++ [d.name] := by
  simp [adding, names]

theorem describes_iff (f : Family) (name : String) : f.describes name = true ↔ name ∈ f.names := by
  simp [describes, names]

/-! ## One call -/

/-- How a call that describes a name ends, and what it leaves. -/
inductive Describes (f : Family) (t : NameTable) (name : Datum) (use : SymbolUse)
    (words : Option String) : Except Error Unit → Family × NameTable → Prop
  /-- The name is not one. -/
  | invalid {fault : NameFault} (named : Name.ofDatum name = .error fault) :
      Describes f t name use words (.error (.parse (.written (.name fault)))) (f, t)
  /-- The name is described already. -/
  | known {n : String} (named : Name.ofDatum name = .ok n) (known : n ∈ f.names) :
      Describes f t name use words (.error (.settings (.describedTwice n f.name))) (f, t)
  /-- The lock keeps the name out of the table. -/
  | keptOut {n : String} {access : Access} (named : Name.ofDatum name = .ok n)
      (new : n ∉ f.names) (out : t.KeepsOut n) :
      Describes f t name use words (.error (.lock (t.lock.waitFault access none)))
        (f.adding ⟨n, use, words⟩, t)
  /-- The name is described and entered. -/
  | entered {n : String} (named : Name.ofDatum name = .ok n) (new : n ∉ f.names)
      (letIn : ¬ t.KeepsOut n) :
      Describes f t name use words (.ok ()) (f.adding ⟨n, use, words⟩, t.addAll [n])

theorem describe_runFrom_of_known {f : Family} (t : NameTable) {name : Datum} {n : String}
    (named : Name.ofDatum name = .ok n) (known : n ∈ f.names) (use : SymbolUse)
    (words : Option String) :
    (describe name use words).runFrom (f, t) =
      (.error (.settings (.describedTwice n f.name)), (f, t)) := by
  simp [describe, named, (f.describes_iff n).mpr known, Step.runFrom_bind]

/-- Every call ends in one of the four ways. -/
theorem describes_of_runFrom {f : Family} {t : NameTable} {name : Datum} {use : SymbolUse}
    {words : Option String} {outcome : Except Error Unit} {after : Family × NameTable}
    (run : (describe name use words).runFrom (f, t) = (outcome, after)) :
    Describes f t name use words outcome after := by
  cases named : Name.ofDatum name with
  | error fault =>
    simp only [describe, named, Step.runFrom_throw] at run
    cases run
    exact .invalid named
  | ok n =>
    by_cases known : n ∈ f.names
    · rw [describe_runFrom_of_known t named known] at run
      cases run
      exact .known named known
    · have unknown : f.describes n = false :=
        Bool.eq_false_iff.mpr fun described => known ((f.describes_iff n).mp described)
      have valid := Name.ofDatum_valid named
      by_cases out : t.KeepsOut n
      · obtain ⟨access, refused⟩ := NameTable.enter_runFrom_of_keepsOut valid out
        have left : (describe name use words).runFrom (f, t) =
            (.error (.lock (t.lock.waitFault access none)), (f.adding ⟨n, use, words⟩, t)) := by
          simp [describe, named, unknown, Step.runFrom_bind, refused, Except.map, adding]
        rw [left] at run
        cases run
        exact .keptOut named known out
      · have entered := NameTable.enter_runFrom_of_not_keepsOut valid out
        have made : (describe name use words).runFrom (f, t) =
            (.ok (), (f.adding ⟨n, use, words⟩, t.addAll [n])) := by
          simp [describe, named, unknown, Step.runFrom_bind, entered, Except.map, adding]
        rw [made] at run
        cases run
        exact .entered named known out

/-- The name that a call describes while the lock keeps it out of the table. -/
def keptOut (f : Family) (t : NameTable) (name : Datum) : List String :=
  (f.newlyDescribed name).filter fun n => t.KeepsOut n

theorem mem_keptOut_iff (f : Family) (t : NameTable) (name : Datum) (n : String) :
    n ∈ f.keptOut t name ↔ Name.ofDatum name = .ok n ∧ n ∉ f.names ∧ t.KeepsOut n := by
  have unknown : f.describes n = false ↔ n ∉ f.names := by
    rw [← describes_iff, Bool.not_eq_true]
  have named : n ∈ (Entry.name name).names ↔ Name.ofDatum name = .ok n := by
    rw [Entry.names]
    cases Name.ofDatum name <;> simp [Entry.namesIn, eq_comm]
  rw [keptOut, newlyDescribed, List.mem_filter, List.mem_filter, Bool.not_eq_true', unknown,
    decide_eq_true_iff, and_assoc, named]

/-- A lock that nobody holds keeps nothing out. -/
theorem keptOut_of_isFree (f : Family) {t : NameTable} (free : t.lock.IsFree) (name : Datum) :
    f.keptOut t name = [] := by
  refine List.filter_eq_nil_iff.mpr fun n _ out => ?_
  rcases of_decide_eq_true out with writing | ⟨readers, -⟩
  · exact Bool.false_ne_true (free.1.symm.trans writing)
  · exact readers free.2

/-- A call is made as a whole, and then its name is described and has a code, or it fails and
leaves the family and the table as they were. -/
def IsWhole (name : Datum) (before : Family × NameTable) :
    Except Error Unit → Family × NameTable → Prop
  | .ok _, (f, t) => ∃ n, Name.ofDatum name = .ok n ∧ n ∈ f.names ∧ t.value.code? n ≠ none
  | .error _, after => after = before

/-- A call is made as a whole or not at all, unless the lock keeps its name out. -/
theorem Describes.isWhole_iff {f : Family} {t : NameTable} {name : Datum} {use : SymbolUse}
    {words : Option String} {outcome : Except Error Unit} {after : Family × NameTable}
    (ends : Describes f t name use words outcome after) :
    IsWhole name (f, t) outcome after ↔ f.keptOut t name = [] := by
  have letIn (other : ∀ n, Name.ofDatum name = .ok n → n ∈ f.names ∨ ¬ t.KeepsOut n) :
      f.keptOut t name = [] := by
    refine List.eq_nil_iff_forall_not_mem.mpr fun n member => ?_
    obtain ⟨named, new, out⟩ := (mem_keptOut_iff f t name n).mp member
    exact (other n named).elim new fun letIn => letIn out
  cases ends with
  | invalid named => exact iff_of_true rfl (letIn fun n other => by simp [named] at other)
  | known named known =>
    refine iff_of_true rfl (letIn fun n other => ?_)
    cases named.symm.trans other
    exact .inl known
  | @keptOut n _ named new out =>
    refine iff_of_false (fun same => ?_) fun none => ?_
    · have described : f.adding ⟨n, use, words⟩ = f := congrArg Prod.fst same
      exact new (described ▸ by simp)
    · exact List.not_mem_nil (none ▸ (mem_keptOut_iff f t name n).mpr ⟨named, new, out⟩)
  | @entered n named new free =>
    refine iff_of_true ⟨n, named, by simp, Vocabulary.code?_addAll_singleton _ _⟩ ?_
    refine letIn fun m other => ?_
    cases named.symm.trans other
    exact .inr free

/-! ## Histories -/

/-- Something that happens to a family and its table. -/
inductive Event
  /-- A name is described. -/
  | describe (name : Datum) (use : SymbolUse) (words : Option String)
  /-- Somebody takes the lock of the table, or gives it back. -/
  | lock (use : Lock.Use)
  /-- Something is read into the table. -/
  | read (entry : Entry)

namespace Event

/-- The computation of an event. -/
def perform : Event → Step (Family × NameTable) Unit
  | .describe name use words => Family.describe name use words
  | .lock use => Step.on Prod.snd (fun t p => (p.1, t)) use.perform
  | .read entry => Step.on Prod.snd (fun t p => (p.1, t)) entry.perform

/-- The family and the table after an event. -/
def after (event : Event) (state : Family × NameTable) : Family × NameTable :=
  (event.perform.runFrom state).2

/-- The name that an event leaves described without having entered it. -/
def keptOut : Event → Family × NameTable → List String
  | .describe name _ _, (f, t) => f.keptOut t name
  | _, _ => []

end Event

/-- The family and the table after a history. -/
def afterAll (state : Family × NameTable) (events : List Event) : Family × NameTable :=
  events.foldl (fun state event => event.after state) state

/-- The names that a history leaves described without having entered them. -/
def allKeptOut (state : Family × NameTable) : List Event → List String
  | [] => []
  | event :: rest => event.keptOut state ++ allKeptOut (event.after state) rest

/-- Every described name has a code, and the codes are those of a sound vocabulary. -/
structure IsCoded (state : Family × NameTable) : Prop where
  /-- The vocabulary is sound. -/
  sound : state.2.value.Sound
  /-- The described names have codes. -/
  coded : ∀ n ∈ state.1.names, state.2.value.code? n ≠ none

/-- What later events keep of a family and its table: names that are described, and names that have
codes. -/
structure IsBefore (before after : Family × NameTable) : Prop where
  /-- The family has the same name. -/
  name : after.1.name = before.1.name
  /-- What was described is described. -/
  described : before.1.names ⊆ after.1.names
  /-- The table has grown. -/
  grown : NameTable.GrownFrom before.2.value after.2

theorem IsBefore.refl {state : Family × NameTable} (sound : state.2.value.Sound) :
    IsBefore state state :=
  ⟨rfl, List.Subset.refl _, .refl sound⟩

theorem IsBefore.trans {first second third : Family × NameTable} (one : IsBefore first second)
    (two : IsBefore second third) : IsBefore first third where
  name := two.name.trans one.name
  described := List.Subset.trans one.described two.described
  grown := ⟨two.grown.sound, one.grown.extended.trans two.grown.extended⟩

theorem IsBefore.code? {before after : Family × NameTable} (earlier : IsBefore before after)
    {n : String} (coded : before.2.value.code? n ≠ none) : after.2.value.code? n ≠ none := by
  obtain ⟨k, found⟩ := Option.ne_none_iff_exists'.mp coded
  rw [earlier.grown.extended.code? found]
  exact Option.some_ne_none k

theorem Event.after_describe (name : Datum) (use : SymbolUse) (words : Option String) (f : Family)
    (t : NameTable) :
    ∃ outcome now, (Event.describe name use words).after (f, t) = now ∧
      Describes f t name use words outcome now :=
  ⟨_, _, rfl, describes_of_runFrom rfl⟩

theorem Event.after_lock (use : Lock.Use) (f : Family) (t : NameTable) :
    ∃ lock, (Event.lock use).after (f, t) = (f, { t with lock := lock }) := by
  rw [after, perform, Step.runFrom_on]
  rcases Guarded.perform_cases use t with ⟨lock, -, run⟩ | ⟨fault, -, run⟩
  · exact ⟨lock, by rw [run]⟩
  · exact ⟨t.lock, by rw [run]⟩

/-- No event takes a description or a code away. -/
theorem Event.isBefore (event : Event) {state : Family × NameTable}
    (sound : state.2.value.Sound) : IsBefore state (event.after state) := by
  obtain ⟨f, t⟩ := state
  cases event with
  | describe name use words =>
    obtain ⟨outcome, now, same, ends⟩ := Event.after_describe name use words f t
    rw [same]
    cases ends with
    | invalid | known => exact .refl sound
    | keptOut => exact ⟨rfl, by simp, .refl sound⟩
    | @entered n named =>
      refine ⟨rfl, by simp, sound.addAll ?_, t.value.extends_addAll [n]⟩
      exact List.forall_mem_singleton.mpr (Name.ofDatum_valid named)
  | lock use =>
    obtain ⟨lock, same⟩ := Event.after_lock use f t
    rw [same]
    exact ⟨rfl, List.Subset.refl _, sound, .refl _⟩
  | read entry =>
    exact ⟨rfl, List.Subset.refl _, entry.perform_preserves t (.refl sound)⟩

/-- A name that an event describes has a code then, or it was kept out. -/
theorem Event.coded_or_keptOut (event : Event) {state : Family × NameTable} {n : String}
    (described : n ∈ (event.after state).1.names) :
    n ∈ state.1.names ∨ (event.after state).2.value.code? n ≠ none ∨ n ∈ event.keptOut state := by
  obtain ⟨f, t⟩ := state
  cases event with
  | describe name use words =>
    obtain ⟨outcome, now, same, ends⟩ := Event.after_describe name use words f t
    rw [same] at described ⊢
    cases ends with
    | invalid | known => exact .inl described
    | @keptOut m _ named new out =>
      rw [names_adding, List.mem_append, List.mem_singleton] at described
      rcases described with old | rfl
      · exact .inl old
      · exact .inr (.inr ((mem_keptOut_iff f t name n).mpr ⟨named, new, out⟩))
    | entered named new letIn =>
      rw [names_adding, List.mem_append, List.mem_singleton] at described
      rcases described with old | rfl
      · exact .inl old
      · exact .inr (.inl (Vocabulary.code?_addAll_singleton _ n))
  | lock use =>
    obtain ⟨lock, same⟩ := Event.after_lock use f t
    rw [same] at described
    exact .inl described
  | read entry => exact .inl described

/-- A name that is kept out is described. -/
theorem Event.described_of_keptOut (event : Event) {state : Family × NameTable} {n : String}
    (out : n ∈ event.keptOut state) : n ∈ (event.after state).1.names := by
  obtain ⟨f, t⟩ := state
  cases event with
  | describe name use words =>
    obtain ⟨named, new, out⟩ := (mem_keptOut_iff f t name n).mp out
    obtain ⟨outcome, now, same, ends⟩ := Event.after_describe name use words f t
    rw [same]
    cases ends with
    | invalid other => cases named.symm.trans other
    | known other known =>
      cases named.symm.trans other
      exact absurd known new
    | keptOut other | entered other =>
      cases named.symm.trans other
      simp
  | lock | read => cases out

theorem afterAll_isBefore {state : Family × NameTable} (sound : state.2.value.Sound)
    (events : List Event) : IsBefore state (afterAll state events) := by
  induction events generalizing state with
  | nil => exact .refl sound
  | cons event rest ih =>
    have first := event.isBefore sound
    exact first.trans (ih first.grown.sound)

/-- A name that a history describes has a code then, or it was kept out. -/
theorem coded_or_mem_allKeptOut {state : Family × NameTable} (sound : state.2.value.Sound)
    (events : List Event) {n : String} (described : n ∈ (afterAll state events).1.names) :
    n ∈ state.1.names ∨ (afterAll state events).2.value.code? n ≠ none ∨
      n ∈ allKeptOut state events := by
  induction events generalizing state with
  | nil => exact .inl described
  | cons event rest ih =>
    have first := (event.isBefore sound).grown.sound
    rcases ih first described with here | coded | out
    · rcases event.coded_or_keptOut here with old | coded | out
      · exact .inl old
      · exact .inr (.inl ((afterAll_isBefore first rest).code? coded))
      · exact .inr (.inr (List.mem_append_left _ out))
    · exact .inr (.inl coded)
    · exact .inr (.inr (List.mem_append_right _ out))

theorem described_of_mem_allKeptOut {state : Family × NameTable} (sound : state.2.value.Sound)
    (events : List Event) {n : String} (out : n ∈ allKeptOut state events) :
    n ∈ (afterAll state events).1.names := by
  induction events generalizing state with
  | nil => cases out
  | cons event rest ih =>
    have first := (event.isBefore sound).grown.sound
    rcases List.mem_append.mp out with here | later
    · exact (afterAll_isBefore first rest).described (event.described_of_keptOut here)
    · exact ih first later

/-- After a history every described name has a code exactly if each name that was kept out has got
one by other means. -/
theorem isCoded_afterAll_iff {state : Family × NameTable} (whole : IsCoded state)
    (events : List Event) :
    IsCoded (afterAll state events) ↔
      ∀ n ∈ allKeptOut state events, (afterAll state events).2.value.code? n ≠ none := by
  have later := afterAll_isBefore whole.sound events
  refine ⟨fun now n out => now.coded n (described_of_mem_allKeptOut whole.sound events out),
    fun made => ⟨later.grown.sound, fun n described => ?_⟩⟩
  rcases coded_or_mem_allKeptOut whole.sound events described with old | coded | out
  · exact later.code? (whole.coded n old)
  · exact coded
  · exact made n out

/-- A call that describes a name makes it described and gives it a code, or fails and leaves the
family and the table as they were, exactly if the lock does not keep the name out, as a free lock
never does.  A name that is kept out stays described without a code, and no later call describes it
again, whatever happens in between.  So, after any history of a family and its table, every
described name has a code exactly if each name that was kept out has got one by being read into the
table. -/
theorem describes_whole_iff {f : Family} {t : NameTable} (sound : t.value.Sound) (name : Datum)
    (use : SymbolUse) (words : Option String) {outcome : Except Error Unit}
    {after : Family × NameTable} (run : (describe name use words).runFrom (f, t) = (outcome, after))
    (events : List Event) :
    Describes f t name use words outcome after ∧
      (IsWhole name (f, t) outcome after ↔ f.keptOut t name = []) ∧
      (t.lock.IsFree → f.keptOut t name = []) ∧
      (∀ n ∈ f.keptOut t name,
        after = (f.adding ⟨n, use, words⟩, t) ∧
        ∀ (use' : SymbolUse) (words' : Option String),
          (describe name use' words').runFrom (afterAll after events) =
            (.error (.settings (.describedTwice n f.name)), afterAll after events)) ∧
      (IsCoded (f, t) →
        (IsCoded (afterAll (f, t) events) ↔
          ∀ n ∈ allKeptOut (f, t) events, (afterAll (f, t) events).2.value.code? n ≠ none)) := by
  have ends := describes_of_runFrom run
  refine ⟨ends, ends.isWhole_iff, fun free => keptOut_of_isFree f free name, fun n member => ?_,
    fun whole => isCoded_afterAll_iff whole events⟩
  obtain ⟨named, new, out⟩ := (mem_keptOut_iff f t name n).mp member
  cases ends with
  | invalid other => cases named.symm.trans other
  | known other known =>
    cases named.symm.trans other
    exact absurd known new
  | keptOut other =>
    cases named.symm.trans other
    -- The description is never taken back, so the later call finds its name described.
    refine ⟨rfl, fun use' words' => ?_⟩
    have later : IsBefore (f.adding ⟨n, use, words⟩, t)
        (afterAll (f.adding ⟨n, use, words⟩, t) events) := afterAll_isBefore sound events
    have again := describe_runFrom_of_known (afterAll (f.adding ⟨n, use, words⟩, t) events).2 named
      (later.described (by simp)) use' words'
    rwa [later.name] at again
  | entered other _ letIn =>
    cases named.symm.trans other
    exact absurd out letIn

/-- A reader of the table keeps out the first name of a family.  The call fails, but the name is
described, so the same call is refused once the reader is gone, and the name has no code. -/
theorem describes_whole_iff_reader :
    let f : Family := ⟨"Fern", []⟩
    let t : NameTable := ⟨⟨"symbol table", .whole 0, 1, false⟩, .empty⟩
    let (outcome, after) := (describe (.text "X") .terminal none).runFrom (f, t)
    let left := afterAll after [.lock .leaveShared]
    t.value.Sound ∧ f.keptOut t (.text "X") = ["X"] ∧
      ¬ IsWhole (.text "X") (f, t) outcome after ∧ left.2.lock.IsFree ∧
      (describe (.text "X") .terminal none).runFrom left =
        (.error (.settings (.describedTwice "X" "Fern")), left) ∧
      IsCoded (f, t) ∧
      ¬ IsCoded (afterAll (f, t) [.describe (.text "X") .terminal none, .lock .leaveShared]) := by
  intro f t
  have out : f.keptOut t (.text "X") = ["X"] := by decide +kernel
  have here : "X" ∈ f.keptOut t (.text "X") := out ▸ List.mem_cons_self
  have coded : IsCoded (f, t) := ⟨Vocabulary.empty_sound, fun n described => nomatch described⟩
  rcases run : (describe (.text "X") .terminal none).runFrom (f, t) with ⟨outcome, after⟩
  obtain ⟨-, whole, -, stays, -⟩ :=
    describes_whole_iff coded.sound (.text "X") .terminal none run [.lock .leaveShared]
  obtain ⟨-, -, -, -, history⟩ :=
    describes_whole_iff coded.sound (.text "X") .terminal none run
      [.describe (.text "X") .terminal none, .lock .leaveShared]
  obtain ⟨rfl, again⟩ := stays "X" here
  refine ⟨coded.sound, out, fun made => ?_, ⟨rfl, rfl⟩, again _ _, coded, fun made => ?_⟩
  · cases out.symm.trans (whole.mp made)
  · exact (history coded).mp made "X" (List.mem_append_left _ here) (by decide +kernel)

end Family

end GrowthGrammar
