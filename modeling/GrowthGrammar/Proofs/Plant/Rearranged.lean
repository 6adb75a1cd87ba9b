import GrowthGrammar.Proofs.Plant.Acceptance

/-!
# The order of lines

How much of the order of its lines does a plant depend on?  The lines with rules fill a table and a
store, so their order counts.  Of the initial words there may be one only, and its names are entered
after the last line, wherever it stands.  A setting replaces only the earlier ones with the same
target, and `n` and `N`, or `d`, `D` and `delta`, have the same one.  Nothing else counts
(`SameByKind`).

The lemma that carries this is about any workspace, also one whose locks are held: the lines are
read exactly if the settings among them can be read, at most one gives an initial word and the rules
among them are registered one after the other, and what is left is what the registrations leave and
a draft that is filled kind by kind (`readLines_eq_ok_iff`).

Main statement: two texts that are the same kind by kind give the same plant in the same workspace,
or neither of them gives one (`read_eq_ok_iff_of_sameByKind`).
-/

namespace GrowthGrammar

theorem Step.runFrom_bind_eq_ok_iff {σ α β : Type} {x : Step σ α} {f : α → Step σ β} {s s'' : σ}
    {b : β} : (x >>= f).runFrom s = (.ok b, s'') ↔
      ∃ a s', x.runFrom s = (.ok a, s') ∧ (f a).runFrom s' = (.ok b, s'') := by
  refine ⟨ok_of_runFrom_bind, ?_⟩
  rintro ⟨a, s', first, second⟩
  rw [runFrom_bind_ok first, second]

theorem Step.runFrom_mapError_eq_ok_iff {σ α : Type} {f : Error → Error} {x : Step σ α} {s s' : σ}
    {a : α} : (mapError f x).runFrom s = (.ok a, s') ↔ x.runFrom s = (.ok a, s') := by
  rw [runFrom_mapError]
  rcases x.runFrom s with ⟨outcome, after⟩
  cases outcome <;> simp [Except.mapError]

theorem Text.mem_of_mem_linesFrom {current line cs : List Char} {afterReturn : Bool}
    (member : line ∈ linesFrom current afterReturn cs) {c : Char} (inside : c ∈ line) :
    c ∈ current ∨ c ∈ cs := by
  induction cs generalizing current afterReturn with
  | nil =>
    rw [linesFrom] at member
    split at member
    · cases member
    · rw [List.mem_singleton.mp member, List.mem_reverse] at inside
      exact .inl inside
  | cons d cs ih =>
    rw [linesFrom] at member
    split at member
    · exact (ih member).imp_right (List.mem_cons_of_mem d)
    · split at member
      · rcases List.mem_cons.mp member with rfl | later
        · exact .inl (List.mem_reverse.mp inside)
        · exact .inr (List.mem_cons_of_mem d ((ih later).resolve_left List.not_mem_nil))
      · rcases ih member with before | after
        · rcases List.mem_cons.mp before with rfl | old
          · exact .inr List.mem_cons_self
          · exact .inl old
        · exact .inr (List.mem_cons_of_mem d after)

namespace PlantSetting

/-! ## Targets of settings -/

/-- What a setting sets. -/
inductive Target
  /-- The number of passes. -/
  | passes
  /-- The angle of a turn. -/
  | turn
  /-- The length of a step. -/
  | length
  /-- The seed of the draws. -/
  | seed
  deriving DecidableEq

/-- What a key sets. -/
def targetOf (key : String) : Option Target :=
  if key ∈ ["n", "N"] then some .passes
  else if key ∈ ["d", "D", "delta"] then some .turn
  else if key = "step" then some .length
  else if key = "seed" then some .seed
  else none

/-- What a setting sets. -/
def target : PlantSetting → Target
  | .iterations _ => .passes
  | .delta _ => .turn
  | .step _ => .length
  | .seed _ => .seed

/-- The setting that a value gives to a target. -/
def Target.read (value : String) : Target → Option PlantSetting
  | .passes => (Decimal.readInt value.toList).map .iterations
  | .turn => (Decimal.readReal value.toList).map .delta
  | .length => (Decimal.readReal value.toList).map .step
  | .seed => (Decimal.readInt value.toList).map .seed

theorem Target.target_of_read {value : String} {t : Target} {s : PlantSetting}
    (read : t.read value = some s) : s.target = t := by
  cases t <;> obtain ⟨a, -, rfl⟩ := Option.map_eq_some_iff.mp read <;> rfl

/-- Only the settings with a target count for the last value of its field. -/
theorem last_congr {α : Type} {pick : PlantSetting → Option α} {given given' : List PlantSetting}
    (t : Target) (only : ∀ s, s.target ≠ t → pick s = none)
    (same : given.filter (·.target = t) = given'.filter (·.target = t)) :
    last pick given = last pick given' := by
  have picked (all : List PlantSetting) :
      all.filterMap pick = (all.filter (·.target = t)).filterMap pick := by
    rw [List.filterMap_filter]
    refine List.filterMap_congr fun s _ => ?_
    by_cases mine : s.target = t
    · simp [mine]
    · simp [mine, only s mine]
  rw [last, last, picked given, picked given', same]

end PlantSetting

namespace Plant

open PlantSetting

/-! ## Texts that are the same kind by kind -/

/-- The values that some lines assign to a target, or to keys that are none. -/
def valuesFor (t : Option Target) (lines : List (List Char)) : List String :=
  ((settingLines lines).filter fun cs => targetOf (keyOf cs) = t).map valueOf

/-- Some lines have the same rules, the same initial words and, for each target, the same values as
others, each of these in the same order.  How the kinds alternate, and what is blank or a comment,
does not matter. -/
structure SameByKind (lines lines' : List (List Char)) : Prop where
  rules : ruleLines lines = ruleLines lines'
  words : wordsOf lines = wordsOf lines'
  values : ∀ t, valuesFor t lines = valuesFor t lines'

theorem SameByKind.symm {lines lines' : List (List Char)} (same : SameByKind lines lines') :
    SameByKind lines' lines :=
  ⟨same.rules.symm, same.words.symm, fun t => (same.values t).symm⟩

theorem gives_iff_read (cs : List Char) (s : PlantSetting) :
    Gives cs s ↔ ∃ t, targetOf (keyOf cs) = some t ∧ t.read (valueOf cs) = some s := by
  constructor
  · intro gives
    cases gives with
    | iterations key value => exact ⟨.passes, if_pos key, by rw [Target.read, value]; rfl⟩
    | delta key value =>
      have other : keyOf cs ∉ ["n", "N"] := by
        simp only [List.mem_cons, List.not_mem_nil, or_false] at key
        rcases key with key | key | key <;> rw [key] <;> decide
      exact ⟨.turn, (if_neg other).trans (if_pos key), by rw [Target.read, value]; rfl⟩
    | step key value => exact ⟨.length, by rw [key]; decide, by rw [Target.read, value]; rfl⟩
    | seed key value => exact ⟨.seed, by rw [key]; decide, by rw [Target.read, value]; rfl⟩
  · rintro ⟨t, key, value⟩
    rw [targetOf] at key
    split_ifs at key with passes turn length seed <;> cases key <;>
      rw [Target.read, Option.map_eq_some_iff] at value <;> obtain ⟨a, found, rfl⟩ := value
    · exact .iterations passes found
    · exact .delta turn found
    · exact .step length found
    · exact .seed seed found

/-- The settings with a target are those that its values give. -/
theorem filter_target_of_gives {lines : List (List Char)} {given : List PlantSetting}
    (gives : List.Forall₂ Gives lines given) (t : Target) :
    given.filter (·.target = t) =
      ((lines.filter fun cs => targetOf (keyOf cs) = some t).map valueOf).filterMap
        fun value => t.read value := by
  induction gives with
  | nil => rfl
  | @cons cs s lines given here _ ih =>
    obtain ⟨u, key, value⟩ := (gives_iff_read cs s).mp here
    have mine : s.target = u := Target.target_of_read value
    by_cases wanted : u = t
    · subst wanted
      simp [mine, key, value, ih]
    · simp [mine, key, wanted, ih]

theorem exists_forall₂_of_forall {α β : Type} {R : α → β → Prop} {as : List α}
    (each : ∀ a ∈ as, ∃ b, R a b) : ∃ bs, List.Forall₂ R as bs := by
  induction as with
  | nil => exact ⟨[], .nil⟩
  | cons a rest ih =>
    obtain ⟨⟨b, here⟩, later⟩ := List.forall_mem_cons.mp each
    obtain ⟨bs, others⟩ := ih later
    exact ⟨b :: bs, .cons here others⟩

/-- If the settings of some lines can be read, then so can those of lines that are the same kind by
kind, and each target gets the same values from both. -/
theorem SameByKind.settings {lines lines' : List (List Char)} (same : SameByKind lines lines')
    {given : List PlantSetting} (gives : List.Forall₂ Gives (settingLines lines) given) :
    ∃ given', List.Forall₂ Gives (settingLines lines') given' ∧
      ∀ t : Target, given.filter (·.target = t) = given'.filter (·.target = t) := by
  have each : ∀ cs' ∈ settingLines lines', ∃ s, Gives cs' s := by
    intro cs' member
    -- The value stands under this target among the other lines too, and there it is read.
    have assigned : valueOf cs' ∈ valuesFor (targetOf (keyOf cs')) lines := by
      rw [same.values]
      exact List.mem_map_of_mem (List.mem_filter.mpr ⟨member, by simp⟩)
    obtain ⟨cs, found, value⟩ := List.mem_map.mp assigned
    obtain ⟨inside, key⟩ := List.mem_filter.mp found
    obtain ⟨s, -, here⟩ := exists_mem_of_forall₂ gives.flip inside
    refine ⟨s, (gives_iff_read cs' s).mpr ?_⟩
    rw [← value, ← of_decide_eq_true key]
    exact (gives_iff_read cs s).mp here
  obtain ⟨given', gives'⟩ := exists_forall₂_of_forall each
  refine ⟨given', gives', fun t => ?_⟩
  have values := same.values (some t)
  rw [valuesFor, valuesFor] at values
  rw [filter_target_of_gives gives, filter_target_of_gives gives', values]

theorem Draft.fill_congr (d : Draft) {given given' : List PlantSetting}
    (same : ∀ t : Target, given.filter (·.target = t) = given'.filter (·.target = t))
    (words : List String) (count : Nat) : d.fill given words count = d.fill given' words count := by
  have passes : last iterations? given = last iterations? given' :=
    last_congr .passes (fun s other => by cases s <;> first | rfl | exact absurd rfl other) (same _)
  have turn : last delta? given = last delta? given' :=
    last_congr .turn (fun s other => by cases s <;> first | rfl | exact absurd rfl other) (same _)
  have length : last step? given = last step? given' :=
    last_congr .length (fun s other => by cases s <;> first | rfl | exact absurd rfl other) (same _)
  have seed : last seed? given = last seed? given' :=
    last_congr .seed (fun s other => by cases s <;> first | rfl | exact absurd rfl other) (same _)
  rw [fill, fill, Draft.mk.injEq]
  simp only [iterations_foldl_set, delta_foldl_set, step_foldl_set, seed_foldl_set, passes, turn,
    length, seed, and_self]

/-! ## Lines in any workspace -/

/-- Register the rule on a line. -/
def register (id : SystemId) (cs : List Char) : Step Workspace Rule :=
  Workspace.onSystem id (System.addText (String.ofList cs))

section Lines

variable {id : SystemId} {d d' filled : Draft} {ws between after : Workspace} {line : List Char}

theorem readLine_eq_ok_iff_of_blank (blank : PlantLine.content line = []) :
    (readLine id d (PlantLine.ofText line)).runFrom ws = (.ok d', between) ↔
      d' = d ∧ between = ws := by
  rw [PlantLine.ofText, blank]
  show (Except.ok d, ws) = (Except.ok d', between) ↔ _
  rw [Prod.mk.injEq, Except.ok.injEq]
  exact and_congr eq_comm eq_comm

theorem readLine_eq_ok_iff_of_initial (initial : IsInitial (PlantLine.content line)) :
    (readLine id d (PlantLine.ofText line)).runFrom ws = (.ok d', between) ↔ d.initial = none ∧
      d' = { d with initial := PlantLine.trimmed (remainder (PlantLine.content line)) } ∧
      between = ws := by
  rw [PlantLine.ofText, ofContent_of_isInitial initial, readLine]
  cases d.initial with
  | some first => simp [refuse]
  | none =>
    simp only [Step.runFrom_pure, Prod.mk.injEq, Except.ok.injEq, true_and]
    exact and_congr eq_comm eq_comm

theorem readLine_eq_ok_iff_of_setting (setting : IsSetting (PlantLine.content line)) :
    (readLine id d (PlantLine.ofText line)).runFrom ws = (.ok d', between) ↔
      ∃ s, Gives (PlantLine.content line) s ∧ d' = d.set s ∧ between = ws := by
  simp only [gives_iff]
  rw [PlantLine.ofText, ofContent_of_isSetting setting, readLine]
  cases PlantSetting.read _ _ with
  | error fault => simp [refuse]
  | ok s =>
    simp only [Step.runFrom_pure, Prod.mk.injEq, Except.ok.injEq, exists_eq_left']
    exact and_congr eq_comm eq_comm

theorem readLine_eq_ok_iff_of_rule (nonempty : PlantLine.content line ≠ [])
    (rule : IsRule (PlantLine.content line)) :
    (readLine id d (PlantLine.ofText line)).runFrom ws = (.ok d', between) ↔
      ∃ r, (register id (PlantLine.content line)).runFrom ws = (.ok r, between) ∧
        d' = { d with rules := d.rules + 1 } := by
  rw [PlantLine.ofText, ofContent_of_isRule nonempty rule, readLine, Step.runFrom_bind_eq_ok_iff]
  constructor
  · rintro ⟨r, now, registered, same⟩
    cases same
    exact ⟨r, registered, rfl⟩
  · rintro ⟨r, registered, rfl⟩
    exact ⟨r, between, registered, rfl⟩

theorem mapM_register_cons_eq_ok_iff (cs : List Char) (rest : List (List Char))
    (rules : List Rule) :
    ((cs :: rest).mapM (register id)).runFrom ws = (.ok rules, after) ↔
      ∃ r between later, (register id cs).runFrom ws = (.ok r, between) ∧
        (rest.mapM (register id)).runFrom between = (.ok later, after) ∧ rules = r :: later := by
  rw [List.mapM_cons]
  simp only [Step.runFrom_bind_eq_ok_iff, Step.runFrom_pure, Prod.mk.injEq, Except.ok.injEq]
  constructor
  · rintro ⟨r, between, registered, later, _, others, rfl, rfl⟩
    exact ⟨r, between, later, registered, others, rfl⟩
  · rintro ⟨r, between, later, registered, others, rfl⟩
    exact ⟨r, between, registered, later, after, others, rfl, rfl⟩

/-- The draft is filled with what the lines give, and their rules have been registered. -/
def FilledIn (id : SystemId) (ws : Workspace) (d : Draft) (lines : List (List Char))
    (filled : Draft) (after : Workspace) : Prop :=
  ∃ given rules, List.Forall₂ Gives (settingLines lines) given ∧
    ((ruleLines lines).mapM (register id)).runFrom ws = (.ok rules, after) ∧
    (d.initial.toList ++ wordsOf lines).length ≤ 1 ∧
    filled = d.fill given (wordsOf lines) (ruleLines lines).length

theorem filledIn_nil : FilledIn id ws d [] filled after ↔ filled = d ∧ after = ws := by
  have once : d.initial.toList.length ≤ 1 := by cases d.initial <;> simp
  constructor
  · rintro ⟨given, rules, gives, registered, -, rfl⟩
    cases gives
    cases registered
    exact ⟨d.fill_nothing, rfl⟩
  · rintro ⟨rfl, rfl⟩
    exact ⟨[], [], .nil, rfl, by rwa [show wordsOf [] = [] from rfl, List.append_nil],
      filled.fill_nothing.symm⟩

theorem filledIn_cons_of_blank {rest : List (List Char)} (blank : PlantLine.content line = []) :
    FilledIn id ws d (line :: rest) filled after ↔ FilledIn id ws d rest filled after := by
  obtain ⟨words, settings, ruled⟩ := kinds_cons_of_blank rest blank
  rw [FilledIn, FilledIn, words, settings, ruled]

theorem filledIn_cons_of_initial {rest : List (List Char)}
    (nonempty : PlantLine.content line ≠ []) (initial : IsInitial (PlantLine.content line)) :
    FilledIn id ws d (line :: rest) filled after ↔ d.initial = none ∧ FilledIn id ws
      { d with initial := PlantLine.trimmed (remainder (PlantLine.content line)) } rest filled
        after := by
  obtain ⟨words, settings, ruled⟩ := kinds_cons_of_initial rest nonempty initial
  rw [FilledIn, FilledIn, words, settings, ruled]
  cases given : d.initial with
  | none =>
    simp only [true_and, Option.toList_none, List.nil_append, Option.toList_some, List.cons_append,
      Draft.fill_initial given]
  | some first => simp

theorem filledIn_cons_of_setting {rest : List (List Char)}
    (setting : IsSetting (PlantLine.content line)) :
    FilledIn id ws d (line :: rest) filled after ↔
      ∃ s, Gives (PlantLine.content line) s ∧ FilledIn id ws (d.set s) rest filled after := by
  obtain ⟨words, settings, ruled⟩ := kinds_cons_of_setting rest setting
  have initial (s : PlantSetting) : (d.set s).initial = d.initial := by cases s <;> rfl
  rw [FilledIn, words, settings, ruled]
  constructor
  · rintro ⟨_, rules, gives, registered, once, rfl⟩
    obtain ⟨s, given, here, later, rfl⟩ := List.forall₂_cons_left_iff.mp gives
    exact ⟨s, here, given, rules, later, registered, by rwa [initial], d.fill_set s given _ _⟩
  · rintro ⟨s, here, given, rules, later, registered, once, rfl⟩
    rw [initial] at once
    exact ⟨s :: given, rules, .cons here later, registered, once, (d.fill_set s given _ _).symm⟩

theorem filledIn_cons_of_rule {rest : List (List Char)} (nonempty : PlantLine.content line ≠ [])
    (rule : IsRule (PlantLine.content line)) :
    FilledIn id ws d (line :: rest) filled after ↔ ∃ r between,
      (register id (PlantLine.content line)).runFrom ws = (.ok r, between) ∧
        FilledIn id between { d with rules := d.rules + 1 } rest filled after := by
  obtain ⟨words, settings, ruled⟩ := kinds_cons_of_rule rest nonempty rule
  rw [FilledIn, words, settings, ruled]
  simp only [mapM_register_cons_eq_ok_iff, List.length_cons, d.fill_rule]
  constructor
  · rintro ⟨given, _, gives, ⟨r, between, later, registered, others, rfl⟩, once, rfl⟩
    exact ⟨r, between, registered, given, later, gives, others, once, rfl⟩
  · rintro ⟨r, between, registered, given, later, gives, others, once, rfl⟩
    exact ⟨given, r :: later, gives, ⟨r, between, later, registered, others, rfl⟩, once, rfl⟩

/-- Whatever the workspace is, lines are read if the settings among them can be read, the rules
among them are registered one after the other, and at most one of them gives an initial word. -/
theorem readLines_eq_ok_iff (number : Nat) (lines : List (List Char)) :
    (readLines id number d lines).runFrom ws = (.ok filled, after) ↔
      FilledIn id ws d lines filled after := by
  induction lines generalizing number d ws with
  | nil =>
    rw [filledIn_nil, readLines, Step.runFrom_pure, Prod.mk.injEq, Except.ok.injEq]
    exact and_congr eq_comm eq_comm
  | cons line rest ih =>
    rw [readLines, Step.runFrom_bind_eq_ok_iff]
    simp only [Step.runFrom_mapError_eq_ok_iff, ih]
    by_cases empty : PlantLine.content line = []
    · rw [filledIn_cons_of_blank empty]
      simp only [readLine_eq_ok_iff_of_blank empty]
      constructor
      · rintro ⟨_, _, ⟨rfl, rfl⟩, others⟩
        exact others
      · intro others
        exact ⟨d, ws, ⟨rfl, rfl⟩, others⟩
    by_cases initial : IsInitial (PlantLine.content line)
    · rw [filledIn_cons_of_initial empty initial]
      simp only [readLine_eq_ok_iff_of_initial initial]
      constructor
      · rintro ⟨_, _, ⟨none, rfl, rfl⟩, others⟩
        exact ⟨none, others⟩
      · rintro ⟨none, others⟩
        exact ⟨_, ws, ⟨none, rfl, rfl⟩, others⟩
    by_cases setting : IsSetting (PlantLine.content line)
    · rw [filledIn_cons_of_setting setting]
      simp only [readLine_eq_ok_iff_of_setting setting]
      constructor
      · rintro ⟨_, _, ⟨s, given, rfl, rfl⟩, others⟩
        exact ⟨s, given, others⟩
      · rintro ⟨s, given, others⟩
        exact ⟨_, _, ⟨s, given, rfl, rfl⟩, others⟩
    · have rule : IsRule (PlantLine.content line) :=
        ⟨initial, fun other => setting ⟨initial, other⟩⟩
      rw [filledIn_cons_of_rule empty rule]
      simp only [readLine_eq_ok_iff_of_rule empty rule]
      constructor
      · rintro ⟨_, between, ⟨r, registered, rfl⟩, others⟩
        exact ⟨r, between, registered, others⟩
      · rintro ⟨r, between, registered, others⟩
        exact ⟨_, between, ⟨r, registered, rfl⟩, others⟩

end Lines

/-! ## Rearranged lines -/

/-- Lines that are the same kind by kind fill a draft alike. -/
theorem SameByKind.filledIn {lines lines' : List (List Char)} (same : SameByKind lines lines')
    {id : SystemId} {ws after : Workspace} {d filled : Draft}
    (fills : FilledIn id ws d lines filled after) : FilledIn id ws d lines' filled after := by
  obtain ⟨given, rules, gives, registered, once, rfl⟩ := fills
  obtain ⟨given', gives', targets⟩ := same.settings gives
  rw [same.words, same.rules, d.fill_congr targets]
  rw [same.rules] at registered
  rw [same.words] at once
  exact ⟨given', rules, gives', registered, once, rfl⟩

/-- A text with a rule is not blank. -/
theorem isNonBlank_of_ruleLines {text : List Char} (some : ruleLines (Text.lines text) ≠ []) :
    Text.isNonBlank text = true := by
  obtain ⟨cs, member⟩ := List.exists_mem_of_ne_nil _ some
  obtain ⟨found, nonempty⟩ := List.mem_filter.mp (List.mem_filter.mp member).1
  obtain ⟨line, inside, rfl⟩ := List.mem_map.mp found
  have nonBlank : Text.isNonBlank (line.takeWhile (· != PlantLine.commentMark)) = true := by
    rw [← Bool.not_eq_false, ← Text.trim_eq_nil_iff]
    simpa [PlantLine.content] using nonempty
  obtain ⟨c, there, solid⟩ := List.any_eq_true.mp nonBlank
  have occurs := Text.mem_of_mem_linesFrom inside ((List.takeWhile_prefix _).subset there)
  exact List.any_eq_true.mpr ⟨c, occurs.resolve_left List.not_mem_nil, solid⟩

theorem rules_ne_zero_of_ofDraft [Ruler] {id : SystemId} {d : Draft} {ws after : Workspace}
    {p : Plant}
    (made : (ofDraft id d).runFrom ws = (.ok p, after)) : d.rules ≠ 0 := by
  intro none
  rw [ofDraft] at made
  cases given : d.initial with
  | none =>
    rw [given] at made
    cases made
  | some word =>
    rw [given] at made
    simp only [none, if_true] at made
    cases made

/-- A text that gives a plant gives the same one, and leaves the same workspace, when its lines are
rearranged kind by kind. -/
theorem read_of_sameByKind [Ruler] {text text' : List Char}
    (same : SameByKind (Text.lines text) (Text.lines text')) {ws after : Workspace} {p : Plant}
    (made : (read text).runFrom ws = (.ok p, after)) :
    (read text').runFrom ws = (.ok p, after) := by
  rw [read] at made
  split at made
  case isFalse => cases made
  case isTrue =>
    obtain ⟨id, opened, fresh, made⟩ := Step.runFrom_bind_eq_ok_iff.mp made
    obtain ⟨filled, between, lines, made⟩ := Step.runFrom_bind_eq_ok_iff.mp made
    have fills := (readLines_eq_ok_iff 1 _).mp lines
    have ruled : ruleLines (Text.lines text') ≠ [] := by
      obtain ⟨given, rules, -, -, -, rfl⟩ := fills
      have count := rules_ne_zero_of_ofDraft made
      rw [← same.rules, ← List.length_pos_iff, Nat.pos_iff_ne_zero]
      rwa [Draft.fill, Draft.start, Nat.zero_add] at count
    rw [read, if_pos (isNonBlank_of_ruleLines ruled), Step.runFrom_bind_ok fresh,
      Step.runFrom_bind_ok ((readLines_eq_ok_iff 1 _).mpr (same.filledIn fills)), made]

/-- Two texts have the same lines with rules, the same initial words, and for each target of
settings the same values, however lines of these kinds, comments and blank lines alternate in them.
Then, from whatever workspace, a text is accepted exactly if the other one is, and gives the same
plant in the same workspace: the same rules in the same store, the same initial word, settings and
seed, and the same names with the same codes in the table of the family. -/
theorem read_eq_ok_iff_of_sameByKind [Ruler] {text text' : List Char}
    (same : SameByKind (Text.lines text) (Text.lines text')) (ws : Workspace) (p : Plant)
    (after : Workspace) :
    (read text).runFrom ws = (.ok p, after) ↔ (read text').runFrom ws = (.ok p, after) :=
  ⟨read_of_sameByKind same, read_of_sameByKind same.symm⟩

/-- The initial word may come first or last, and the turn before or behind the rules; only the two
numbers of passes keep their order. -/
theorem read_eq_ok_iff_of_sameByKind_plants :
    ∃ (p : Plant) (after : Workspace), p.run = ⟨2, none⟩ ∧
      (read "initial: X\nn = 1\nd = 30\nn = 2\nX -> F X\nF -> F F".toList).runFrom .empty =
        (.ok p, after) ∧
      (read
        "# weed\nN = 1\nX -> F X # stem\n\nn = 2\nF -> F F\ndelta = 30\ninitial: X".toList).runFrom
        .empty = (.ok p, after) := by
  let text := "initial: X\nn = 1\nd = 30\nn = 2\nX -> F X\nF -> F F".toList
  let text' :=
    "# weed\nN = 1\nX -> F X # stem\n\nn = 2\nF -> F F\ndelta = 30\ninitial: X".toList
  have same : SameByKind (Text.lines text) (Text.lines text') := by
    refine ⟨by decide, by decide, fun t => ?_⟩
    rcases t with _ | t
    · decide
    · cases t <;> decide
  obtain ⟨s, written, passes⟩ : ∃ s, sheet text = .ok s ∧ s.run = ⟨2, none⟩ := ⟨_, rfl, rfl⟩
  rcases run : (read text).runFrom .empty with ⟨outcome, after⟩
  obtain ⟨-, outcomes⟩ := (serves_afterReading []).read text run
  rw [written] at outcomes
  cases outcomes with
  | @ok p _ follows =>
    have rearranged := (read_eq_ok_iff_of_sameByKind same .empty p after).mp run
    exact ⟨p, after, follows.run.trans passes, rfl, rearranged⟩

end Plant

end GrowthGrammar
