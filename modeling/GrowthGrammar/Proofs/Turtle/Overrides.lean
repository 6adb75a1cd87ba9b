import GrowthGrammar.Proofs.Plane.Renewal
import GrowthGrammar.Proofs.Turtle.Heading

/-!
# Changed actions

Settings with some actions changed are a copy that is checked once more.  The checks of the turn,
the step and the position pass again and keep the values (`IsMade.keepsRules`).  The check of the
heading divides it by its length again, so it is no check that keeps what it accepts.

So a copy has the actions that are asked for, and every other name keeps its action
(`actionOf_overridden`), but its heading is the old one divided by its length.  It is the old
heading exactly if that has length one as a double, and it is close to it otherwise.  A heading that
was given with an infinite length has become zero, and a copy is refused.

A copy can be copied again, so several changes are one change with the heading divided by its length
as many times (`overrideAll_eq_ok_iff`).

Main statement: `TurtleSettings.override_of_isMade`.
-/

namespace GrowthGrammar

open Decimal Decimal.Binary64

/-! ## Usable vectors -/

namespace Vec

/-- A usable vector is not tiny. -/
theorem le_norm_of_isUsable [Ruler] {v : Vec Float} (usable : v.IsUsable)
    (measured : v.norm.isFinite = true) : 1 / 2 ^ 40 ≤ value v.norm := by
  have least : value 9.094947017729282379150390625e-13 = 1 / 2 ^ 40 :=
    (value_of_parts (m := 2 ^ 52) (e := -92) (by decide +kernel)).trans (by norm_num)
  have small : (9.094947017729282379150390625e-13 : Float) < tolerance := by decide +kernel
  have long := usable.2
  rw [lt_iff_value measured isFinite_tolerance, not_lt] at long
  rw [lt_iff_value (by decide +kernel) isFinite_tolerance, least] at small
  exact small.le.trans long

/-- A vector of zeros has length zero. -/
theorem norm_beq_zero [Ruler] [LawfulRuler] {v : Vec Float} (finite : v.isFinite = true)
    (zero : v.reach = 0) : (v.norm == 0) = true := by
  have measured := isFinite_norm_of_reach_le finite (zero.trans_le zero_le_one)
  exact (beq_zero_iff _).mpr
    (sign_of_value_eq_zero measured (value_norm_eq_zero finite measured zero))

end Vec

namespace TurtleSettings

/-- A table of actions with some of them changed, one after the other. -/
def updated (actions changes : List (String × Action)) : List (String × Action) :=
  changes.foldl (fun all (name, a) => Datum.setField name a all) actions

/-- The last change of a name decides, or the old action. -/
theorem getField?_updated (name : String) (actions changes : List (String × Action)) :
    Datum.getField? name (updated actions changes) =
      (Datum.getField? name changes.reverse).or (Datum.getField? name actions) := by
  induction changes generalizing actions with
  | nil => rfl
  | cons change rest ih =>
    obtain ⟨changed, a⟩ := change
    have step : updated actions ((changed, a) :: rest) =
        updated (Datum.setField changed a actions) rest := rfl
    rw [step, ih, Datum.getField?_setField]
    simp only [Datum.getField?, List.reverse_cons, List.find?_append]
    by_cases same : changed = name <;>
      cases rest.reverse.find? (fun f => f.1 == name) <;> simp [same]

theorem updated_flatten_cons (actions changes : List (String × Action))
    (calls : List (List (String × Action))) :
    updated actions (changes :: calls).flatten =
      updated (updated actions changes) calls.flatten := by
  rw [updated, List.flatten_cons, List.foldl_append]
  rfl

/-! ## Rules that are kept -/

theorem recheck_eq_ok_iff [Ruler] {s t : TurtleSettings} :
    recheck s = .ok t ↔ KeepsRules s ∧ s.heading.IsUsable ∧
      t = { s with heading := s.heading.renewed } := by
  rw [recheck, collect_eq_ok_iff]
  simp only [Settings.placed_eq_ok_iff, Settings.finite_eq_ok_iff, checkStep_eq_ok_iff,
    checkPosition_eq_ok_iff, checkHeading_eq_ok_iff, Except.ok.injEq]
  constructor
  · rintro ⟨⟨delta, sameDelta⟩, ⟨step, forward, sameStep⟩, sameActions,
      ⟨position, samePosition⟩, ⟨heading, sameHeading⟩⟩
    refine ⟨⟨delta, step, forward, position⟩, heading, ?_⟩
    cases t
    cases sameDelta
    cases sameStep
    cases sameActions
    cases samePosition
    cases sameHeading
    rfl
  · rintro ⟨⟨delta, step, forward, position⟩, heading, rfl⟩
    exact ⟨⟨delta, rfl⟩, ⟨step, forward, rfl⟩, rfl, ⟨position, rfl⟩, ⟨heading, rfl⟩⟩

/-- A change of actions is a check of the settings with the changed table. -/
theorem override_eq_of_not_mem [Ruler] {s : TurtleSettings} {changes : List (String × Action)}
    (free : Settings.reservedName ∉ changes.map Prod.fst) :
    s.override changes = orError (recheck { s with actions := updated s.actions changes }) := by
  have known : Settings.refuseReserved (changes.map Prod.fst) = .ok () := by
    rw [Settings.refuseReserved, if_neg (by simpa using free)]
  rw [TurtleSettings.override, known]
  rfl

/-- Settings that are made keep the rules. -/
theorem IsMade.keepsRules [Ruler] {s : TurtleSettings} (made : IsMade s) : KeepsRules s := by
  cases made with
  | @ofFields f s made =>
    obtain ⟨_, -, checked⟩ := ok_of_except_bind made
    exact keepsRules_of_check (mapError_eq_ok_iff.mp checked)
  | @override s changed changes before made =>
    obtain ⟨_, -, checked⟩ := ok_of_except_bind made
    obtain ⟨rules, -, rfl⟩ := recheck_eq_ok_iff.mp (mapError_eq_ok_iff.mp checked)
    exact ⟨rules.delta, rules.step, rules.forward, rules.position⟩

/-! ## Headings of settings -/

section

variable [Ruler] [LawfulRuler] {s : TurtleSettings} (made : IsMade s)

include made

theorem IsMade.isFinite_norm : s.heading.norm.isFinite = true := by
  obtain ⟨v, usable, same⟩ := made.exists_isUsable
  obtain ⟨-, measured, -⟩ := Vec.divide_of_isUsable usable
  exact same ▸ measured

/-- A heading that is not usable any more is zero, and it is refused as such. -/
theorem IsMade.checkHeading_of_not_isUsable (unusable : ¬ s.heading.IsUsable) :
    checkHeading s.heading =
      .error (.refused "start heading must be a finite, non-zero vector") := by
  obtain ⟨v, usable, same⟩ := made.exists_isUsable
  obtain ⟨-, -, -, again⟩ := Vec.divide_of_isUsable usable
  have beyond : ¬ v.norm.isFinite = true := by
    rwa [same, again] at unusable
  obtain ⟨finite, zero⟩ := Vec.divide_norm_of_not_isFinite usable.1 beyond
  rw [checkHeading, same, Vec.norm_beq_zero finite zero, Bool.or_true, if_pos rfl]

variable (usable : s.heading.IsUsable)

include usable

/-- A usable heading stays so. -/
theorem IsMade.isUsable_renewed : s.heading.renewed.IsUsable := by
  obtain ⟨-, -, -, again⟩ := Vec.divide_of_isUsable usable
  exact again.mpr made.isFinite_norm

/-- It stays the same exactly if its length is one, and nearly the same otherwise. -/
theorem IsMade.renewed_heading :
    (s.heading.renewed = s.heading ↔ s.heading.norm = 1) ∧
      |value s.heading.renewed.dx - value s.heading.dx| ≤ 1 / 2 ^ 45 ∧
      |value s.heading.renewed.dy - value s.heading.dy| ≤ 1 / 2 ^ 45 := by
  obtain ⟨v, first, same⟩ := made.exists_isUsable
  obtain ⟨-, -, -, again⟩ := Vec.divide_of_isUsable first
  have measured : v.norm.isFinite = true := again.mp (same ▸ usable)
  have nonzero : v.reach ≠ 0 := fun zero => Vec.not_isUsable_of_reach first.1 measured zero first
  obtain ⟨-, -, large⟩ := Vec.divide_norm first.1 measured nonzero
  refine ⟨Vec.renewed_eq_self_iff usable.1 made.isFinite_norm (same ▸ large), ?_⟩
  have moved := Vec.abs_renewed_sub_le first.1 measured (Vec.le_norm_of_isUsable first measured)
  have renewed : s.heading = v.renewed := same
  rwa [← renewed] at moved

end

theorem isUsable_of_norm_eq_one [Ruler] {v : Vec Float} (finite : v.isFinite = true)
    (one : v.norm = 1) :
    v.IsUsable := by
  refine ⟨finite, ?_⟩
  rw [one]
  decide +kernel

/-- The heading is usable exactly if the one that was given has a finite length. -/
theorem isUsable_heading_of_ofFields [Ruler] [LawfulRuler] {f : Fields} {s : TurtleSettings}
    (made : ofFields f = .ok s)
    {p : PairField} (field : f.heading = some p) {v : Vec Float}
    (pair : readPair "start_heading" "dx" "dy" p = .ok (v.dx, v.dy)) :
    s.heading.IsUsable ↔ v.norm.isFinite = true := by
  obtain ⟨found, same, checked⟩ := checkHeading_of_ofFields made field
  obtain rfl : v = found := by
    rw [pair] at same
    cases v
    cases found
    cases same
    rfl
  obtain ⟨usable, divided⟩ := (checkHeading_eq_ok_iff v _).mp checked
  obtain ⟨-, -, -, again⟩ := Vec.divide_of_isUsable usable
  rw [divided, again]

/-! ## Copies -/

/-- The settings with some actions changed and the heading divided by its length again. -/
def overridden [Ruler] (s : TurtleSettings) (changes : List (String × Action)) : TurtleSettings :=
  { s with actions := updated s.actions changes, heading := s.heading.renewed }

theorem actionOf_overridden [Ruler] (s : TurtleSettings) (changes : List (String × Action))
    (name : String) :
    (s.overridden changes).actionOf name =
      (Datum.getField? name changes.reverse).getD (s.actionOf name) := by
  rw [actionOf, actionOf, overridden, getField?_updated]
  cases Datum.getField? name changes.reverse <;> rfl

/-- The settings after several changes of actions. -/
def overrideAll [Ruler] (s : TurtleSettings) (calls : List (List (String × Action))) :
    Except Error TurtleSettings :=
  calls.foldlM TurtleSettings.override s

section

variable [Ruler] [LawfulRuler] {s : TurtleSettings} (made : IsMade s)

include made

/-- The outcome of a change of actions. -/
theorem IsMade.override_eq (changes : List (String × Action)) :
    s.override changes =
      if Settings.reservedName ∈ changes.map Prod.fst then .error .wrongType
      else if s.heading.IsUsable then .ok (s.overridden changes)
      else .error (.settings (.fields subject [⟨["start_heading"],
        .refused "start heading must be a finite, non-zero vector"⟩])) := by
  split
  case isTrue reserved =>
    have refused : Settings.refuseReserved (changes.map Prod.fst) = .error .wrongType := by
      rw [Settings.refuseReserved, if_pos (by simpa using reserved)]
    rw [TurtleSettings.override, refused]
    rfl
  case isFalse free =>
    rw [override_eq_of_not_mem free]
    have rules := made.keepsRules
    split
    case isTrue usable =>
      exact mapError_eq_ok_iff.mpr (recheck_eq_ok_iff.mpr
        ⟨⟨rules.delta, rules.step, rules.forward, rules.position⟩, usable, rfl⟩)
    case isFalse unusable =>
      rw [recheck, (Settings.finite_eq_ok_iff _ _).mpr ⟨rules.delta, rfl⟩,
        (checkStep_eq_ok_iff _ _).mpr ⟨rules.step, rules.forward, rfl⟩,
        (checkPosition_eq_ok_iff _ _).mpr ⟨rules.position, rfl⟩,
        made.checkHeading_of_not_isUsable unusable]
      rfl

theorem IsMade.override_eq_ok_iff {changes : List (String × Action)} {t : TurtleSettings} :
    s.override changes = .ok t ↔ Settings.reservedName ∉ changes.map Prod.fst ∧
      s.heading.IsUsable ∧ t = s.overridden changes := by
  rw [made.override_eq]
  split
  case isTrue reserved => exact iff_of_false nofun fun ⟨free, _⟩ => free reserved
  case isFalse free =>
    split
    case isTrue usable => simp [free, usable, eq_comm]
    case isFalse unusable => exact iff_of_false nofun fun ⟨_, usable, _⟩ => unusable usable

-- The induction is on the changes.  The copy after the first one is made as well and its heading is
-- usable, so only the first change can fail for the heading.
/-- Several changes are one change of the table, and as many divisions of the heading. -/
theorem overrideAll_eq_ok_iff {calls : List (List (String × Action))} {t : TurtleSettings} :
    overrideAll s calls = .ok t ↔
      (∀ changes ∈ calls, Settings.reservedName ∉ changes.map Prod.fst) ∧
        (calls ≠ [] → s.heading.IsUsable) ∧
        t = { s with
          actions := updated s.actions calls.flatten
          heading := Vec.renewed^[calls.length] s.heading } := by
  induction calls generalizing s with
  | nil =>
    have none : overrideAll s [] = .ok s := rfl
    rw [none]
    simp [updated, eq_comm]
  | cons changes rest ih =>
    have first : overrideAll s (changes :: rest) =
        (s.override changes).bind fun next => overrideAll next rest := rfl
    rw [first]
    constructor
    · intro done
      obtain ⟨next, changed, later⟩ := ok_of_except_bind done
      have madeNext : IsMade next := .override made changed
      obtain ⟨free, usable, rfl⟩ := made.override_eq_ok_iff.mp changed
      obtain ⟨others, -, rfl⟩ := (ih madeNext).mp later
      exact ⟨List.forall_mem_cons.mpr ⟨free, others⟩, fun _ => usable, by
        rw [updated_flatten_cons]
        rfl⟩
    · rintro ⟨free, usable, rfl⟩
      obtain ⟨free, others⟩ := List.forall_mem_cons.mp free
      have usable := usable (List.cons_ne_nil _ _)
      have changed := made.override_eq_ok_iff.mpr ⟨free, usable, rfl⟩
      rw [changed]
      refine (ih (.override made changed)).mpr
        ⟨others, fun _ => made.isUsable_renewed usable, ?_⟩
      rw [updated_flatten_cons]
      rfl

/-- The changes are changes of the table alone exactly if the heading has length one. -/
theorem IsMade.norm_eq_one_iff :
    s.heading.norm = 1 ↔ ∀ calls : List (List (String × Action)),
      (∀ changes ∈ calls, Settings.reservedName ∉ changes.map Prod.fst) →
        overrideAll s calls = .ok { s with actions := updated s.actions calls.flatten } := by
  constructor
  · intro one calls free
    obtain ⟨v, given, same⟩ := made.exists_isUsable
    have usable := isUsable_of_norm_eq_one (same ▸ (Vec.divide_of_isUsable given).1) one
    have kept := (made.renewed_heading usable).1.mpr one
    refine (overrideAll_eq_ok_iff made).mpr ⟨free, fun _ => usable, ?_⟩
    rw [Function.iterate_fixed kept]
  · intro kept
    obtain ⟨-, usable, same⟩ := (overrideAll_eq_ok_iff made).mp (kept [[]] (by simp))
    exact (made.renewed_heading (usable (by simp))).1.mp (congrArg heading same).symm

end

/-- What a change of actions makes of settings that are made.  A reserved name is refused, and so are
all changes if the heading is not usable any more, which is so for settings from a finite heading of
infinite length.  Otherwise the actions are the old ones with the last change of every name, the
turn, the step and the position are kept, and the heading is divided by its length once more: it
stays the same exactly if its length is one, and no component moves by more than a part in `2 ^ 45`.

Several changes are one change of the table with as many divisions of the heading.  They are a
change of the table alone exactly if the heading has length one. -/
theorem override_of_isMade [Ruler] [LawfulRuler] {s : TurtleSettings} (made : IsMade s) :
    (∀ changes, s.override changes =
      if Settings.reservedName ∈ changes.map Prod.fst then .error .wrongType
      else if s.heading.IsUsable then .ok (s.overridden changes)
      else .error (.settings (.fields subject [⟨["start_heading"],
        .refused "start heading must be a finite, non-zero vector"⟩]))) ∧
    (∀ changes name, (s.overridden changes).actionOf name =
      (Datum.getField? name changes.reverse).getD (s.actionOf name)) ∧
    (∀ (f : Fields) (p : PairField) (v : Vec Float), ofFields f = .ok s → f.heading = some p →
      readPair "start_heading" "dx" "dy" p = .ok (v.dx, v.dy) →
      (s.heading.IsUsable ↔ v.norm.isFinite = true)) ∧
    (s.heading.IsUsable → (s.heading.renewed = s.heading ↔ s.heading.norm = 1) ∧
      |value s.heading.renewed.dx - value s.heading.dx| ≤ 1 / 2 ^ 45 ∧
      |value s.heading.renewed.dy - value s.heading.dy| ≤ 1 / 2 ^ 45) ∧
    (∀ calls t, overrideAll s calls = .ok t ↔
      (∀ changes ∈ calls, Settings.reservedName ∉ changes.map Prod.fst) ∧
        (calls ≠ [] → s.heading.IsUsable) ∧
        t = { s with
          actions := updated s.actions calls.flatten
          heading := Vec.renewed^[calls.length] s.heading }) ∧
    (s.heading.norm = 1 ↔ ∀ calls : List (List (String × Action)),
      (∀ changes ∈ calls, Settings.reservedName ∉ changes.map Prod.fst) →
        overrideAll s calls = .ok { s with actions := updated s.actions calls.flatten }) :=
  ⟨made.override_eq, actionOf_overridden s,
    fun _ _ _ read field pair => isUsable_heading_of_ofFields read field pair,
    made.renewed_heading, fun _ _ => overrideAll_eq_ok_iff made, made.norm_eq_one_iff⟩

/-- The usual settings with another heading. -/
theorem ofFields_heading [Ruler] {v : Vec Float} (usable : v.IsUsable) :
    ofFields ⟨none, none, none, none, some (.pair v.dx v.dy), ["start_heading"]⟩ =
      .ok { standard with heading := v.renewed } := by
  have kept := (checkHeading_eq_ok_iff v _).mpr ⟨usable, rfl⟩
  have free : ¬ ["start_heading"].contains Settings.reservedName = true := by decide
  rw [ofFields, Settings.refuseReserved, if_neg free]
  change orError (collect (.ok _) (.ok _) (.ok _) (.ok _)
    (Settings.placed "start_heading" (checkHeading v))) = _
  rw [kept]
  rfl

/-- The heading along the diagonal changes when an action is changed, and a heading of infinite
length is refused then. -/
theorem override_of_isMade_diagonal :
    let diagonal : TurtleSettings := { standard with heading := (⟨1, 1⟩ : Vec Float).renewed }
    let beyond : TurtleSettings :=
      { standard with heading := (⟨1.7e308, 1.7e308⟩ : Vec Float).renewed }
    let changes := [("X", Action.push)]
    IsMade diagonal ∧ diagonal.override changes = .ok (diagonal.overridden changes) ∧
      (diagonal.overridden changes).actionOf "X" = .push ∧
      (diagonal.overridden changes).heading ≠ diagonal.heading ∧
      ofFields ⟨none, none, none, none, some (.pair 1.7e308 1.7e308), ["start_heading"]⟩ =
        .ok beyond ∧
      beyond.override changes = .error (.settings (.fields subject [⟨["start_heading"],
        .refused "start heading must be a finite, non-zero vector"⟩])) := by
  intro diagonal beyond changes
  have one : (⟨1, 1⟩ : Vec Float).IsUsable := by decide +kernel
  have large : (⟨1.7e308, 1.7e308⟩ : Vec Float).IsUsable := by decide +kernel
  have made : IsMade diagonal := .ofFields (ofFields_heading one)
  have read := ofFields_heading large
  obtain ⟨outcome, actions, -, moved, -⟩ := override_of_isMade made
  obtain ⟨refused, -⟩ := override_of_isMade (.ofFields read)
  have usable : diagonal.heading.IsUsable := by decide +kernel
  have unusable : ¬ beyond.heading.IsUsable := by decide +kernel
  have shorter : diagonal.heading.norm ≠ 1 := by decide +kernel
  refine ⟨made, ?_, actions changes "X", fun same => shorter ((moved usable).1.mp same), read, ?_⟩
  · rw [outcome, if_neg (by decide), if_pos usable]
  · rw [refused, if_neg (by decide), if_neg unusable]

end TurtleSettings

end GrowthGrammar
