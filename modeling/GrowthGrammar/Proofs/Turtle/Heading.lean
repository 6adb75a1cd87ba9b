import GrowthGrammar.Proofs.Plane.Length
import GrowthGrammar.Proofs.Plane.Runs
import GrowthGrammar.Proofs.Turtle.Fields
import GrowthGrammar.Proofs.Turtle.Run

/-!
# Headings at the start of a walk

A heading is usable if it is finite and not shorter than the tolerance.  It is divided by its
length, and the turtle starts with the quotient, which has a direction unless the length is infinite
(`Vec.divide_of_isUsable`): every step of the turtle leads nowhere then.

Settings divide their heading when they are made, and a walk from where they start divides it
again.  A quotient with a direction is usable once more, and one without is refused then.  So
settings never lead to a walk without a direction, but settings with a finite heading of infinite
length are accepted although no walk can start with them.

Main statement: `TurtleSettings.walk_isGuarded_iff`.
-/

namespace GrowthGrammar

open Decimal Decimal.Binary64

/-! ## Headings -/

namespace Vec

/-- The vector is finite and not zero. -/
def HasDirection (v : Vec Float) : Prop :=
  v.isFinite = true ∧ (value v.dx ≠ 0 ∨ value v.dy ≠ 0)

/-- The vector is finite and not shorter than the tolerance. -/
def IsUsable [Ruler] (v : Vec Float) : Prop := v.isFinite = true ∧ ¬ v.norm < tolerance

instance [Ruler] (v : Vec Float) : Decidable v.IsUsable := inferInstanceAs (Decidable (_ ∧ _))

theorem hasDirection_iff (v : Vec Float) :
    v.HasDirection ↔ v.isFinite = true ∧ v.reach ≠ 0 := by
  rw [HasDirection, ne_eq v.reach, reach_eq_zero_iff, not_and_or]

theorem tolerance_between : 0 < value tolerance ∧ value tolerance < 1 / 4 := by
  have low : (0 : Float) < tolerance := by decide +kernel
  have high : tolerance < (0.25 : Float) := by decide +kernel
  rw [lt_iff_value (by decide) isFinite_tolerance, value_zero] at low
  rw [lt_iff_value isFinite_tolerance (by decide +kernel), value_quarter] at high
  exact ⟨low, high⟩

section

variable [Ruler] [LawfulRuler] {v : Vec Float} (finite : v.isFinite = true)

include finite

theorem isUsable_of_not_isFinite (beyond : ¬ v.norm.isFinite = true) : v.IsUsable := by
  rw [IsUsable, norm_eq_infinity finite beyond]
  exact ⟨finite, not_infinity_lt _⟩

variable (measured : v.norm.isFinite = true)

include measured

theorem isUsable_of_le_reach (large : 1 / 4 ≤ v.reach) : v.IsUsable := by
  refine ⟨finite, fun short => ?_⟩
  rw [lt_iff_value measured isFinite_tolerance] at short
  linarith [reach_le_norm finite measured, tolerance_between.2]

theorem not_isUsable_of_reach (zero : v.reach = 0) : ¬ v.IsUsable := by
  rintro ⟨-, long⟩
  have short := norm_le finite measured
  rw [zero, mul_zero] at short
  rw [lt_iff_value measured isFinite_tolerance] at long
  exact long (short.trans_lt tolerance_between.1)

end

/-- A usable vector that is divided by its length has a finite length.  It has a direction, and is
usable again, exactly if the length it was divided by was finite. -/
theorem divide_of_isUsable [Ruler] [LawfulRuler] {v : Vec Float} (usable : v.IsUsable) :
    (v.divide v.norm).isFinite = true ∧ (v.divide v.norm).norm.isFinite = true ∧
      ((v.divide v.norm).HasDirection ↔ v.norm.isFinite = true) ∧
      ((v.divide v.norm).IsUsable ↔ v.norm.isFinite = true) := by
  have finite := usable.1
  rw [hasDirection_iff]
  by_cases measured : v.norm.isFinite = true
  · have nonzero : v.reach ≠ 0 := fun zero => not_isUsable_of_reach finite measured zero usable
    obtain ⟨quotient, atMost, atLeast⟩ := divide_norm finite measured nonzero
    have again := isFinite_norm_of_reach_le quotient atMost
    exact ⟨quotient, again, iff_of_true ⟨quotient, by linarith⟩ measured,
      iff_of_true (isUsable_of_le_reach quotient again atLeast) measured⟩
  · obtain ⟨quotient, zero⟩ := divide_norm_of_not_isFinite finite measured
    have again := isFinite_norm_of_reach_le quotient (zero.trans_le zero_le_one)
    exact ⟨quotient, again, iff_of_false (fun some => some.2 zero) measured,
      iff_of_false (not_isUsable_of_reach quotient again zero) measured⟩

section

variable [Ruler] [LawfulRuler]

theorem norm_up : up.norm = 1 := by
  refine norm_eq_one (by decide) ?_
  rw [squares, up, value_zero, value_one]
  norm_num

theorem isUsable_up : up.IsUsable := by
  rw [IsUsable, norm_up]
  exact ⟨by decide, by decide +kernel⟩

theorem divide_norm_up : up.divide up.norm = up := by
  rw [norm_up]
  decide +kernel

end

end Vec

namespace TurtleSettings

/-! ## Walks -/

theorem exists_alignPose_iff [Ruler] (pose : Pose Float) :
    (∃ aligned, alignPose pose = .ok aligned) ↔ pose.heading.IsUsable :=
  ⟨fun ⟨_, aligned⟩ => (alignPose_eq_ok_iff.mp aligned).1, exists_aligned⟩

/-- A heading that is not usable is an invalid setting. -/
theorem alignPose_of_not_isUsable [Ruler] {pose : Pose Float} (unusable : ¬ pose.heading.IsUsable) :
    ∃ fault, alignPose pose = .error (.settings fault) := by
  rw [alignPose]
  by_cases finite : pose.heading.isFinite = true
  · have short : pose.heading.norm < tolerance := by
      by_contra long
      exact unusable ⟨finite, long⟩
    exact ⟨_, by simp [finite, Vec.unit, short]; rfl⟩
  · exact ⟨_, by simp [finite]; rfl⟩

section

variable {s : TurtleSettings} {w : Word} {start : Option (Pose Float)}

theorem walk_of_aligned [Ruler] {pose : Pose Float}
    (aligned : alignPose (start.getD s.startPose) = .ok pose) :
    s.walk w start =
      (drawActions s.gait pose (s.actionsOf w)).mapError (underflowAt w) := by
  simp only [walk, aligned, bind, Except.bind]

/-- A walk is refused as an invalid setting, or the turtle starts it with a direction. -/
def IsGuarded [Ruler] (s : TurtleSettings) (w : Word) (start : Option (Pose Float)) : Prop :=
  (∃ fault, s.walk w start = .error (.settings fault)) ∨
    ∃ pose, alignPose (start.getD s.startPose) = .ok pose ∧ pose.heading.HasDirection ∧
      s.walk w start = (drawActions s.gait pose (s.actionsOf w)).mapError (underflowAt w)

/-- Only a finite heading of infinite length leads to a walk without a direction. -/
theorem isGuarded_iff [Ruler] [LawfulRuler] :
    s.IsGuarded w start ↔ ((start.getD s.startPose).heading.isFinite = true →
      (start.getD s.startPose).heading.norm.isFinite = true) := by
  by_cases usable : (start.getD s.startPose).heading.IsUsable
  · obtain ⟨-, -, direction, -⟩ := Vec.divide_of_isUsable usable
    have aligned := alignPose_eq_ok_iff.mpr ⟨usable, rfl⟩
    rw [iff_true_intro usable.1, true_imp_iff, ← direction]
    constructor
    · rintro (⟨fault, refused⟩ | ⟨pose, same, direction, -⟩)
      · obtain ⟨i, -, other⟩ := (walk_eq_error_iff aligned).mp refused
        cases other
      · rw [aligned] at same
        cases same
        exact direction
    · exact fun direction => .inr ⟨_, aligned, direction, walk_of_aligned aligned⟩
  · obtain ⟨fault, refused⟩ := alignPose_of_not_isUsable usable
    refine iff_of_true (.inl ⟨fault, ?_⟩) fun finite => by_contra fun beyond =>
      usable (Vec.isUsable_of_not_isFinite finite beyond)
    simp only [walk, refused, bind, Except.bind]

end

/-! ## Settings -/

/-- A heading is kept by settings if it is usable, and it is divided by its length. -/
theorem checkHeading_eq_ok_iff [Ruler] (v h : Vec Float) :
    checkHeading v = .ok h ↔ v.IsUsable ∧ h = v.divide v.norm := by
  rw [checkHeading, Vec.IsUsable, Vec.unit]
  by_cases finite : v.isFinite = true
  · by_cases short : v.norm < tolerance
    · by_cases zero : (v.norm == 0) = true <;> simp [finite, short, zero, Except.mapError]
    · -- A length of zero is below the tolerance, so it is never what refuses a heading.
      have nonzero : (v.norm == 0) = false := by
        rw [Bool.eq_false_iff]
        intro zero
        refine short ?_
        rcases eq_zero_or_eq_negZero ((beq_zero_iff v.norm).mp zero) with same | same
        · rw [same]
          decide +kernel
        · rw [same]
          decide +kernel
      simp [finite, short, nonzero, Except.mapError, eq_comm]
  · simp [finite]

/-- Settings that are made from fields, or from others by changing actions. -/
inductive IsMade [Ruler] : TurtleSettings → Prop
  /-- Settings from fields. -/
  | ofFields {f : Fields} {s : TurtleSettings} (made : ofFields f = .ok s) : IsMade s
  /-- Settings with some actions changed. -/
  | override {s changed : TurtleSettings} {changes : List (String × Action)} (before : IsMade s)
      (made : s.override changes = .ok changed) : IsMade changed

theorem heading_of_collect {delta stepLength : Settings.Checked Float}
    {actions : Settings.Checked (List (String × Action))}
    {position : Settings.Checked (Point Float)} {heading : Settings.Checked (Vec Float)}
    {s : TurtleSettings}
    (made : orError (collect delta stepLength actions position heading) = .ok s) :
    heading = .ok s.heading :=
  (collect_eq_ok_iff.mp (mapError_eq_ok_iff.mp made)).2.2.2.2

/-- The heading of settings from fields is the checked heading that is given, if one is. -/
theorem checkHeading_of_ofFields [Ruler] {f : Fields} {s : TurtleSettings}
    (made : ofFields f = .ok s)
    {p : PairField} (field : f.heading = some p) :
    ∃ v : Vec Float, readPair "start_heading" "dx" "dy" p = .ok (v.dx, v.dy) ∧
      checkHeading v = .ok s.heading := by
  simp only [ofFields, bind, Except.bind] at made
  split at made
  · cases made
  · have heading := heading_of_collect made
    rw [field, given] at heading
    cases pair : readPair "start_heading" "dx" "dy" p with
    | error issues =>
      rw [pair] at heading
      cases heading
    | ok coordinates =>
      rw [pair] at heading
      exact ⟨⟨coordinates.1, coordinates.2⟩, rfl, Settings.placed_eq_ok_iff.mp heading⟩

theorem heading_of_ofFields [Ruler] {f : Fields} {s : TurtleSettings} (made : ofFields f = .ok s)
    (field : f.heading = none) : s.heading = Vec.up := by
  simp only [ofFields, bind, Except.bind] at made
  split at made
  · cases made
  · have heading := heading_of_collect made
    rw [field] at heading
    exact (Except.ok.inj heading).symm

/-- The heading of settings is a usable one that was divided by its length. -/
theorem IsMade.exists_isUsable [Ruler] [LawfulRuler] {s : TurtleSettings} (made : IsMade s) :
    ∃ v : Vec Float, v.IsUsable ∧ s.heading = v.divide v.norm := by
  cases made with
  | @ofFields f s made =>
    cases field : f.heading with
    | none =>
      -- The usual heading is not divided, but its length is one.
      rw [heading_of_ofFields made field]
      exact ⟨Vec.up, Vec.isUsable_up, Vec.divide_norm_up.symm⟩
    | some p =>
      obtain ⟨v, -, checked⟩ := checkHeading_of_ofFields made field
      exact ⟨v, (checkHeading_eq_ok_iff v _).mp checked⟩
  | @override s changed changes before made =>
    simp only [TurtleSettings.override, bind, Except.bind] at made
    split at made
    · cases made
    · have heading := Settings.placed_eq_ok_iff.mp (heading_of_collect made)
      exact ⟨s.heading, (checkHeading_eq_ok_iff _ _).mp heading⟩

/-- A walk is refused as an invalid setting or starts with a direction, unless its heading is finite
but of infinite length; and it starts exactly if the heading is usable.  Settings keep exactly the
usable headings, and a walk from where settings start is always refused or has a direction; but it
starts only if the heading that was given has a finite length.  Every ruler has finite lengths up to
the largest double and infinite ones from the next power of two on. -/
theorem walk_isGuarded_iff [Ruler] [LawfulRuler] (s : TurtleSettings) (w : Word)
    (start : Option (Pose Float)) :
    (s.IsGuarded w start ↔ ((start.getD s.startPose).heading.isFinite = true →
      (start.getD s.startPose).heading.norm.isFinite = true)) ∧
    ((∃ aligned, alignPose (start.getD s.startPose) = .ok aligned) ↔
      (start.getD s.startPose).heading.IsUsable) ∧
    (∀ v, (∃ h, checkHeading v = .ok h) ↔ v.IsUsable) ∧
    (IsMade s → s.IsGuarded w none) ∧
    (∀ (f : Fields) (p : PairField) (v : Vec Float), f.heading = some p →
      readPair "start_heading" "dx" "dy" p = .ok (v.dx, v.dy) → ofFields f = .ok s →
      v.IsUsable ∧ ((∃ aligned, alignPose s.startPose = .ok aligned) ↔ v.norm.isFinite = true)) ∧
    ∀ v : Vec Float, v.isFinite = true →
      (v.squares ≤ largest ^ 2 → v.norm.isFinite = true) ∧
      ((2 ^ 1024) ^ 2 ≤ v.squares → ¬ v.norm.isFinite = true) := by
  refine ⟨isGuarded_iff, exists_alignPose_iff _, fun v => ?_, fun made => ?_,
    fun f p v field pair made => ?_, fun v finite =>
      ⟨Vec.isFinite_norm_of_squares_le finite, Vec.not_isFinite_norm_of_le_squares finite⟩⟩
  · simp only [checkHeading_eq_ok_iff, exists_and_left, exists_eq, and_true]
  · obtain ⟨v, usable, divided⟩ := made.exists_isUsable
    obtain ⟨-, again, -⟩ := Vec.divide_of_isUsable usable
    rw [isGuarded_iff]
    intro finite
    rw [Option.getD_none, startPose, divided]
    exact again
  · obtain ⟨found, same, checked⟩ := checkHeading_of_ofFields made field
    obtain rfl : v = found := by
      rw [pair] at same
      cases v
      cases found
      cases same
      rfl
    obtain ⟨usable, divided⟩ := (checkHeading_eq_ok_iff v _).mp checked
    obtain ⟨-, -, -, again⟩ := Vec.divide_of_isUsable usable
    rw [exists_alignPose_iff, startPose, divided]
    exact ⟨usable, again⟩

/-- A heading along the diagonal whose length is infinite: the turtle starts without a direction if
the heading is given with the start, and not at all if settings were made with it. -/
theorem walk_isGuarded_iff_diagonal :
    let v : Vec Float := ⟨1.7e308, 1.7e308⟩
    let w : Word := [⟨0, "F"⟩]
    ∃ s : TurtleSettings,
      ofFields ⟨none, none, none, none, some (.pair v.dx v.dy), ["start_heading"]⟩ = .ok s ∧
        v.IsUsable ∧ ¬ s.IsGuarded w (some ⟨Point.origin, v⟩) ∧
        s.IsGuarded w (some ⟨Point.origin, ⟨3, 4⟩⟩) ∧ s.IsGuarded w none ∧
        ¬ ∃ aligned, alignPose s.startPose = .ok aligned := by
  intro v w
  have kept := (checkHeading_eq_ok_iff v _).mpr ⟨by decide +kernel, rfl⟩
  obtain ⟨s, made⟩ : ∃ s, ofFields
      ⟨none, none, none, none, some (.pair v.dx v.dy), ["start_heading"]⟩ = .ok s := by
    refine ⟨{ standard with heading := v.divide v.norm }, ?_⟩
    rw [ofFields, Settings.refuseReserved, if_neg (by decide)]
    change orError (collect (.ok _) (.ok _) (.ok _) (.ok _)
      (Settings.placed "start_heading" (checkHeading v))) = _
    rw [kept]
    rfl
  obtain ⟨unguarded, -, -, fromSettings, again, -⟩ :=
    walk_isGuarded_iff s w (some ⟨Point.origin, v⟩)
  obtain ⟨guarded, -⟩ := walk_isGuarded_iff s w (some ⟨Point.origin, ⟨3, 4⟩⟩)
  have finite : v.isFinite = true := by decide +kernel
  have beyond : ¬ v.norm.isFinite = true := by decide +kernel
  have five : (⟨3, 4⟩ : Vec Float).norm.isFinite = true := by decide +kernel
  obtain ⟨usable, starts⟩ := again _ _ v rfl rfl made
  exact ⟨s, made, usable, fun safe => beyond (unguarded.mp safe finite),
    guarded.mpr fun _ => five, fromSettings (.ofFields made),
    fun aligned => beyond (starts.mp aligned)⟩

end TurtleSettings

end GrowthGrammar
