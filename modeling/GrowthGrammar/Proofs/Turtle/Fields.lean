import GrowthGrammar.Proofs.Settings.Field
import GrowthGrammar.Turtle.Settings

/-!
# Fields of the settings of the turtle

Settings are collected exactly if every field passes (`collect_eq_ok_iff`).  Apart from the heading,
a field that passes is kept as it is: the turn is finite, the step is finite and positive and the
position is finite, whether they are given or not (`keepsRules_of_check`).
-/

namespace GrowthGrammar.TurtleSettings

theorem checkPosition_eq_ok_iff (p q : Point Float) :
    checkPosition p = .ok q ↔ p.isFinite = true ∧ q = p := by
  rw [checkPosition]
  split <;> rename_i finite <;> simp [finite, eq_comm]

theorem checkStep_eq_ok_iff (x y : Float) :
    checkStep x = .ok y ↔ x.isFinite ∧ 0 < x ∧ y = x := by
  constructor
  · intro passed
    rw [checkStep] at passed
    obtain ⟨z, finite, positive⟩ := ok_of_except_bind passed
    obtain ⟨finite, rfl⟩ := (Settings.finite_eq_ok_iff x z).mp finite
    exact ⟨finite, (Settings.positive_eq_ok_iff _ y).mp positive⟩
  · rintro ⟨finite, positive, rfl⟩
    rw [checkStep, (Settings.finite_eq_ok_iff y y).mpr ⟨finite, rfl⟩]
    exact (Settings.positive_eq_ok_iff y y).mpr ⟨positive, rfl⟩

/-- Settings are collected exactly if every field passes. -/
theorem collect_eq_ok_iff {delta stepLength : Settings.Checked Float}
    {actions : Settings.Checked (List (String × Action))}
    {position : Settings.Checked (Point Float)} {heading : Settings.Checked (Vec Float)}
    {s : TurtleSettings} :
    collect delta stepLength actions position heading = .ok s ↔
      delta = .ok s.delta ∧ stepLength = .ok s.stepLength ∧ actions = .ok s.actions ∧
        position = .ok s.position ∧ heading = .ok s.heading := by
  rw [collect]
  constructor
  · intro made
    obtain ⟨⟨_, _, _, _, _⟩, fields, rfl⟩ := map_eq_ok_iff.mp made
    simpa only [Settings.both_eq_ok_iff] using fields
  · rintro ⟨rfl, rfl, rfl, rfl, rfl⟩
    rfl

/-- The rules of the fields that are not changed by a check. -/
structure KeepsRules (s : TurtleSettings) : Prop where
  /-- The turn is finite. -/
  delta : s.delta.isFinite = true
  /-- The step is finite. -/
  step : s.stepLength.isFinite = true
  /-- The step is positive. -/
  forward : 0 < s.stepLength
  /-- The position is finite. -/
  position : s.position.isFinite = true

theorem keepsRules_standard : KeepsRules standard := by
  constructor <;> decide +kernel

/-- A field that passes has what its default and everything that is read for it have. -/
theorem holds_of_given {α β : Type} {P : β → Prop} {value : Option α} {default : β}
    {read : α → Settings.Checked β} {b : β} (passed : given value default read = .ok b)
    (usual : P default) (checked : ∀ a, read a = .ok b → P b) : P b := by
  cases value with
  | none => exact Except.ok.inj passed ▸ usual
  | some a => exact checked a passed

theorem keepsRules_of_check [Ruler] {f : Fields} {s : TurtleSettings} (made : check f = .ok s) :
    KeepsRules s := by
  obtain ⟨delta, step, -, position, -⟩ := collect_eq_ok_iff.mp made
  have turn : s.delta.isFinite = true := by
    refine holds_of_given (P := fun x => x.isFinite = true) delta keepsRules_standard.delta ?_
    intro d passed
    obtain ⟨x, -, finite⟩ := ok_of_except_bind (Settings.placed_eq_ok_iff.mp passed)
    obtain ⟨finite, same⟩ := (Settings.finite_eq_ok_iff _ _).mp finite
    exact same ▸ finite
  have forward : s.stepLength.isFinite = true ∧ 0 < s.stepLength := by
    refine holds_of_given (P := fun x => x.isFinite = true ∧ 0 < x) step
      ⟨keepsRules_standard.step, keepsRules_standard.forward⟩ ?_
    intro d passed
    obtain ⟨x, -, checked⟩ := ok_of_except_bind (Settings.placed_eq_ok_iff.mp passed)
    obtain ⟨finite, positive, same⟩ := (checkStep_eq_ok_iff _ _).mp checked
    exact same ▸ ⟨finite, positive⟩
  have place : s.position.isFinite = true := by
    refine holds_of_given (P := fun p => p.isFinite = true) position
      keepsRules_standard.position ?_
    intro p passed
    obtain ⟨coordinates, -, checked⟩ := ok_of_except_bind passed
    obtain ⟨finite, same⟩ := (checkPosition_eq_ok_iff _ _).mp
      (Settings.placed_eq_ok_iff.mp checked)
    exact same ▸ finite
  exact ⟨turn, forward.1, forward.2, place⟩

end GrowthGrammar.TurtleSettings
