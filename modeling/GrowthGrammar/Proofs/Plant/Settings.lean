import GrowthGrammar.Plant
import GrowthGrammar.Proofs.Turtle.Fields

/-!
# Settings of a plant

A setting may be given again, and only the last of its values is looked at
(`Draft.iterations_foldl_set` and its likes).  No value is judged where it is read.  When all lines
are read, the number of passes and the seed have to be at least zero
(`Draft.schedule_eq_ok_iff`), the turn has to be finite and the step finite and above zero
(`Draft.turtleSettings_eq_ok_iff`); otherwise it is the settings that are refused, and not the
text.
-/

namespace GrowthGrammar

/-! ## The last value counts -/

namespace PlantSetting

/-- The number of passes, if it is this that is set. -/
def iterations? : PlantSetting → Option Int
  | .iterations n => some n
  | _ => none

/-- The angle of a turn, if it is this that is set. -/
def delta? : PlantSetting → Option Float
  | .delta x => some x
  | _ => none

/-- The length of a step, if it is this that is set. -/
def step? : PlantSetting → Option Float
  | .step x => some x
  | _ => none

/-- The seed, if it is this that is set. -/
def seed? : PlantSetting → Option Int
  | .seed n => some n
  | _ => none

/-- The last of the values that some settings give to one field. -/
def last {α : Type} (pick : PlantSetting → Option α) (given : List PlantSetting) : Option α :=
  (given.filterMap pick).getLast?

theorem last_append_singleton {α : Type} (pick : PlantSetting → Option α)
    (given : List PlantSetting) (s : PlantSetting) :
    last pick (given ++ [s]) = (pick s).or (last pick given) := by
  rw [last, last, List.filterMap_append]
  cases found : pick s <;> simp [found]

end PlantSetting

namespace Plant.Draft

open PlantSetting

/-- If each setting gives a field its value or leaves it, then some settings give it the last of
their values. -/
theorem field_foldl_set {α : Type} (field : Draft → Option α) (pick : PlantSetting → Option α)
    (one : ∀ d s, field (d.set s) = (pick s).or (field d)) (d : Draft) (given : List PlantSetting) :
    field (given.foldl set d) = (last pick given).or (field d) := by
  induction given using List.reverseRecOn with
  | nil => rfl
  | append_singleton given s ih =>
    rw [List.foldl_append, last_append_singleton, Option.or_assoc, ← ih]
    exact one _ s

theorem iterations_foldl_set (d : Draft) (given : List PlantSetting) :
    (given.foldl set d).iterations = (last iterations? given).getD d.iterations := by
  have found := field_foldl_set (fun d => some d.iterations) iterations?
    (fun d s => by cases s <;> rfl) d given
  simpa using found

theorem delta_foldl_set (d : Draft) (given : List PlantSetting) :
    (given.foldl set d).delta = (last delta? given).getD d.delta := by
  have found := field_foldl_set (fun d => some d.delta) delta?
    (fun d s => by cases s <;> rfl) d given
  simpa using found

theorem step_foldl_set (d : Draft) (given : List PlantSetting) :
    (given.foldl set d).step = (last step? given).getD d.step := by
  have found := field_foldl_set (fun d => some d.step) step?
    (fun d s => by cases s <;> rfl) d given
  simpa using found

theorem seed_foldl_set (d : Draft) (given : List PlantSetting) :
    (given.foldl set d).seed = (last seed? given).or d.seed :=
  field_foldl_set (fun d => d.seed) seed? (fun d s => by cases s <;> rfl) d given

/-! ## What is judged -/

/-- The seed of a draft as a field of the settings. -/
theorem optional_seed_eq_ok_iff (seed : Option Int) (found : Option Nat) :
    Settings.optional (fun d => do Settings.natural (← Settings.whole d))
      ((seed.map Datum.int).getD .null) = .ok found ↔ found.map Nat.cast = seed := by
  cases seed with
  | none =>
    show Except.ok none = Except.ok found ↔ _
    rw [Except.ok.injEq, eq_comm, Option.map_eq_none_iff]
  | some n =>
    show (Settings.natural n).map some = .ok found ↔ _
    rw [map_eq_ok_iff]
    simp only [Settings.natural_eq_ok_iff, Option.map_eq_some_iff]
    exact ⟨fun ⟨k, cast, same⟩ => ⟨k, same.symm, cast⟩, fun ⟨k, same, cast⟩ => ⟨k, cast, same.symm⟩⟩

theorem schedule_eq_ok_iff (d : Draft) (run : Schedule) :
    d.schedule = .ok run ↔
      (run.iterations : Int) = d.iterations ∧ run.seed.map Nat.cast = d.seed := by
  have fields : d.schedule =
      ((Settings.both (Settings.placed "iterations" (Settings.natural d.iterations))
        (Settings.placed "rng_seed" (Settings.optional
          (fun d => do Settings.natural (← Settings.whole d))
          ((d.seed.map Datum.int).getD .null)))).map fun found =>
            (⟨found.1, found.2⟩ : Schedule)).mapError
        fun issues => .settings (.fields Schedule.subject issues) := rfl
  rw [fields, mapError_eq_ok_iff, map_eq_ok_iff]
  constructor
  · rintro ⟨⟨iterations, seed⟩, passed, rfl⟩
    obtain ⟨passes, start⟩ := Settings.both_eq_ok_iff.mp passed
    exact ⟨(Settings.natural_eq_ok_iff _ _).mp (Settings.placed_eq_ok_iff.mp passes),
      (optional_seed_eq_ok_iff _ _).mp (Settings.placed_eq_ok_iff.mp start)⟩
  · rintro ⟨passes, start⟩
    refine ⟨(run.iterations, run.seed), Settings.both_eq_ok_iff.mpr ⟨?_, ?_⟩, rfl⟩
    · exact Settings.placed_eq_ok_iff.mpr ((Settings.natural_eq_ok_iff _ _).mpr passes)
    · exact Settings.placed_eq_ok_iff.mpr ((optional_seed_eq_ok_iff _ _).mpr start)

theorem turtleSettings_eq_ok_iff [Ruler] (d : Draft) (turtle : TurtleSettings) :
    d.turtleSettings = .ok turtle ↔ d.delta.isFinite ∧ d.step.isFinite ∧ 0 < d.step ∧
      turtle = { TurtleSettings.standard with delta := d.delta, stepLength := d.step } := by
  have fields : d.turtleSettings =
      TurtleSettings.orError (TurtleSettings.collect
        (Settings.placed "delta" (Settings.finite d.delta))
        (Settings.placed "step_length" (TurtleSettings.checkStep d.step))
        (.ok TurtleSettings.standard.actions) (.ok TurtleSettings.standard.position)
        (.ok TurtleSettings.standard.heading)) := rfl
  rw [fields, TurtleSettings.orError, mapError_eq_ok_iff, TurtleSettings.collect, map_eq_ok_iff]
  constructor
  · rintro ⟨⟨delta, step, actions, position, heading⟩, passed, rfl⟩
    obtain ⟨turn, passed⟩ := Settings.both_eq_ok_iff.mp passed
    obtain ⟨length, passed⟩ := Settings.both_eq_ok_iff.mp passed
    cases passed
    obtain ⟨turnFinite, rfl⟩ :=
      (Settings.finite_eq_ok_iff _ _).mp (Settings.placed_eq_ok_iff.mp turn)
    obtain ⟨lengthFinite, positive, rfl⟩ :=
      (TurtleSettings.checkStep_eq_ok_iff _ _).mp (Settings.placed_eq_ok_iff.mp length)
    exact ⟨turnFinite, lengthFinite, positive, rfl⟩
  · rintro ⟨turnFinite, lengthFinite, positive, rfl⟩
    refine ⟨(d.delta, d.step, _, _, _), Settings.both_eq_ok_iff.mpr ⟨?_, ?_⟩, rfl⟩
    · exact Settings.placed_eq_ok_iff.mpr ((Settings.finite_eq_ok_iff _ _).mpr ⟨turnFinite, rfl⟩)
    · refine Settings.both_eq_ok_iff.mpr ⟨Settings.placed_eq_ok_iff.mpr ?_, rfl⟩
      exact (TurtleSettings.checkStep_eq_ok_iff _ _).mpr ⟨lengthFinite, positive, rfl⟩

end Plant.Draft

end GrowthGrammar
