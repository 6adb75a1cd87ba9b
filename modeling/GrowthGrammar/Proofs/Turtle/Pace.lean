import Mathlib.Data.Int.Basic
import GrowthGrammar.Proofs.Turtle.Images

/-!
# The pace of a walk

In exact arithmetic a turn does not change the length of a vector.  So all headings of a walk, its
own and those it has saved, are as long as the one it starts with, and all edges are as long as a
step along it (`Walk.KeepsPace`), whatever turns and branches come before.

A turn and the turn back leave a walk as it was (`Walk.run_turns`), so such a pair can be put
anywhere.

Main statement: `TurtleSettings.pace_of_drawing`.
-/

namespace GrowthGrammar

variable {K : Type} [CommRing K]

theorem Point.minus_move (p : Point K) (v : Vec K) : (p.move v).minus p = v := by
  rw [move, minus, add_sub_cancel_left, add_sub_cancel_left]

namespace Walk

variable {step : K} {t : Turn K} {w next : Walk K} {a : Action} {actions : List Action}

/-- The squared length of every heading is the given one, and every edge is one step long. -/
structure KeepsPace (step size : K) (w : Walk K) : Prop where
  heading : w.pose.heading.sqNorm = size
  saved : ∀ pose ∈ w.saved, pose.heading.sqNorm = size
  drawn : ∀ e ∈ w.drawn, e.vector.sqNorm = step ^ 2 * size

theorem KeepsPace.start (step : K) (pose : Pose K) :
    (Walk.start pose).KeepsPace step pose.heading.sqNorm where
  heading := rfl
  saved := by rintro _ ⟨⟩
  drawn := by rintro _ ⟨⟩

section

variable {size : K} (unit : t.IsUnit)

include unit

theorem KeepsPace.act (keeps : w.KeepsPace step size)
    (acted : w.act (.exact step t) a = some next) : next.KeepsPace step size := by
  obtain ⟨heading, saved, drawn⟩ := keeps
  cases a with
  | draw =>
    cases acted
    refine ⟨heading, saved, List.forall_mem_cons.mpr ⟨?_, drawn⟩⟩
    rw [Edge.vector, ahead, Point.minus_move, Vec.sqNorm_scale, heading]
    rfl
  | move | ignore =>
    cases acted
    exact ⟨heading, saved, drawn⟩
  | left =>
    cases acted
    exact ⟨(Vec.sqNorm_turned _ unit).trans heading, saved, drawn⟩
  | right =>
    cases acted
    exact ⟨(Vec.sqNorm_turned _ unit.back).trans heading, saved, drawn⟩
  | push =>
    cases acted
    exact ⟨heading, List.forall_mem_cons.mpr ⟨heading, saved⟩, drawn⟩
  | pop =>
    rw [Walk.act] at acted
    split at acted
    · cases acted
    case h_2 pose rest opened =>
      cases acted
      rw [opened] at saved
      obtain ⟨here, later⟩ := List.forall_mem_cons.mp saved
      exact ⟨here, later, drawn⟩

theorem KeepsPace.run (keeps : w.KeepsPace step size)
    (ran : w.run (.exact step t) actions = some next) : next.KeepsPace step size := by
  induction actions generalizing w with
  | nil =>
    cases ran
    exact keeps
  | cons a rest ih =>
    obtain ⟨between, acted, later⟩ := Option.bind_eq_some_iff.mp ran
    exact ih (keeps.act unit acted) later

end

/-! ## Turns that are taken back -/

/-- The two actions are a turn and the turn back. -/
def IsTurnAndBack (first second : Action) : Prop :=
  first = .left ∧ second = .right ∨ first = .right ∧ second = .left

instance (first second : Action) : Decidable (IsTurnAndBack first second) :=
  inferInstanceAs (Decidable (_ ∨ _))

variable (unit : t.IsUnit) {first second : Action} (turns : IsTurnAndBack first second)

include unit turns

theorem run_turns (w : Walk K) (rest : List Action) :
    w.run (.exact step t) (first :: second :: rest) = w.run (.exact step t) rest := by
  rcases turns with ⟨rfl, rfl⟩ | ⟨rfl, rfl⟩
  · simp only [run_cons, act, Option.bind_some, Gait.exact, Vec.turned_back _ unit]
  · simp only [run_cons, act, Option.bind_some, Gait.exact, Vec.back_turned _ unit]

/-- A turn and the turn back can be put anywhere among some actions. -/
theorem run_insert_turns (w : Walk K) (before after : List Action) :
    w.run (.exact step t) (before ++ first :: second :: after) =
      w.run (.exact step t) (before ++ after) := by
  rw [run_append, run_append]
  exact Option.bind_congr fun turtle _ => run_turns unit turns turtle after

end Walk

namespace TurtleSettings

/-- The pace of a drawing in exact arithmetic.  If a word draws a path, then behind every prefix of
it the heading of the turtle and all headings that it has saved are as long as the one it started
with, and every edge is one step along such a heading.  A turn and the turn back, in either order,
can be put anywhere into the word without changing an edge. -/
theorem pace_of_drawing {K : Type} [CommRing K] {s : TurtleSettings} {w : Word} {step : K}
    {t : Turn K} {p : Pose K} {path : Path K} (unit : t.cos ^ 2 + t.sin ^ 2 = 1)
    (drawn : drawActions (.exact step t) p (s.actionsOf w) = .ok path) :
    (∀ before, before <+: w → ∃ turtle,
      (Walk.start p).follow (.exact step t) 0 (s.actionsOf before) = .ok turtle ∧
        turtle.pose.heading.sqNorm = p.heading.sqNorm ∧
        ∀ saved ∈ turtle.saved, saved.heading.sqNorm = p.heading.sqNorm) ∧
    (∀ e ∈ path, e.vector.sqNorm = step ^ 2 * p.heading.sqNorm) ∧
    (p.heading.sqNorm = 1 → ∀ e ∈ path, e.vector.sqNorm = step ^ 2) ∧
    ∀ before after first second, w = before ++ after →
      Walk.IsTurnAndBack (s.actionOf first.name) (s.actionOf second.name) →
      drawActions (.exact step t) p (s.actionsOf (before ++ first :: second :: after)) =
        .ok path := by
  have start := Walk.KeepsPace.start step p
  obtain ⟨last, ran, rfl⟩ := drawActions_eq_ok_iff.mp drawn
  have edges : ∀ e ∈ last.path, e.vector.sqNorm = step ^ 2 * p.heading.sqNorm := fun e member =>
    (start.run unit ran).drawn e (List.mem_reverse.mp member)
  refine ⟨?_, edges, fun one e member => ?_, ?_⟩
  · rintro before ⟨after, rfl⟩
    rw [actionsOf, List.map_append, Walk.run_append] at ran
    obtain ⟨turtle, begun, -⟩ := Option.bind_eq_some_iff.mp ran
    have keeps := start.run unit begun
    exact ⟨turtle, Walk.follow_eq_ok_iff.mpr begun, keeps.heading, keeps.saved⟩
  · rw [edges e member, one, mul_one]
  · rintro before after first second rfl turns
    rw [actionsOf, List.map_append] at ran
    rw [actionsOf, List.map_append, List.map_cons, List.map_cons]
    exact drawActions_eq_ok_iff.mpr
      ⟨last, (Walk.run_insert_turns unit turns _ _ _).trans ran, rfl⟩

/-- A branch to the left of a stem, with a step of two along a heading of length five. -/
theorem pace_of_drawing_branch :
    let t : Turn Int := ⟨0, 1⟩
    let p : Pose Int := ⟨⟨0, 0⟩, ⟨3, 4⟩⟩
    let path : Path Int :=
      [⟨⟨0, 0⟩, ⟨6, 8⟩⟩, ⟨⟨6, 8⟩, ⟨-2, 14⟩⟩, ⟨⟨6, 8⟩, ⟨12, 16⟩⟩]
    t.cos ^ 2 + t.sin ^ 2 = 1 ∧
      drawActions (.exact 2 t) p (standard.actionsOf
        [⟨0, "F"⟩, ⟨1, "["⟩, ⟨2, "+"⟩, ⟨0, "F"⟩, ⟨3, "]"⟩, ⟨0, "F"⟩]) = .ok path ∧
      (∀ e ∈ path, e.vector.sqNorm = 100) ∧
      drawActions (.exact 2 t) p (standard.actionsOf
        [⟨0, "F"⟩, ⟨1, "["⟩, ⟨2, "+"⟩, ⟨0, "F"⟩, ⟨4, "-"⟩, ⟨2, "+"⟩, ⟨3, "]"⟩, ⟨0, "F"⟩]) =
          .ok path := by
  intro t p path
  have unit : t.cos ^ 2 + t.sin ^ 2 = 1 := by decide
  have drawn : drawActions (.exact 2 t) p (standard.actionsOf
      [⟨0, "F"⟩, ⟨1, "["⟩, ⟨2, "+"⟩, ⟨0, "F"⟩, ⟨3, "]"⟩, ⟨0, "F"⟩]) = .ok path := by rfl
  obtain ⟨-, edges, -, insert⟩ := pace_of_drawing unit drawn
  exact ⟨unit, drawn, edges, insert [⟨0, "F"⟩, ⟨1, "["⟩, ⟨2, "+"⟩, ⟨0, "F"⟩] [⟨3, "]"⟩, ⟨0, "F"⟩]
    ⟨4, "-"⟩ ⟨2, "+"⟩ rfl (by decide)⟩

end TurtleSettings

end GrowthGrammar
