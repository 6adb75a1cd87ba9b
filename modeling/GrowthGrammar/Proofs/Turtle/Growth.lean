import Mathlib.Data.List.Basic
import GrowthGrammar.Proofs.Turtle.Run

/-!
# How a drawing grows

A turtle that moves only when it draws is always where the drawing already is: at the start
or at the end of an edge.  That is true of its own position and of every position it has
saved (`Walk.Anchored`), so it stays true when it jumps back, and an edge that it draws
starts there as well (`Path.GrowsFrom`).

Nothing is asked of the numbers: the positions are the same, not only equal as doubles.
-/

namespace GrowthGrammar

variable {K : Type}

namespace Path

/-- Every edge starts at the origin or where an earlier edge ends. -/
def GrowsFrom (origin : Point K) (path : Path K) : Prop :=
  ∀ (i : Nat) (e : Edge K), path[i]? = some e →
    e.start = origin ∨ ∃ (j : Nat) (f : Edge K), j < i ∧ path[j]? = some f ∧ f.stop = e.start

variable {origin : Point K} {path : Path K} {e : Edge K}

theorem GrowsFrom.nil (origin : Point K) : GrowsFrom origin [] := by
  rintro i e ⟨⟩

theorem GrowsFrom.append_singleton (grows : GrowsFrom origin path)
    (starts : e.start ∈ origin :: path.map Edge.stop) : GrowsFrom origin (path ++ [e]) := by
  intro i f found
  rcases Nat.lt_trichotomy i path.length with early | rfl | late
  · rw [List.getElem?_append_left early] at found
    refine (grows i f found).imp_right ?_
    rintro ⟨j, g, before, here, stop⟩
    exact ⟨j, g, before, by rwa [List.getElem?_append_left (Nat.lt_trans before early)], stop⟩
  · rw [List.getElem?_concat_length, Option.some.injEq] at found
    subst found
    refine (List.mem_cons.mp starts).imp_right fun member => ?_
    obtain ⟨g, drawn, stop⟩ := List.mem_map.mp member
    obtain ⟨j, bound, here⟩ := List.mem_iff_getElem.mp drawn
    exact ⟨j, g, bound, by rw [List.getElem?_append_left bound, List.getElem?_eq_getElem bound,
      here], stop⟩
  · rw [List.getElem?_eq_none (by simpa using Nat.succ_le_of_lt late)] at found
    cases found

end Path

namespace Walk

variable {g : Gait K} {w next : Walk K} {origin : Point K} {a : Action}

/-- The places where the drawing already is. -/
def reached (origin : Point K) (w : Walk K) : List (Point K) := origin :: w.path.map Edge.stop

theorem reached_draw (w : Walk K) (pose : Pose K) (e : Edge K) :
    Walk.reached origin { w with pose := pose, drawn := e :: w.drawn } =
      w.reached origin ++ [e.stop] := by
  rw [reached, path_draw, List.map_append]
  rfl

/-- The turtle and the poses it has saved are where the drawing already is. -/
structure Anchored (origin : Point K) (w : Walk K) : Prop where
  grows : w.path.GrowsFrom origin
  position : w.pose.position ∈ w.reached origin
  saved : ∀ pose ∈ w.saved, pose.position ∈ w.reached origin

theorem Anchored.start (pose : Pose K) : (Walk.start pose).Anchored pose.position where
  grows := .nil _
  position := List.mem_cons_self
  saved := by rintro _ ⟨⟩

variable [Add K] [Sub K] [Mul K]

theorem Anchored.act (anchored : w.Anchored origin) (still : a ≠ .move)
    (acted : w.act g a = some next) : next.Anchored origin := by
  obtain ⟨grows, position, saved⟩ := anchored
  cases a with
  | draw =>
    cases acted
    refine ⟨?_, ?_, fun pose member => ?_⟩
    · rw [path_draw]
      exact grows.append_singleton position
    · rw [reached_draw]
      exact List.mem_append_right _ List.mem_cons_self
    · rw [reached_draw]
      exact List.mem_append_left _ (saved pose member)
  | move => exact absurd rfl still
  | left | right | ignore =>
    cases acted
    exact ⟨grows, position, saved⟩
  | push =>
    cases acted
    exact ⟨grows, position, List.forall_mem_cons.mpr ⟨position, saved⟩⟩
  | pop =>
    rw [Walk.act] at acted
    split at acted
    · cases acted
    case h_2 pose rest opened =>
      cases acted
      rw [opened] at saved
      obtain ⟨here, later⟩ := List.forall_mem_cons.mp saved
      exact ⟨grows, here, later⟩

theorem Anchored.run {actions : List Action} (anchored : w.Anchored origin)
    (still : ∀ a ∈ actions, a ≠ .move) (ran : w.run g actions = some next) :
    next.Anchored origin := by
  induction actions generalizing w with
  | nil =>
    cases ran
    exact anchored
  | cons a rest ih =>
    obtain ⟨here, others⟩ := List.forall_mem_cons.mp still
    obtain ⟨between, acted, later⟩ := Option.bind_eq_some_iff.mp ran
    exact ih (anchored.act here acted) others later

end Walk

/-- A word without a symbol that moves without drawing draws a path that grows from the start. -/
theorem TurtleSettings.growsFrom_of_walk [Ruler] {s : TurtleSettings} {w : Word}
    {start : Option (Pose Float)} {path : Path Float}
    (still : ∀ symbol ∈ w, s.actionOf symbol.name ≠ .move)
    (walked : s.walk w start = .ok path) :
    path.GrowsFrom (start.getD s.startPose).position := by
  obtain ⟨last, ⟨pose, aligned, followed⟩, rfl⟩ := walk_eq_ok_iff.mp walked
  -- only the heading of a pose is changed before a walk
  obtain ⟨-, rfl⟩ := alignPose_eq_ok_iff.mp aligned
  exact ((Walk.Anchored.start _).run (List.forall_mem_map.mpr still)
    (Walk.follow_eq_ok_iff.mp followed)).grows

end GrowthGrammar
