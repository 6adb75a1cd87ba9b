import Mathlib.Data.List.Basic
import Mathlib.Order.Bounds.Basic
import Mathlib.Tactic.IntervalCases
import GrowthGrammar.Proofs.Turtle.Run

/-!
# What a walk comes to

A walk stops at the first place where more branches have been closed than opened, the place
itself counted (`Walk.follow_error`); how deep the branches are and whether they are closed in
the end does not matter.  A walk that does not stop draws one edge with each action that draws:
the edge number `j` is drawn by the turtle as it is before action number `j` of those
(`Walk.getElem?_path_of_run`).

Main statement: the outcome of a walk over a word, from any start with a usable heading and with
any actions for the names (`TurtleSettings.walk_outcome`).
-/

namespace GrowthGrammar

variable {K : Type}

/-! ## Where too much is closed -/

/-- The places where, the place itself counted, more branches have been closed than were open at
first and have been opened since. -/
def overclosed (opened : Nat) (actions : List Action) : Set Nat :=
  {i | opened + (actions.take (i + 1)).count .push < (actions.take (i + 1)).count .pop}

section

variable {opened after : Nat} {a : Action} {rest : List Action}

theorem zero_mem_overclosed (refused : a.depth opened = none) :
    0 ∈ overclosed opened (a :: rest) := by
  rcases a.eq_push_or_eq_pop_or_isNeutral with rfl | rfl | neutral
  · cases refused
  · cases opened with
    | zero => simp [overclosed]
    | succ opened => cases refused
  · rw [Action.depth_of_isNeutral neutral] at refused
    cases refused

/-- What follows an action that can be done is counted from the depth behind it. -/
theorem mem_overclosed_cons (counted : a.depth opened = some after) (i : Nat) :
    i ∈ overclosed opened (a :: rest) ↔ ∃ j, i = j + 1 ∧ j ∈ overclosed after rest := by
  rcases a.eq_push_or_eq_pop_or_isNeutral with rfl | rfl | neutral
  · cases counted
    cases i <;> simp [overclosed, Nat.add_assoc, Nat.add_comm 1]
  · cases opened with
    | zero => cases counted
    | succ opened =>
      cases counted
      cases i <;> simp [overclosed, Nat.add_right_comm]
  · rw [Action.depth_of_isNeutral neutral] at counted
    cases counted
    cases i <;> simp [overclosed, neutral.1, neutral.2]

/-- The first place where too much is closed moves with the actions. -/
theorem isLeast_overclosed_cons (counted : a.depth opened = some after) {i : Nat}
    (least : IsLeast (overclosed after rest) i) :
    IsLeast (overclosed opened (a :: rest)) (i + 1) := by
  refine ⟨(mem_overclosed_cons counted _).mpr ⟨i, rfl, least.1⟩, fun k member => ?_⟩
  obtain ⟨j, rfl, later⟩ := (mem_overclosed_cons counted k).mp member
  exact Nat.succ_le_succ (least.2 later)

end

/-! ## Actions that draw -/

section

variable {actions : List Action} {j : Nat}

/-- Number `j` of the actions that draw has as many of them before it. -/
theorem count_take_idxOfNth_draw (bound : j < actions.count .draw) :
    (actions.take (actions.idxOfNth .draw j)).count .draw = j := by
  rw [← List.countBefore_eq_count_take, List.countBefore_idxOfNth_of_lt_count bound]

theorem drop_idxOfNth_draw (bound : j < actions.count .draw) :
    actions.drop (actions.idxOfNth .draw j) =
      .draw :: actions.drop (actions.idxOfNth .draw j + 1) := by
  rw [List.drop_eq_getElem_cons (List.idxOfNth_lt_length_of_lt_count bound),
    List.getElem_idxOfNth_eq]

end

/-! ## Walks that stop and walks that go through -/

namespace Walk

variable [Add K] [Sub K] [Mul K] {g : Gait K} {w : Walk K} {actions : List Action}

/-- A walk that stops does so at the first place where too much is closed. -/
theorem follow_error {place i : Nat} (stopped : w.follow g place actions = .error i) :
    ∃ j < actions.length, i = place + j ∧ IsLeast (overclosed w.saved.length actions) j := by
  induction actions generalizing w place with
  | nil => cases stopped
  | cons a rest ih =>
    have counted := act_depth g w a
    rw [follow] at stopped
    cases acted : w.act g a with
    | none =>
      rw [acted] at stopped counted
      cases stopped
      exact ⟨0, Nat.zero_lt_succ _, rfl, zero_mem_overclosed counted.symm,
        fun _ _ => Nat.zero_le _⟩
    | some next =>
      rw [acted] at stopped counted
      obtain ⟨j, bound, rfl, least⟩ := ih stopped
      exact ⟨j + 1, Nat.succ_lt_succ bound, by rw [Nat.add_right_comm, Nat.add_assoc],
        isLeast_overclosed_cons counted.symm least⟩

/-- An edge is drawn by the turtle as it is before the action that draws it. -/
theorem getElem?_path_of_run {pose : Pose K} {last : Walk K}
    (ran : (Walk.start pose).run g actions = some last) {j : Nat}
    (bound : j < actions.count .draw) :
    ∃ turtle, (Walk.start pose).run g (actions.take (actions.idxOfNth .draw j)) = some turtle ∧
      last.path[j]? = some ⟨turtle.pose.position, turtle.ahead g⟩ := by
  rw [← List.take_append_drop (actions.idxOfNth .draw j) actions, drop_idxOfNth_draw bound,
    run_append, Option.bind_eq_some_iff] at ran
  obtain ⟨turtle, before, ran⟩ := ran
  have length := length_path_of_run before
  obtain ⟨more, -, path_eq⟩ := path_of_run (w := { turtle with
    pose := ⟨turtle.ahead g, turtle.pose.heading⟩
    drawn := ⟨turtle.pose.position, turtle.ahead g⟩ :: turtle.drawn }) ran
  have count : turtle.path.length = j := by
    rw [length, count_take_idxOfNth_draw bound]
    exact Nat.zero_add j
  refine ⟨turtle, before, ?_⟩
  rw [path_eq, path_draw, List.append_assoc, List.getElem?_append_right count.le, count,
    Nat.sub_self]
  rfl

end Walk

/-! ## Outcomes over words -/

namespace TurtleSettings

variable {s : TurtleSettings} {w : Word} {start : Option (Pose Float)}

/-- The place of the symbol that draws the edge number `j`: number `j` of the symbols that
draw. -/
def drawPlace (s : TurtleSettings) (w : Word) (j : Nat) : Nat := (s.actionsOf w).idxOfNth .draw j

theorem actionsOf_take (s : TurtleSettings) (w : Word) (i : Nat) :
    s.actionsOf (w.take i) = (s.actionsOf w).take i :=
  List.map_take

theorem not_closesOnlyOpened_iff : ¬ ClosesOnlyOpened (s.actionsOf w) ↔
    ∃ v, v <+: w ∧ (s.actionsOf v).count .push < (s.actionsOf v).count .pop := by
  simp only [ClosesOnlyOpened, not_forall, not_le]
  constructor
  · rintro ⟨begun, starts, less⟩
    rw [List.prefix_iff_eq_take.mp starts, ← actionsOf_take] at less
    exact ⟨_, List.take_prefix _ w, less⟩
  · rintro ⟨v, starts, less⟩
    exact ⟨_, starts.map _, less⟩

theorem exists_reaches_iff [Ruler] (usable : (start.getD s.startPose).IsUsable) :
    (∃ turtle, s.Reaches w start turtle) ↔ ClosesOnlyOpened (s.actionsOf w) := by
  obtain ⟨pose, aligned⟩ := exists_aligned usable
  have counted : ((Walk.start pose).run s.gait (s.actionsOf w)).map (·.saved.length) =
      depthAfter 0 (s.actionsOf w) := Walk.run_depth
  simp only [reaches_iff aligned, closesOnlyOpened_iff, ← Option.isSome_iff_exists]
  rw [← Option.isSome_map (f := fun last : Walk Float => last.saved.length), counted]

theorem walk_fails_iff [Ruler] (usable : (start.getD s.startPose).IsUsable) :
    (∃ e, s.walk w start = .error e) ↔
      ∃ v, v <+: w ∧ (s.actionsOf v).count .push < (s.actionsOf v).count .pop := by
  rw [← not_closesOnlyOpened_iff, ← exists_reaches_iff usable]
  cases walked : s.walk w start with
  | error e =>
    refine iff_of_true ⟨e, rfl⟩ fun ⟨turtle, reached⟩ => ?_
    rw [walk_eq_ok_iff.mpr ⟨turtle, reached, rfl⟩] at walked
    cases walked
  | ok path =>
    obtain ⟨turtle, reached, -⟩ := walk_eq_ok_iff.mp walked
    exact iff_of_false (by rintro ⟨e, ⟨⟩⟩) fun none => none ⟨turtle, reached⟩

/-- The symbol that a walk fails for is the first one up to which too much is closed. -/
theorem underflow_of_walk [Ruler] (usable : (start.getD s.startPose).IsUsable) {e : Error}
    (failed : s.walk w start = .error e) : ∃ i symbol, w[i]? = some symbol ∧
      e = .underflow symbol.name i ∧
      IsLeast {i | (s.actionsOf (w.take (i + 1))).count .push <
        (s.actionsOf (w.take (i + 1))).count .pop} i := by
  obtain ⟨pose, aligned⟩ := exists_aligned usable
  obtain ⟨i, stopped, rfl⟩ := (walk_eq_error_iff aligned).mp failed
  obtain ⟨j, bound, rfl, least⟩ := Walk.follow_error stopped
  rw [Nat.zero_add]
  have inside : j < w.length := by rwa [actionsOf, List.length_map] at bound
  refine ⟨j, w[j], List.getElem?_eq_getElem inside, ?_, ?_⟩
  · rw [underflowAt, List.getElem?_eq_getElem inside]
    rfl
  · simpa only [overclosed, Walk.start, List.length_nil, Nat.zero_add, actionsOf_take]
      using least

/-- A walk draws an edge with each symbol that draws, ahead of the turtle as it is there. -/
theorem edges_of_walk [Ruler] {path : Path Float} (walked : s.walk w start = .ok path) :
    path.length = (s.actionsOf w).count .draw ∧
      ∀ j e, path[j]? = some e → ∃ turtle, s.Reaches (w.take (s.drawPlace w j)) start turtle ∧
        e = ⟨turtle.pose.position, turtle.ahead s.gait⟩ := by
  obtain ⟨last, ⟨pose, aligned, followed⟩, rfl⟩ := walk_eq_ok_iff.mp walked
  have ran := Walk.follow_eq_ok_iff.mp followed
  have length := Walk.length_path_of_run ran
  rw [show (Walk.start (K := Float) _).path.length = 0 from rfl, Nat.zero_add] at length
  refine ⟨length, fun j e found => ?_⟩
  have bound : j < (s.actionsOf w).count .draw := by
    rw [← length]
    exact (List.getElem?_eq_some_iff.mp found).1
  obtain ⟨turtle, before, edge⟩ := Walk.getElem?_path_of_run ran bound
  rw [edge, Option.some.injEq] at found
  refine ⟨turtle, (reaches_iff aligned).mpr ?_, found.symm⟩
  rwa [actionsOf_take]

/-- The outcome of a walk over a word.  It fails exactly if some prefix of the word closes more
branches than it opens, and then for the symbol at the least place up to which that is so.  If
it does not fail, it draws as many edges as there are symbols that draw, each of them ahead of
the turtle as it is when it comes to that symbol. -/
theorem walk_outcome [Ruler] (s : TurtleSettings) (w : Word) (start : Option (Pose Float))
    (usable : (start.getD s.startPose).IsUsable) :
    ((∃ e, s.walk w start = .error e) ↔
        ∃ v, v <+: w ∧ (s.actionsOf v).count .push < (s.actionsOf v).count .pop) ∧
      (∀ e, s.walk w start = .error e → ∃ i symbol, w[i]? = some symbol ∧
        e = .underflow symbol.name i ∧
        IsLeast {i | (s.actionsOf (w.take (i + 1))).count .push <
          (s.actionsOf (w.take (i + 1))).count .pop} i) ∧
      ∀ path, s.walk w start = .ok path → path.length = (s.actionsOf w).count .draw ∧
        ∀ j e, path[j]? = some e → ∃ turtle, s.Reaches (w.take (s.drawPlace w j)) start turtle ∧
          e = ⟨turtle.pose.position, turtle.ahead s.gait⟩ :=
  ⟨walk_fails_iff usable, fun _ => underflow_of_walk usable, fun _ => edges_of_walk⟩

/-- A branch that is never closed and a symbol without an action do no harm; the first branch that
was never opened does, and not what follows it. -/
theorem walk_outcome_stem :
    standard.startPose.IsUsable ∧
      (∃ path, standard.walk [⟨0, "F"⟩, ⟨1, "["⟩, ⟨2, "X"⟩, ⟨0, "F"⟩] none = .ok path ∧
        path.length = 2) ∧
      standard.walk [⟨0, "F"⟩, ⟨1, "["⟩, ⟨3, "]"⟩, ⟨3, "]"⟩, ⟨0, "F"⟩, ⟨3, "]"⟩] none =
        .error (.underflow "]" 3) := by
  have usable : standard.startPose.IsUsable := by decide +kernel
  refine ⟨usable, ?_, ?_⟩
  · obtain ⟨fails, -, draws⟩ :=
      walk_outcome standard [⟨0, "F"⟩, ⟨1, "["⟩, ⟨2, "X"⟩, ⟨0, "F"⟩] none usable
    have opened : ClosesOnlyOpened
        (standard.actionsOf [⟨0, "F"⟩, ⟨1, "["⟩, ⟨2, "X"⟩, ⟨0, "F"⟩]) := by decide
    cases walked : standard.walk [⟨0, "F"⟩, ⟨1, "["⟩, ⟨2, "X"⟩, ⟨0, "F"⟩] none with
    | error e => exact absurd opened (not_closesOnlyOpened_iff.mpr (fails.mp ⟨e, walked⟩))
    | ok path => exact ⟨path, rfl, (draws path walked).1⟩
  · obtain ⟨fails, stops, -⟩ := walk_outcome standard
      [⟨0, "F"⟩, ⟨1, "["⟩, ⟨3, "]"⟩, ⟨3, "]"⟩, ⟨0, "F"⟩, ⟨3, "]"⟩] none usable
    obtain ⟨e, failed⟩ := fails.mpr
      ⟨[⟨0, "F"⟩, ⟨1, "["⟩, ⟨3, "]"⟩, ⟨3, "]"⟩], by decide, by decide⟩
    obtain ⟨i, symbol, found, rfl, least⟩ := stops e failed
    obtain rfl : i = 3 := by
      refine least.unique ⟨by decide, fun k member => ?_⟩
      by_contra below
      have early : k < 3 := by omega
      interval_cases k <;> exact absurd member (by decide)
    cases found
    exact failed

end TurtleSettings

end GrowthGrammar
