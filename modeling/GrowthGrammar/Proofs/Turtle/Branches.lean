import Mathlib.Data.List.Infix
import GrowthGrammar.Turtle.Settings

/-!
# Branches of a walk

A walk needs only one thing of its actions: that no branch is closed which was not opened.
That is a property of the prefixes of the actions (`ClosesOnlyOpened`), and of the number
of open branches, which `depthAfter` counts without a turtle.  The two are the same
(`closesOnlyOpened_iff`), and a walk goes through exactly if the count does
(`Walk.follow_depth`), whatever its gait and its pose are.

A count that goes through from some depth goes through from every larger one and ends
larger by as much (`depthAfter_add`).
-/

namespace GrowthGrammar

/-- No prefix of the actions closes more branches than it opens. -/
def ClosesOnlyOpened (actions : List Action) : Prop :=
  ∀ begun, begun <+: actions → begun.count .pop ≤ begun.count .push

/-! ## Counting open branches -/

namespace Action

/-- The number of open branches after an action, nothing if no branch is open that could be
closed. -/
def depth (opened : Nat) : Action → Option Nat
  | .push => some (opened + 1)
  | .pop => match opened with
    | 0 => none
    | opened + 1 => some opened
  | _ => some opened

/-- The action neither opens nor closes a branch. -/
def IsNeutral (a : Action) : Prop := a ≠ .push ∧ a ≠ .pop

instance (a : Action) : Decidable a.IsNeutral := inferInstanceAs (Decidable (_ ∧ _))

theorem eq_push_or_eq_pop_or_isNeutral (a : Action) : a = .push ∨ a = .pop ∨ a.IsNeutral := by
  cases a <;> decide

theorem depth_of_isNeutral {a : Action} (neutral : a.IsNeutral) (opened : Nat) :
    a.depth opened = some opened := by
  cases a with
  | push => exact absurd rfl neutral.1
  | pop => exact absurd rfl neutral.2
  | _ => rfl

theorem depth_add {a : Action} {opened after : Nat} (counted : a.depth opened = some after)
    (more : Nat) : a.depth (opened + more) = some (after + more) := by
  rcases a.eq_push_or_eq_pop_or_isNeutral with rfl | rfl | neutral
  · cases counted
    exact congrArg some (Nat.add_right_comm _ _ _)
  · cases opened with
    | zero => cases counted
    | succ opened =>
      cases counted
      rw [Nat.add_right_comm]
      rfl
  · rw [depth_of_isNeutral neutral] at counted ⊢
    cases counted
    rfl

end Action

/-- The number of open branches after some actions, nothing if they close a branch that was
not opened. -/
def depthAfter (opened : Nat) : List Action → Option Nat
  | [] => some opened
  | a :: rest => (a.depth opened).bind fun opened => depthAfter opened rest

theorem depthAfter_append (opened : Nat) (first second : List Action) :
    depthAfter opened (first ++ second) =
      (depthAfter opened first).bind fun opened => depthAfter opened second := by
  induction first generalizing opened with
  | nil => rfl
  | cons a rest ih =>
    rw [List.cons_append, depthAfter, depthAfter, Option.bind_assoc]
    exact Option.bind_congr fun between _ => ih between

/-- From a larger depth the same actions end at a depth that is larger by as much. -/
theorem depthAfter_add {opened after : Nat} {actions : List Action}
    (counted : depthAfter opened actions = some after) (more : Nat) :
    depthAfter (opened + more) actions = some (after + more) := by
  induction actions generalizing opened with
  | nil =>
    cases counted
    rfl
  | cons a rest ih =>
    obtain ⟨between, first, last⟩ := Option.bind_eq_some_iff.mp counted
    rw [depthAfter, Action.depth_add first more]
    exact ih last

/-- What holds of all prefixes of some actions holds of none of them and of the first one
with a prefix of the others. -/
theorem forall_prefix_cons_iff {P : List Action → Prop} (a : Action) (rest : List Action) :
    (∀ begun, begun <+: a :: rest → P begun) ↔
      P [] ∧ ∀ begun, begun <+: rest → P (a :: begun) := by
  simp only [List.prefix_cons_iff]
  constructor
  · intro all
    exact ⟨all [] (.inl rfl), fun begun starts => all _ (.inr ⟨begun, rfl, starts⟩)⟩
  · rintro ⟨none, some⟩ begun (rfl | ⟨begun, rfl, starts⟩)
    · exact none
    · exact some begun starts

/-- The count goes through exactly if no prefix closes more branches than were open at the
start and than it opens. -/
theorem isSome_depthAfter_iff_count (opened : Nat) (actions : List Action) :
    (depthAfter opened actions).isSome ↔
      ∀ begun, begun <+: actions → begun.count .pop ≤ opened + begun.count .push := by
  induction actions generalizing opened with
  | nil => simp [depthAfter]
  | cons a rest ih =>
    rw [forall_prefix_cons_iff, depthAfter]
    rcases a.eq_push_or_eq_pop_or_isNeutral with rfl | rfl | neutral
    · simp [Action.depth, ih, Nat.add_assoc, Nat.add_comm 1]
    · cases opened with
      | zero =>
        -- this action alone is a prefix that closes too much
        refine iff_of_false (by simp [Action.depth]) fun ⟨_, later⟩ => ?_
        have closed := later [] List.nil_prefix
        simp at closed
      | succ opened => simp [Action.depth, ih, Nat.add_right_comm]
    · obtain ⟨notPush, notPop⟩ := neutral
      rw [Action.depth_of_isNeutral ⟨notPush, notPop⟩, Option.bind_some, ih]
      simp [notPush, notPop]

theorem closesOnlyOpened_iff (actions : List Action) :
    ClosesOnlyOpened actions ↔ (depthAfter 0 actions).isSome := by
  simp only [isSome_depthAfter_iff_count, Nat.zero_add, ClosesOnlyOpened]

instance (actions : List Action) : Decidable (ClosesOnlyOpened actions) :=
  decidable_of_iff _ (closesOnlyOpened_iff actions).symm

/-! ## Counting along a walk -/

namespace Walk

variable {K : Type} [Add K] [Sub K] [Mul K] (g : Gait K)

theorem act_depth (w : Walk K) (a : Action) :
    (w.act g a).map (·.saved.length) = a.depth w.saved.length := by
  cases a with
  | pop =>
    rw [act]
    cases w.saved <;> rfl
  | _ => rfl

/-- A walk has as many open branches as are counted, and stops where the count does. -/
theorem follow_depth (place : Nat) (w : Walk K) (actions : List Action) :
    ((w.follow g place actions).toOption).map (·.saved.length) =
      depthAfter w.saved.length actions := by
  induction actions generalizing place w with
  | nil => rfl
  | cons a rest ih =>
    rw [follow, depthAfter, ← act_depth g w a]
    cases w.act g a with
    | none => rfl
    | some next => exact ih (place + 1) next

end Walk

/-- A pose and a gait do not matter: a path is drawn if every branch that is closed was
opened. -/
theorem ClosesOnlyOpened.drawActions {K : Type} [Add K] [Sub K] [Mul K] {actions : List Action}
    (opened : ClosesOnlyOpened actions) (g : Gait K) (pose : Pose K) :
    ∃ path, drawActions g pose actions = .ok path := by
  have counted := Walk.follow_depth g 0 (Walk.start pose) actions
  have through : (depthAfter 0 actions).isSome := (closesOnlyOpened_iff actions).mp opened
  rw [GrowthGrammar.drawActions]
  cases run : (Walk.start pose).follow g 0 actions with
  | ok w => exact ⟨w.path, rfl⟩
  | error place =>
    rw [run] at counted
    have stopped : depthAfter 0 actions = none := counted.symm
    rw [stopped] at through
    cases through

namespace TurtleSettings

/-- With a usable heading a word draws a path if every branch that it closes was opened. -/
theorem walk_of_closesOnlyOpened [Ruler] {s : TurtleSettings} {w : Word}
    (opened : ClosesOnlyOpened (s.actionsOf w)) {start : Option (Pose Float)} {pose : Pose Float}
    (usable : alignPose (start.getD s.startPose) = .ok pose) :
    ∃ path, s.walk w start = .ok path := by
  obtain ⟨path, drawn⟩ := opened.drawActions s.gait pose
  refine ⟨path, ?_⟩
  rw [walk, usable]
  simp only [bind, Except.bind, drawn]
  rfl

/-- Without a usable heading a walk does not come to closing a branch. -/
theorem kind_of_alignPose [Ruler] {pose : Pose Float} {e : Error}
    (unusable : alignPose pose = .error e) :
    e.kind = .invalidSettings := by
  rw [alignPose] at unusable
  split at unusable
  · cases unusable
    rfl
  · split at unusable
    · cases unusable
    · cases unusable
      rfl

end TurtleSettings

end GrowthGrammar
