import Mathlib.Data.List.Basic
import GrowthGrammar.Proofs.Turtle.Run

/-!
# Branches are transparent

A balanced word never closes a branch that was open before it, so a walk over it is the walk
from the pose alone, put on top of what was there, and it ends with the same branches open
(`Walk.exists_run_of_isBalanced`).  The action that closes the branch around it then brings back
the pose, and behind the branch nothing is left of it but its edges (`Walk.run_branch`).

Main statement: a word with a complete branch draws what it draws without the branch, with the
edges of the branch in between, and ignored symbols do not matter
(`TurtleSettings.walk_without_branch`).
-/

namespace GrowthGrammar

variable {K : Type}

/-- The actions close the branches that they open, and no others. -/
structure IsBalanced (actions : List Action) : Prop where
  /-- No prefix closes more than it opens. -/
  opened : ClosesOnlyOpened actions
  /-- All that is opened is closed. -/
  even : actions.count .push = actions.count .pop

instance (actions : List Action) : Decidable (IsBalanced actions) :=
  decidable_of_iff (ClosesOnlyOpened actions ∧ actions.count .push = actions.count .pop)
    ⟨fun ⟨opened, even⟩ => ⟨opened, even⟩, fun ⟨opened, even⟩ => ⟨opened, even⟩⟩

theorem add_count_of_depthAfter {opened after : Nat} {actions : List Action}
    (counted : depthAfter opened actions = some after) :
    after + actions.count .pop = opened + actions.count .push := by
  induction actions generalizing opened with
  | nil =>
    cases counted
    rfl
  | cons a rest ih =>
    obtain ⟨between, first, later⟩ := Option.bind_eq_some_iff.mp counted
    have tail := ih later
    rcases a.eq_push_or_eq_pop_or_isNeutral with rfl | rfl | neutral
    · cases first
      simp only [List.count_cons_self, List.count_cons_of_ne (by decide : Action.push ≠ .pop)]
      omega
    · cases opened with
      | zero => cases first
      | succ opened =>
        cases first
        simp only [List.count_cons_self, List.count_cons_of_ne (by decide : Action.pop ≠ .push)]
        omega
    · rw [Action.depth_of_isNeutral neutral] at first
      cases first
      rwa [List.count_cons_of_ne neutral.1, List.count_cons_of_ne neutral.2]

/-- A balanced word comes back to the depth where it began. -/
theorem IsBalanced.depthAfter {actions : List Action} (balanced : IsBalanced actions) :
    depthAfter 0 actions = some 0 := by
  obtain ⟨after, counted⟩ := Option.isSome_iff_exists.mp
    ((closesOnlyOpened_iff actions).mp balanced.opened)
  have even := balanced.even
  have total := add_count_of_depthAfter counted
  obtain rfl : after = 0 := by omega
  exact counted

namespace Walk

variable [Add K] [Sub K] [Mul K] {g : Gait K} {branch : List Action}

/-- A walk over a balanced word goes through and leaves no branch open. -/
theorem exists_run_of_isBalanced (balanced : IsBalanced branch) (pose : Pose K) :
    ∃ inner, (Walk.start pose).run g branch = some inner ∧ inner.saved = [] := by
  have counted : ((Walk.start pose).run g branch).map (·.saved.length) = some 0 :=
    run_depth.trans balanced.depthAfter
  obtain ⟨inner, ran, none⟩ := Option.map_eq_some_iff.mp counted
  exact ⟨inner, ran, List.length_eq_zero_iff.mp none⟩

/-- Behind a complete branch the turtle is as it was before, and has drawn what it draws from
its pose alone. -/
theorem run_branch (w : Walk K) {inner : Walk K}
    (ran : (Walk.start w.pose).run g branch = some inner) (closed : inner.saved = [])
    (rest : List Action) :
    w.run g (.push :: branch ++ .pop :: rest) =
      ({ w with drawn := inner.drawn ++ w.drawn } : Walk K).run g rest := by
  have opened : w.run g (.push :: branch) =
      some ((inner.above (w.pose :: w.saved)).behind w.drawn) := by
    show ((Walk.start w.pose).above (w.pose :: w.saved) |>.behind w.drawn).run g branch = _
    rw [run_behind, run_above _ ran]
    rfl
  rw [run_append, opened, Option.bind_some, run_cons, act, behind, above, closed]
  rfl

/-- If the actions can be done with a complete branch among them or without it, then both can be
done, and they end alike but for the edges of the branch. -/
theorem run_without_branch (balanced : IsBalanced branch) {w : Walk K}
    {before after : List Action} (done : w.run g (before ++ after) ≠ none ∨
      w.run g (before ++ .push :: branch ++ .pop :: after) ≠ none) :
    ∃ turtle inner tail : Walk K, w.run g before = some turtle ∧
      (Walk.start turtle.pose).run g branch = some inner ∧
      w.run g (before ++ after) = some (tail.behind turtle.drawn) ∧
      w.run g (before ++ .push :: branch ++ .pop :: after) =
        some (tail.behind (inner.drawn ++ turtle.drawn)) := by
  rw [List.append_assoc, run_append, run_append] at done ⊢
  cases reached : w.run g before with
  | none =>
    rw [reached] at done
    exact absurd done (by simp)
  | some turtle =>
    obtain ⟨inner, ran, closed⟩ := exists_run_of_isBalanced (g := g) balanced turtle.pose
    -- both go on from what the turtle is but for what it has drawn
    have short : turtle.run g after =
        (({ turtle with drawn := [] } : Walk K).run g after).map (·.behind turtle.drawn) :=
      run_behind { turtle with drawn := [] } turtle.drawn after
    have long : turtle.run g (.push :: branch ++ .pop :: after) =
        (({ turtle with drawn := [] } : Walk K).run g after).map
          (·.behind (inner.drawn ++ turtle.drawn)) := by
      rw [run_branch turtle ran closed after]
      exact run_behind { turtle with drawn := [] } (inner.drawn ++ turtle.drawn) after
    rw [reached, Option.bind_some, Option.bind_some, short, long] at done
    simp only [Option.bind_some, short, long]
    cases rest : ({ turtle with drawn := [] } : Walk K).run g after with
    | none =>
      rw [rest] at done
      exact absurd done (by simp)
    | some tail => exact ⟨turtle, inner, tail, rfl, ran, rfl, rfl⟩

/-- Actions that do nothing can be left out. -/
theorem run_filter_ignore (w : Walk K) (actions : List Action) :
    w.run g (actions.filter (· ≠ .ignore)) = w.run g actions := by
  induction actions generalizing w with
  | nil => rfl
  | cons a rest ih =>
    by_cases still : a = .ignore
    · rw [still, List.filter_cons_of_neg (by simp), run_cons]
      exact ih w
    · rw [List.filter_cons_of_pos (by simpa using still), run_cons, run_cons]
      exact Option.bind_congr fun next _ => ih next

end Walk

namespace TurtleSettings

variable {s : TurtleSettings} {start : Option (Pose Float)}

/-- Words that differ in ignored symbols draw the same path. -/
theorem walk_congr_of_ignored [Ruler] {v w : Word} {path : Path Float}
    (same : v.filter (fun x => s.actionOf x.name ≠ .ignore) =
      w.filter (fun x => s.actionOf x.name ≠ .ignore)) :
    s.walk v start = .ok path ↔ s.walk w start = .ok path := by
  have same' : (s.actionsOf v).filter (· ≠ .ignore) = (s.actionsOf w).filter (· ≠ .ignore) := by
    rw [actionsOf, actionsOf, List.filter_map, List.filter_map]
    exact congrArg (List.map _) same
  simp only [walk_eq_ok_iff, Reaches, Walk.follow_eq_ok_iff]
  simp only [← Walk.run_filter_ignore _ (s.actionsOf v),
    ← Walk.run_filter_ignore _ (s.actionsOf w), same']

/-- A complete branch can be taken out of a word or put into it anywhere.  Both words draw or
neither does, and they draw the edges of what is before, then with the branch its edges as they
are drawn from the state of the turtle there, and then the same edges.  Ignored symbols can be
taken out or put in as well, and do not change an edge. -/
theorem walk_without_branch [Ruler] {opening closing : Symbol} {branch : Word}
    (opens : s.actionOf opening.name = .push) (closes : s.actionOf closing.name = .pop)
    (balanced : IsBalanced (s.actionsOf branch)) (before after : Word) :
    ((∃ path, s.walk (before ++ after) start = .ok path) ∨
        (∃ path, s.walk (before ++ opening :: branch ++ closing :: after) start = .ok path) →
      ∃ turtle inner rest, s.Reaches before start turtle ∧
        s.walk before start = .ok turtle.path ∧
        drawActions s.gait turtle.pose (s.actionsOf branch) = .ok inner ∧
        s.walk (before ++ after) start = .ok (turtle.path ++ rest) ∧
        s.walk (before ++ opening :: branch ++ closing :: after) start =
          .ok (turtle.path ++ inner ++ rest)) ∧
    ∀ v w : Word, v.filter (fun x => s.actionOf x.name ≠ .ignore) =
        w.filter (fun x => s.actionOf x.name ≠ .ignore) →
      ∀ path, s.walk v start = .ok path ↔ s.walk w start = .ok path := by
  refine ⟨fun drawn => ?_, fun v w same path => walk_congr_of_ignored same⟩
  obtain ⟨pose, aligned⟩ : ∃ pose, alignPose (start.getD s.startPose) = .ok pose := by
    rcases drawn with ⟨path, walked⟩ | ⟨path, walked⟩ <;>
    · obtain ⟨turtle, ⟨pose, aligned, -⟩, -⟩ := walk_eq_ok_iff.mp walked
      exact ⟨pose, aligned⟩
  have short : s.actionsOf (before ++ after) = s.actionsOf before ++ s.actionsOf after :=
    List.map_append
  have long : s.actionsOf (before ++ opening :: branch ++ closing :: after) =
      s.actionsOf before ++ .push :: s.actionsOf branch ++ .pop :: s.actionsOf after := by
    simp only [actionsOf, List.map_append, List.map_cons, opens, closes]
  simp only [walk_eq_ok_iff, reaches_iff aligned, short, long] at drawn ⊢
  have done : (Walk.start pose).run s.gait (s.actionsOf before ++ s.actionsOf after) ≠ none ∨
      (Walk.start pose).run s.gait (s.actionsOf before ++
        .push :: s.actionsOf branch ++ .pop :: s.actionsOf after) ≠ none := by
    rcases drawn with ⟨path, last, ran, -⟩ | ⟨path, last, ran, -⟩
    · exact .inl (ran ▸ Option.some_ne_none last)
    · exact .inr (ran ▸ Option.some_ne_none last)
  obtain ⟨turtle, inner, tail, reached, ran, withoutBranch, withBranch⟩ :=
    Walk.run_without_branch balanced done
  refine ⟨turtle, inner.path, tail.path, reached, ⟨turtle, reached, rfl⟩,
    drawActions_eq_ok_iff.mpr ⟨inner, ran, rfl⟩, ⟨_, withoutBranch, tail.path_behind _⟩,
    ⟨_, withBranch, ?_⟩⟩
  rw [Walk.path_behind, List.reverse_append]
  rfl

/-- A branch with a turn and a branch of its own, and a symbol that is ignored. -/
theorem walk_without_branch_of_two :
    standard.actionOf "[" = .push ∧ standard.actionOf "]" = .pop ∧
      IsBalanced (standard.actionsOf
        [⟨3, "+"⟩, ⟨0, "F"⟩, ⟨1, "["⟩, ⟨0, "F"⟩, ⟨2, "]"⟩]) ∧
      (∃ turtle inner rest, standard.Reaches [⟨0, "F"⟩] none turtle ∧
        drawActions standard.gait turtle.pose [.left, .draw, .push, .draw, .pop] = .ok inner ∧
        standard.walk [⟨0, "F"⟩, ⟨0, "F"⟩] none = .ok (turtle.path ++ rest) ∧
        standard.walk [⟨0, "F"⟩, ⟨1, "["⟩, ⟨3, "+"⟩, ⟨0, "F"⟩, ⟨1, "["⟩, ⟨0, "F"⟩, ⟨2, "]"⟩,
          ⟨2, "]"⟩, ⟨0, "F"⟩] none = .ok (turtle.path ++ inner ++ rest)) ∧
      ∃ path, standard.walk [⟨0, "F"⟩, ⟨4, "X"⟩, ⟨0, "F"⟩] none = .ok path := by
  have opens : standard.actionOf "[" = .push := by decide
  have closes : standard.actionOf "]" = .pop := by decide
  have balanced : IsBalanced (standard.actionsOf
      [⟨3, "+"⟩, ⟨0, "F"⟩, ⟨1, "["⟩, ⟨0, "F"⟩, ⟨2, "]"⟩]) := by decide
  have usable : standard.startPose.IsUsable := by decide +kernel
  obtain ⟨path, drawn⟩ : ∃ path, standard.walk [⟨0, "F"⟩, ⟨0, "F"⟩] none = .ok path :=
    walk_of_closesOnlyOpened (by decide) (exists_aligned usable).choose_spec
  obtain ⟨branches, ignored⟩ := @walk_without_branch standard none _ ⟨1, "["⟩ ⟨2, "]"⟩ _
    opens closes balanced [⟨0, "F"⟩] [⟨0, "F"⟩]
  obtain ⟨turtle, inner, rest, reached, -, ran, withoutBranch, withBranch⟩ :=
    branches (.inl ⟨path, drawn⟩)
  exact ⟨opens, closes, balanced, ⟨turtle, inner, rest, reached, ran, withoutBranch, withBranch⟩,
    path, (ignored [⟨0, "F"⟩, ⟨4, "X"⟩, ⟨0, "F"⟩] [⟨0, "F"⟩, ⟨0, "F"⟩] (by decide) path).mpr drawn⟩

end TurtleSettings

end GrowthGrammar
