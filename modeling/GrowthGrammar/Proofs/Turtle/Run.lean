import Mathlib.Data.List.Basic
import GrowthGrammar.Proofs.Turtle.Branches

/-!
# Runs of a walk

`Walk.follow` counts places, to tell where it stopped.  `Walk.run` is the walk without them,
and a run over two lists of actions is a run over the first and then one over the second.

What has been drawn before does not matter to a run (`Walk.run_behind`), and what has been saved
before matters only to a run that closes more branches than it opens (`Walk.run_above`).  So a
run from any walk is the run from its pose alone, put on top of what was there.

`TurtleSettings.Reaches` is the state of the turtle behind a word, and a word draws the path of
that state (`TurtleSettings.walk_eq_ok_iff`).
-/

namespace GrowthGrammar

variable {K : Type}

namespace Walk

/-- The walk with more branches open around it. -/
def above (w : Walk K) (below : List (Pose K)) : Walk K := { w with saved := w.saved ++ below }

/-- The walk with more edges drawn before it. -/
def behind (w : Walk K) (before : List (Edge K)) : Walk K := { w with drawn := w.drawn ++ before }

theorem path_draw (w : Walk K) (pose : Pose K) (e : Edge K) :
    Walk.path { w with pose := pose, drawn := e :: w.drawn } = w.path ++ [e] :=
  List.reverse_cons

theorem path_behind (w : Walk K) (before : List (Edge K)) :
    (w.behind before).path = before.reverse ++ w.path :=
  List.reverse_append

variable [Add K] [Sub K] [Mul K] (g : Gait K)

/-! ## Walks without places -/

/-- The walk after some actions, nothing if one of them cannot be done. -/
def run (w : Walk K) (actions : List Action) : Option (Walk K) := actions.foldlM (act g) w

theorem run_cons (w : Walk K) (a : Action) (rest : List Action) :
    w.run g (a :: rest) = (w.act g a).bind fun next => next.run g rest := rfl

theorem run_append (w : Walk K) (first second : List Action) :
    w.run g (first ++ second) = (w.run g first).bind fun between => between.run g second :=
  List.foldlM_append

theorem toOption_follow (place : Nat) (w : Walk K) (actions : List Action) :
    (w.follow g place actions).toOption = w.run g actions := by
  induction actions generalizing place w with
  | nil => rfl
  | cons a rest ih =>
    rw [follow, run_cons]
    cases w.act g a with
    | none => rfl
    | some next => exact ih (place + 1) next

variable {g} {w next : Walk K} {a : Action} {actions : List Action}

theorem follow_eq_ok_iff {place : Nat} :
    w.follow g place actions = .ok next ↔ w.run g actions = some next := by
  rw [← toOption_follow g place]
  cases w.follow g place actions with
  | ok last => simp [Except.toOption]
  | error i => simp [Except.toOption]

/-- A walk has as many open branches as are counted. -/
theorem run_depth : (w.run g actions).map (·.saved.length) = depthAfter w.saved.length actions := by
  rw [← toOption_follow g 0]
  exact follow_depth g 0 w actions

/-! ## What was there before -/

theorem act_above (below : List (Pose K)) (acted : w.act g a = some next) :
    (w.above below).act g a = some (next.above below) := by
  cases a with
  | pop =>
    obtain ⟨pose, saved, drawn⟩ := w
    cases saved with
    | nil => cases acted
    | cons top rest =>
      cases acted
      rfl
  | _ =>
    cases acted
    rfl

/-- A run never looks below the branches that it has opened itself. -/
theorem run_above (below : List (Pose K)) (ran : w.run g actions = some next) :
    (w.above below).run g actions = some (next.above below) := by
  induction actions generalizing w with
  | nil =>
    cases ran
    rfl
  | cons a rest ih =>
    obtain ⟨between, acted, later⟩ := Option.bind_eq_some_iff.mp ran
    rw [run_cons, act_above below acted]
    exact ih later

theorem act_behind (w : Walk K) (before : List (Edge K)) (a : Action) :
    (w.behind before).act g a = (w.act g a).map (·.behind before) := by
  cases a with
  | pop =>
    obtain ⟨pose, saved, drawn⟩ := w
    cases saved <;> rfl
  | _ => rfl

/-- A run never looks at what has been drawn. -/
theorem run_behind (w : Walk K) (before : List (Edge K)) (actions : List Action) :
    (w.behind before).run g actions = (w.run g actions).map (·.behind before) := by
  induction actions generalizing w with
  | nil => rfl
  | cons a rest ih =>
    rw [run_cons, run_cons, act_behind]
    cases w.act g a with
    | none => rfl
    | some next => exact ih next

/-- What a run draws is put behind what was drawn before. -/
theorem path_of_run (ran : w.run g actions = some next) :
    ∃ more : Walk K, ({ w with drawn := [] } : Walk K).run g actions = some more ∧
      next.path = w.path ++ more.path := by
  have split : w = ({ w with drawn := [] } : Walk K).behind w.drawn := rfl
  rw [split, run_behind, Option.map_eq_some_iff] at ran
  obtain ⟨more, bare, rfl⟩ := ran
  exact ⟨more, bare, path_behind more w.drawn⟩

theorem length_path_of_act (acted : w.act g a = some next) :
    next.path.length = w.path.length + [a].count .draw := by
  cases a with
  | draw =>
    cases acted
    rw [path_draw, List.length_append]
    rfl
  | pop =>
    rw [act] at acted
    split at acted
    · cases acted
    · cases acted
      rfl
  | _ =>
    cases acted
    rfl

/-- A run draws one edge with each action that draws. -/
theorem length_path_of_run (ran : w.run g actions = some next) :
    next.path.length = w.path.length + actions.count .draw := by
  induction actions generalizing w with
  | nil =>
    cases ran
    rfl
  | cons a rest ih =>
    obtain ⟨between, acted, later⟩ := Option.bind_eq_some_iff.mp ran
    rw [ih later, length_path_of_act acted, Nat.add_assoc, ← List.count_append]
    rfl

end Walk

theorem drawActions_eq_ok_iff [Add K] [Sub K] [Mul K] {g : Gait K} {pose : Pose K}
    {actions : List Action} {path : Path K} :
    drawActions g pose actions = .ok path ↔
      ∃ last, (Walk.start pose).run g actions = some last ∧ last.path = path := by
  rw [drawActions, ← Walk.toOption_follow g 0]
  cases (Walk.start pose).follow g 0 actions with
  | ok last => simp [Except.map, Except.toOption]
  | error i => simp [Except.map, Except.toOption]

/-! ## Walks over words -/

/-- The heading of a pose is finite and long enough to be a direction. -/
def Pose.IsUsable [Ruler] (pose : Pose Float) : Prop :=
  pose.heading.isFinite = true ∧ ¬ pose.heading.norm < tolerance

instance [Ruler] (pose : Pose Float) : Decidable pose.IsUsable :=
  inferInstanceAs (Decidable (_ ∧ _))

namespace TurtleSettings

variable {s : TurtleSettings} {w : Word} {start : Option (Pose Float)}

/-- A walk starts if the heading is usable, and it starts with a heading that is divided by its
length. -/
theorem alignPose_eq_ok_iff [Ruler] {pose aligned : Pose Float} : alignPose pose = .ok aligned ↔
    pose.IsUsable ∧ aligned = ⟨pose.position, pose.heading.divide pose.heading.norm⟩ := by
  rw [alignPose, Pose.IsUsable, Vec.unit]
  by_cases finite : pose.heading.isFinite = true
  · by_cases short : pose.heading.norm < tolerance
    · simp [finite, short]
    · simp [finite, short, eq_comm]
  · simp [finite]

theorem exists_aligned [Ruler] {pose : Pose Float} (usable : pose.IsUsable) :
    ∃ aligned, alignPose pose = .ok aligned :=
  ⟨_, alignPose_eq_ok_iff.mpr ⟨usable, rfl⟩⟩

/-- The turtle is in the given state behind a word. -/
def Reaches [Ruler] (s : TurtleSettings) (w : Word) (start : Option (Pose Float))
    (turtle : Walk Float) :
    Prop :=
  ∃ pose, alignPose (start.getD s.startPose) = .ok pose ∧
    (Walk.start pose).follow s.gait 0 (s.actionsOf w) = .ok turtle

theorem reaches_iff [Ruler] {pose : Pose Float}
    (aligned : alignPose (start.getD s.startPose) = .ok pose)
    {turtle : Walk Float} : s.Reaches w start turtle ↔
      (Walk.start pose).run s.gait (s.actionsOf w) = some turtle := by
  simp only [Reaches, aligned, Except.ok.injEq, exists_eq_left', Walk.follow_eq_ok_iff]

theorem walk_eq_error_iff [Ruler] {pose : Pose Float}
    (aligned : alignPose (start.getD s.startPose) = .ok pose) {e : Error} :
    s.walk w start = .error e ↔ ∃ i, (Walk.start pose).follow s.gait 0 (s.actionsOf w) = .error i ∧
      underflowAt w i = e := by
  simp only [walk, aligned, bind, Except.bind, drawActions]
  cases (Walk.start pose).follow s.gait 0 (s.actionsOf w) with
  | ok last => simp [Except.map, Except.mapError]
  | error i => simp [Except.map, Except.mapError]

/-- A word draws the path of the state that the turtle reaches. -/
theorem walk_eq_ok_iff [Ruler] {path : Path Float} :
    s.walk w start = .ok path ↔ ∃ turtle, s.Reaches w start turtle ∧ turtle.path = path := by
  rw [walk]
  cases aligned : alignPose (start.getD s.startPose) with
  | error e => simp [Reaches, aligned, bind, Except.bind]
  | ok pose =>
    simp only [reaches_iff aligned, ← drawActions_eq_ok_iff, bind, Except.bind]
    cases drawActions s.gait pose (s.actionsOf w) with
    | ok path => simp [Except.mapError]
    | error i => simp [Except.mapError]

theorem walk_of_toOption [Ruler] {path : Path Float}
    (drawn : (s.walk w start).toOption = some path) :
    s.walk w start = .ok path := by
  cases walked : s.walk w start with
  | ok found =>
    rw [walked] at drawn
    cases drawn
    rfl
  | error e =>
    rw [walked] at drawn
    cases drawn

end TurtleSettings

end GrowthGrammar
