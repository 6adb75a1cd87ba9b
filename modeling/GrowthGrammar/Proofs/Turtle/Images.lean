import GrowthGrammar.Proofs.Plane.Turns
import GrowthGrammar.Proofs.Turtle.Run

/-!
# Images of a drawing

A map of the plane that takes each step and each turn of one gait to those of another takes a walk
with the one to a walk with the other (`PlaneMap.Carries`).  Position, heading, saved poses and
edges are mapped at once, so the two walks stop at the same place or draw a path and its image
(`PlaneMap.Carries.drawActions`).

In exact arithmetic these maps are the turns with a change of size and a shift, which keep the
gait, the change of all headings, which changes the step, and the reflection, which takes every
turn to the turn back.  Exchanging the two turns of a gait is the same as exchanging the two
actions (`Walk.follow_mirrored`).

Main statement: `TurtleSettings.images_of_drawing`.
-/

namespace GrowthGrammar

variable {K : Type}

/-- Where the places and the directions of a plane go. -/
structure PlaneMap (K : Type) where
  /-- Where a place goes. -/
  point : Point K → Point K
  /-- Where a direction goes. -/
  vec : Vec K → Vec K

namespace PlaneMap

/-! ## Images -/

/-- The image of a pose. -/
def pose (m : PlaneMap K) (p : Pose K) : Pose K := ⟨m.point p.position, m.vec p.heading⟩

/-- The image of an edge. -/
def edge (m : PlaneMap K) (e : Edge K) : Edge K := ⟨m.point e.start, m.point e.stop⟩

/-- The image of a path. -/
def path (m : PlaneMap K) (path : Path K) : Path K := List.map m.edge path

/-- The image of a walk. -/
def walk (m : PlaneMap K) (w : Walk K) : Walk K :=
  ⟨m.pose w.pose, w.saved.map m.pose, w.drawn.map m.edge⟩

theorem path_walk (m : PlaneMap K) (w : Walk K) : (m.walk w).path = m.path w.path :=
  List.map_reverse.symm

section

variable [Add K] [Sub K] [Mul K] {m : PlaneMap K} {g g' : Gait K}

/-- The map takes the steps and turns of the first gait to those of the second. -/
structure Carries (m : PlaneMap K) (g g' : Gait K) : Prop where
  step : ∀ p v, m.point (p.move (v.scale g.step)) = (m.point p).move ((m.vec v).scale g'.step)
  left : ∀ v, m.vec (v.turned g.left) = (m.vec v).turned g'.left
  right : ∀ v, m.vec (v.turned g.right) = (m.vec v).turned g'.right

namespace Carries

variable (carries : m.Carries g g')

include carries

theorem ahead (w : Walk K) : (m.walk w).ahead g' = m.point (w.ahead g) :=
  (carries.step w.pose.position w.pose.heading).symm

/-- What an action does to the image is the image of what it does. -/
theorem act (w : Walk K) (a : Action) : (m.walk w).act g' a = (w.act g a).map m.walk := by
  cases a with
  | draw =>
    simp only [Walk.act, Option.map_some, carries.ahead]
    rfl
  | move =>
    simp only [Walk.act, Option.map_some, carries.ahead]
    rfl
  | left =>
    simp only [Walk.act, Option.map_some]
    rw [walk, walk, pose, pose, carries.left]
  | right =>
    simp only [Walk.act, Option.map_some]
    rw [walk, walk, pose, pose, carries.right]
  | push => rfl
  | pop =>
    obtain ⟨pose, saved, drawn⟩ := w
    cases saved <;> rfl
  | ignore => rfl

theorem follow (place : Nat) (w : Walk K) (actions : List Action) :
    (m.walk w).follow g' place actions = (w.follow g place actions).map m.walk := by
  induction actions generalizing place w with
  | nil => rfl
  | cons a rest ih =>
    rw [Walk.follow, Walk.follow, carries.act]
    cases w.act g a with
    | none => rfl
    | some next => exact ih (place + 1) next

/-- The walk from the image of a pose stops at the same place or draws the image of the path. -/
theorem drawActions (p : Pose K) (actions : List Action) :
    drawActions g' (m.pose p) actions = (drawActions g p actions).map m.path := by
  have followed := carries.follow 0 (Walk.start p) actions
  rw [GrowthGrammar.drawActions, GrowthGrammar.drawActions,
    show Walk.start (m.pose p) = m.walk (Walk.start p) from rfl, followed]
  cases (Walk.start p).follow g 0 actions with
  | ok last => exact congrArg Except.ok (m.path_walk last)
  | error i => rfl

end Carries

end

/-! ## Maps of an exact plane -/

variable [CommRing K]

/-- The turn with the matrix `[[a, -b], [b, a]]`, which may change sizes, and then a shift. -/
def similarity (a b : K) (shift : Vec K) : PlaneMap K where
  point p := ⟨a * p.x - b * p.y + shift.dx, b * p.x + a * p.y + shift.dy⟩
  vec v := ⟨a * v.dx - b * v.dy, b * v.dx + a * v.dy⟩

/-- Every direction is made longer and every place stays. -/
def stretch (k : K) : PlaneMap K where
  point p := p
  vec v := v.scale k

/-- The reflection from left to right. -/
def mirror : PlaneMap K where
  point p := ⟨-p.x, p.y⟩
  vec v := ⟨-v.dx, v.dy⟩

end PlaneMap

/-- The gait whose turns are a turn and the turn back. -/
def Gait.exact [CommRing K] (step : K) (t : Turn K) : Gait K := ⟨step, t, t.back⟩

namespace PlaneMap

variable [CommRing K] (step : K) (t : Turn K)

theorem similarity_carries (a b : K) (shift : Vec K) :
    (similarity a b shift).Carries (.exact step t) (.exact step t) where
  step p v := by
    simp only [similarity, Gait.exact, Point.move, Vec.scale, Point.mk.injEq]
    constructor <;> ring
  left v := v.turned_comm t ⟨a, b⟩
  right v := v.turned_comm t.back ⟨a, b⟩

theorem stretch_carries (k : K) :
    (stretch k).Carries (.exact (k * step) t) (.exact step t) where
  step p v := by
    simp only [stretch, Gait.exact, Vec.scale, mul_assoc]
  left v := (v.turned_scale t k).symm
  right v := (v.turned_scale t.back k).symm

theorem mirror_carries : mirror.Carries (.exact step t) (.exact step t.back) where
  step p v := by
    simp only [mirror, Gait.exact, Point.move, Vec.scale, Point.mk.injEq, and_true]
    ring
  left v := by
    simp only [mirror, Gait.exact, Vec.turned, Turn.back, Vec.mk.injEq]
    constructor <;> ring
  right v := by
    simp only [mirror, Gait.exact, Vec.turned, Turn.back, Vec.mk.injEq]
    constructor <;> ring

/-- A path has places only, and these stay. -/
theorem path_stretch (k : K) : (stretch k).path = id := funext fun path => List.map_id path

end PlaneMap

/-! ## Exchanged turns -/

/-- The action with the other turn. -/
def Action.mirrored : Action → Action
  | .left => .right
  | .right => .left
  | a => a

/-- The gait with its turns exchanged. -/
def Gait.mirrored (g : Gait K) : Gait K := ⟨g.step, g.right, g.left⟩

section

variable [Add K] [Sub K] [Mul K] (g : Gait K)

theorem Walk.act_mirrored (w : Walk K) (a : Action) :
    w.act g a.mirrored = w.act g.mirrored a := by
  cases a <;> rfl

theorem Walk.follow_mirrored (place : Nat) (w : Walk K) (actions : List Action) :
    w.follow g place (actions.map Action.mirrored) = w.follow g.mirrored place actions := by
  induction actions generalizing place w with
  | nil => rfl
  | cons a rest ih =>
    rw [List.map_cons, follow, follow, act_mirrored]
    cases w.act g.mirrored a with
    | none => rfl
    | some next => exact ih (place + 1) next

theorem drawActions_mirrored (p : Pose K) (actions : List Action) :
    drawActions g p (actions.map Action.mirrored) = drawActions g.mirrored p actions := by
  rw [drawActions, drawActions, Walk.follow_mirrored]

end

theorem Gait.mirrored_exact [CommRing K] (step : K) (t : Turn K) :
    (Gait.exact step t).mirrored = .exact step t.back := by
  rw [mirrored, exact, exact, Turn.back_back]

namespace TurtleSettings

/-- The settings with the two turns exchanged. -/
def mirrored (s : TurtleSettings) : TurtleSettings :=
  { s with actions := s.actions.map fun (name, a) => (name, a.mirrored) }

theorem actionOf_mirrored (s : TurtleSettings) (name : String) :
    s.mirrored.actionOf name = (s.actionOf name).mirrored := by
  have found : (s.mirrored.actions.find? fun f => f.1 == name) =
      (s.actions.find? fun f => f.1 == name).map fun (name, a) => (name, a.mirrored) :=
    List.find?_map
  rw [actionOf, actionOf, Datum.getField?, Datum.getField?, found]
  cases s.actions.find? fun f => f.1 == name <;> rfl

theorem actionsOf_mirrored (s : TurtleSettings) (w : Word) :
    s.mirrored.actionsOf w = (s.actionsOf w).map Action.mirrored := by
  rw [actionsOf, actionsOf, List.map_map]
  exact List.map_congr_left fun symbol _ => s.actionOf_mirrored symbol.name

/-- Images of a drawing in exact arithmetic.  From the image of a pose under a turn with a change
of size and a shift, a word draws the image of what it draws from the pose.  A longer step is the
same as a longer heading.  With the opposite angle, or with the two turns exchanged, it draws from
the mirrored pose the mirror image.  In each case the walks that fail are the same and fail at the
same place. -/
theorem images_of_drawing {K : Type} [CommRing K] (s : TurtleSettings) (w : Word) (step : K)
    (t : Turn K) (p : Pose K) :
    (∀ (a b : K) (shift : Vec K),
      drawActions (.exact step t) ((PlaneMap.similarity a b shift).pose p) (s.actionsOf w) =
        (drawActions (.exact step t) p (s.actionsOf w)).map
          (PlaneMap.similarity a b shift).path) ∧
    (∀ k : K, drawActions (.exact (k * step) t) p (s.actionsOf w) =
      drawActions (.exact step t) ⟨p.position, p.heading.scale k⟩ (s.actionsOf w)) ∧
    drawActions (.exact step t.back) (PlaneMap.mirror.pose p) (s.actionsOf w) =
      (drawActions (.exact step t) p (s.actionsOf w)).map PlaneMap.mirror.path ∧
    drawActions (.exact step t) (PlaneMap.mirror.pose p) (s.mirrored.actionsOf w) =
      (drawActions (.exact step t) p (s.actionsOf w)).map PlaneMap.mirror.path := by
  have reflected := (PlaneMap.mirror_carries step t).drawActions p (s.actionsOf w)
  refine ⟨fun a b shift => (PlaneMap.similarity_carries step t a b shift).drawActions p _,
    fun k => ?_, reflected, ?_⟩
  · have stretched := (PlaneMap.stretch_carries step t k).drawActions p (s.actionsOf w)
    rw [PlaneMap.path_stretch, Except.map_id] at stretched
    exact stretched.symm
  · rw [actionsOf_mirrored, drawActions_mirrored, Gait.mirrored_exact]
    exact reflected

end TurtleSettings

end GrowthGrammar
