import GrowthGrammar.Plane.Path

/-!
# The turtle

A turtle walks over a list of actions.  It has a pose, and it keeps the poses of
the branches that are open, the innermost first.  Closing a branch takes it back
to the pose it had when the branch was opened; closing a branch that was not
opened stops the walk at that place.

The numbers can be of any kind, and the two turns are given as such, so the same
walk can be taken in exact arithmetic.
-/

namespace GrowthGrammar

/-- What a symbol makes the turtle do. -/
inductive Action
  /-- One step forward, drawing an edge. -/
  | draw
  /-- One step forward. -/
  | move
  /-- One turn to the left. -/
  | left
  /-- One turn to the right. -/
  | right
  /-- Open a branch. -/
  | push
  /-- Close a branch. -/
  | pop
  /-- Nothing. -/
  | ignore
  deriving DecidableEq, Repr

namespace Action

/-- The word for an action. -/
def word : Action → String
  | .draw => "move_draw"
  | .move => "move_no_draw"
  | .left => "turn_left"
  | .right => "turn_right"
  | .push => "push"
  | .pop => "pop"
  | .ignore => "ignore"

/-- All actions. -/
def all : List Action := [.draw, .move, .left, .right, .push, .pop, .ignore]

/-- The action of a word. -/
def ofWord? (w : String) : Option Action := all.find? fun a => a.word == w

/-- The action of a datum. -/
def ofDatum (d : Datum) : Except Error Action :=
  match d with
  | .text w =>
    match ofWord? w with
    | some a => .ok a
    | none => .error (.value (.noAction d.shown))
  | _ => .error (d.refused fun shown => .value (.noAction shown))

end Action

variable {K : Type}

/-- Where the turtle is and where it looks. -/
structure Pose (K : Type) where
  /-- Where it is. -/
  position : Point K
  /-- Where it looks. -/
  heading : Vec K
  deriving DecidableEq, Repr

/-- How far a step goes and how far the turns go. -/
structure Gait (K : Type) where
  /-- The length of a step, in headings. -/
  step : K
  /-- The turn to the left. -/
  left : Turn K
  /-- The turn to the right. -/
  right : Turn K
  deriving DecidableEq, Repr

/-- The turtle in the middle of a walk. -/
structure Walk (K : Type) where
  /-- Its pose. -/
  pose : Pose K
  /-- The poses at the open branches, the innermost first. -/
  saved : List (Pose K)
  /-- The edges drawn so far, the newest first. -/
  drawn : List (Edge K)
  deriving DecidableEq, Repr

namespace Walk

/-- The start of a walk. -/
def start (pose : Pose K) : Walk K := ⟨pose, [], []⟩

/-- The place one step ahead. -/
def ahead [Add K] [Mul K] (g : Gait K) (w : Walk K) : Point K :=
  w.pose.position.move (w.pose.heading.scale g.step)

/-- The walk after one action, nothing if that closes a branch that was not
opened. -/
def act [Add K] [Sub K] [Mul K] (g : Gait K) (w : Walk K) : Action → Option (Walk K)
  | .draw =>
    let target := w.ahead g
    some { w with
      pose := ⟨target, w.pose.heading⟩
      drawn := ⟨w.pose.position, target⟩ :: w.drawn }
  | .move => some { w with pose := ⟨w.ahead g, w.pose.heading⟩ }
  | .left => some { w with pose := ⟨w.pose.position, w.pose.heading.turned g.left⟩ }
  | .right => some { w with pose := ⟨w.pose.position, w.pose.heading.turned g.right⟩ }
  | .push => some { w with saved := w.pose :: w.saved }
  | .pop =>
    match w.saved with
    | [] => none
    | pose :: rest => some { w with pose := pose, saved := rest }
  | .ignore => some w

/-- The walk after some actions, or the place of the action that cannot be done.
`place` is the place of the first of them. -/
def follow [Add K] [Sub K] [Mul K] (g : Gait K) (place : Nat) (w : Walk K) :
    List Action → Except Nat (Walk K)
  | [] => .ok w
  | a :: rest =>
    match w.act g a with
    | none => .error place
    | some w => follow g (place + 1) w rest

/-- The edges of a walk in the order they were drawn. -/
def path (w : Walk K) : Path K := w.drawn.reverse

end Walk

/-- The path that some actions draw from a pose, or the place of the action that
cannot be done. -/
def drawActions [Add K] [Sub K] [Mul K] (g : Gait K) (pose : Pose K) (actions : List Action) :
    Except Nat (Path K) :=
  ((Walk.start pose).follow g 0 actions).map Walk.path

end GrowthGrammar
