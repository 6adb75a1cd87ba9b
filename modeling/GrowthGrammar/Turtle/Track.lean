import GrowthGrammar.Turtle

/-!
# The track of a turtle

A turtle that comes back to a branch is at the very place where the branch was
opened, and an edge starts at the very place where the turtle stands.  This
counts where coordinates do not tell: one that is no number is equal to none,
itself included.

A `Track` numbers the places of a walk.  The start is place 0, each step leads to
a place with the next number, and closing a branch goes back to the place of its
opening.  `stops` gives the end points of a path with the numbers of their
places, and two stops are equal if they are one place or have equal coordinates.
-/

namespace GrowthGrammar

variable {K : Type}

/-- The places of a walk. -/
structure Track where
  /-- The place where the turtle is. -/
  here : Nat
  /-- The number of the next place. -/
  next : Nat
  /-- The places at the open branches, the innermost first. -/
  saved : List Nat
  /-- The places of the edges drawn so far, the newest first. -/
  drawn : List (Nat × Nat)
  deriving DecidableEq, Repr

namespace Track

/-- The start of a walk. -/
def start : Track := ⟨0, 1, [], []⟩

/-- The track after one action.  A branch that was not opened is not closed. -/
def act (t : Track) : Action → Track
  | .draw => { t with here := t.next, next := t.next + 1, drawn := (t.here, t.next) :: t.drawn }
  | .move => { t with here := t.next, next := t.next + 1 }
  | .push => { t with saved := t.here :: t.saved }
  | .pop =>
    match t.saved with
    | [] => t
    | place :: rest => { t with here := place, saved := rest }
  | _ => t

/-- The places of the edges that some actions draw. -/
def edgesOf (actions : List Action) : List (Nat × Nat) :=
  (actions.foldl act start).drawn.reverse

end Track

/-- An end point of an edge and the number of its place. -/
structure Stop (K : Type) where
  /-- The number of the place. -/
  place : Nat
  /-- The point. -/
  point : Point K

instance [BEq K] : BEq (Stop K) where
  beq a b := a.place == b.place || a.point == b.point

/-- The end points of a path whose edges have the given places. -/
def Path.stops (path : Path K) (places : List (Nat × Nat)) : List (Stop K) :=
  (path.zip places).flatMap fun (e, first, last) => [⟨first, e.start⟩, ⟨last, e.stop⟩]

/-- The different end points of the path that some actions draw, in the order
they are first met. -/
def Path.pointsOf [BEq K] (path : Path K) (actions : List Action) : List (Point K) :=
  (distinctFrom [] (path.stops (Track.edgesOf actions))).map Stop.point

/-! ## Tests -/

example : Track.edgesOf [.draw, .push, .draw, .pop, .move, .draw] = [(0, 1), (1, 2), (3, 4)] := by
  decide

end GrowthGrammar
