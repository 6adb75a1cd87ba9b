import GrowthGrammar.Plane.Length

/-!
# Paths

A path is a list of edges in the order they were drawn.  Its bounds are the
smallest box with sides along the axes that holds every end point; a coordinate
that is no number makes the bound no number.

Edges that follow on one another form a run, and a run is drawn as one polyline.
`runs` cuts a path where an edge does not start near the end of the one before.
-/

namespace GrowthGrammar

variable {K : Type}

/-- A straight line from one point to another. -/
structure Edge (K : Type) where
  /-- Where it starts. -/
  start : Point K
  /-- Where it ends. -/
  stop : Point K
  deriving DecidableEq, BEq, Repr

/-- The vector from the start of an edge to its end. -/
def Edge.vector [Sub K] (e : Edge K) : Vec K := e.stop.minus e.start

/-- The length of an edge. -/
def Edge.length [Ruler] (e : Edge Float) : Float := e.start.distance e.stop

/-- The four coordinates of an edge. -/
def Edge.coordinates (e : Edge K) : List K := [e.start.x, e.start.y, e.stop.x, e.stop.y]

/-- Edges in the order they were drawn. -/
abbrev Path (K : Type) := List (Edge K)

/-! ## Bounds -/

/-- A box with sides along the axes. -/
structure Bounds (K : Type) where
  /-- The left side. -/
  minX : K
  /-- The lower side. -/
  minY : K
  /-- The right side. -/
  maxX : K
  /-- The upper side. -/
  maxY : K
  deriving DecidableEq, Repr

/-- The lesser of two numbers, or the one that is no number. -/
def lesser [BEq K] [LT K] [DecidableLT K] (a b : K) : K :=
  if a == a && (b < a || !(b == b)) then b else a

/-- The greater of two numbers, or the one that is no number. -/
def greater [BEq K] [LT K] [DecidableLT K] (a b : K) : K :=
  if a == a && (a < b || !(b == b)) then b else a

namespace Bounds

/-- The box of one point. -/
def ofPoint (p : Point K) : Bounds K := ⟨p.x, p.y, p.x, p.y⟩

/-- The box with one more point. -/
def insert [BEq K] [LT K] [DecidableLT K] (b : Bounds K) (p : Point K) : Bounds K :=
  ⟨lesser b.minX p.x, lesser b.minY p.y, greater b.maxX p.x, greater b.maxY p.y⟩

/-- From the left side to the right one. -/
def width [Sub K] (b : Bounds K) : K := b.maxX - b.minX

/-- From the lower side to the upper one. -/
def height [Sub K] (b : Bounds K) : K := b.maxY - b.minY

/-- The middle of the box. -/
def center [Add K] [Div K] [OfNat K 2] (b : Bounds K) : Point K :=
  ⟨(b.minX + b.maxX) / 2, (b.minY + b.maxY) / 2⟩

end Bounds

namespace Path

/-- The box with the end points of some more edges. -/
def boundsFrom [BEq K] [LT K] [DecidableLT K] (b : Bounds K) : Path K → Bounds K
  | [] => b
  | e :: rest => boundsFrom ((b.insert e.start).insert e.stop) rest

/-- The bounds of a path with an edge. -/
def bounds? [BEq K] [LT K] [DecidableLT K] : Path K → Option (Bounds K)
  | [] => none
  | e :: rest => some (boundsFrom (Bounds.ofPoint e.start) (e :: rest))

/-! ## Views of a path -/

/-- The end points of a path, edge by edge. -/
def ends (path : Path K) : List (Point K) := path.flatMap fun e => [e.start, e.stop]

/-- Some points without those that are equal to one of `seen` or to one before. -/
def distinctFrom {α : Type} [BEq α] (seen : List α) : List α → List α
  | [] => []
  | p :: rest =>
    if seen.contains p then distinctFrom seen rest else p :: distinctFrom (p :: seen) rest

/-- The different end points of a path in the order they are first met. -/
def points [BEq K] (path : Path K) : List (Point K) := distinctFrom [] path.ends

/-- The sum of the lengths, from the first edge on. -/
def drawnLength [Ruler] (path : Path Float) : Float :=
  path.foldl (fun total e => total + e.length) 0

/-- A path as a message shows it. -/
def shown (path : Path K) : String := "Path(" ++ toString path.length ++ " edges)"

/-! ## Runs and polylines -/

/-- The runs of a path whose unfinished run is `last` after the edges `before`,
nearest first. -/
def runsFrom [Sub K] [Neg K] [LE K] [DecidableLE K] (near : K) (before : List (Edge K))
    (last : Edge K) : Path K → List (List (Edge K))
  | [] => [(last :: before).reverse]
  | e :: rest =>
    if last.stop.isNear near e.start then runsFrom near (last :: before) e rest
    else (last :: before).reverse :: runsFrom near [] e rest

/-- The runs of a path: each edge of a run starts near the end of the one
before. -/
def runs [Sub K] [Neg K] [LE K] [DecidableLE K] (near : K) : Path K → List (List (Edge K))
  | [] => []
  | e :: rest => runsFrom near [] e rest

/-- The points of a run: where it starts, and the end of each edge. -/
def polylineOf : List (Edge K) → List (Point K)
  | [] => []
  | e :: rest => e.start :: (e :: rest).map Edge.stop

/-- The polylines of a path. -/
def polylines (path : Path Float) : List (List (Point Float)) :=
  (path.runs tolerance).map polylineOf

end Path

end GrowthGrammar
