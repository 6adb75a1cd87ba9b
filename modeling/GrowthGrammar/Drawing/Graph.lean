import GrowthGrammar.Plane.Path

/-!
# Drawings as graphs

The end points of a drawing, rounded to some places, are the nodes of a directed
graph, numbered in the order they are first met.  Each edge is a link between its
two nodes and keeps its place in the drawing and its length.  An edge whose end
points round to one node is no link, and of several edges between the same nodes
only the first is one.

A coordinate that is no number is equal to none, so a point with one is always a
node of its own.
-/

namespace GrowthGrammar

/-- A node of a graph. -/
structure Node (ι : Type) where
  /-- What tells it apart from other nodes. -/
  id : ι
  /-- Where it is. -/
  place : Point Float
  deriving BEq

/-- A link of a graph. -/
structure Link (ι : Type) where
  /-- The node it starts from. -/
  source : ι
  /-- The node it leads to. -/
  target : ι
  /-- Its place in the drawing. -/
  order : ι
  /-- The length of its edge. -/
  length : Float
  deriving BEq

/-- Nodes and the links between them. -/
structure Graph (ι : Type) where
  /-- The nodes in the order they were first met. -/
  nodes : List (Node ι)
  /-- The links in the order they were first met. -/
  links : List (Link ι)
  deriving BEq

namespace Graph

/-- A point rounded to some places.  Its coordinates are not negative zeros. -/
def keyOf (precision : Int) (p : Point Float) : Except Error (Point Float) :=
  match Decimal.roundTo precision p.x, Decimal.roundTo precision p.y with
  | some x, some y => .ok ⟨x + 0, y + 0⟩
  | _, _ => .error .overflow

/-- A graph in the making.  The place of a node is its number. -/
structure Draft where
  /-- The rounded points of the nodes. -/
  keys : Array (Point Float)
  /-- The links. -/
  links : Array (Link Nat)

namespace Draft

/-- Nothing. -/
def empty : Draft := ⟨#[], #[]⟩

/-- The node of a rounded point, which is added if it is new. -/
def node (d : Draft) (key : Point Float) : Nat × Draft :=
  match d.keys.findIdx? (· == key) with
  | some i => (i, d)
  | none => (d.keys.size, { d with keys := d.keys.push key })

/-- There is a link between the two nodes. -/
def linked (d : Draft) (source target : Nat) : Bool :=
  d.links.any fun l => l.source == source && l.target == target

/-- The draft with a link, unless that is a loop or not the first between its
nodes. -/
def link (d : Draft) (l : Link Nat) : Draft :=
  if l.source == l.target || d.linked l.source l.target then d
  else { d with links := d.links.push l }

/-- The draft with an edge, which has a place in the drawing. -/
def insert [Ruler] (precision : Int) (order : Nat) (d : Draft) (e : Edge Float) :
    Except Error Draft := do
  let (source, d) := d.node (← keyOf precision e.start)
  let (target, d) := d.node (← keyOf precision e.stop)
  return d.link ⟨source, target, order, e.length⟩

/-- The draft with some edges, the first of which has the given place in the
drawing. -/
def insertFrom [Ruler] (precision : Int) (order : Nat) (d : Draft) : Path Float → Except Error Draft
  | [] => .ok d
  | e :: rest => do insertFrom precision (order + 1) (← d.insert precision order e) rest

/-- The graph of a draft. -/
def graph (d : Draft) : Graph Nat where
  nodes := d.keys.toList.mapIdx fun id key => ⟨id, key⟩
  links := d.links.toList

end Draft

/-- The graph of a path, its points rounded to some places. -/
def ofPath [Ruler] (precision : Int) (path : Path Float) : Except Error (Graph Nat) :=
  (Draft.empty.insertFrom precision 0 path).map Draft.graph

/-- The number of places that points are usually rounded to. -/
def usualPrecision : Int := 6

/-- The links, those from the first node first. -/
def linksBySource [BEq ι] (g : Graph ι) : List (Link ι) :=
  g.nodes.flatMap fun n => g.links.filter fun l => l.source == n.id

/-- The graph with its links in that order. -/
def bySource [BEq ι] (g : Graph ι) : Graph ι := { g with links := g.linksBySource }

end Graph

end GrowthGrammar
