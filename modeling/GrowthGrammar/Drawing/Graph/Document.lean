import GrowthGrammar.Datum.Json
import GrowthGrammar.Drawing.Graph

/-!
# Graphs written as JSON

The document of a graph is a record with the members `directed`, `multigraph`,
`graph`, `nodes` and `edges`.  A node is a record of its place and its label, and
a link is one of its attributes and the labels of its two nodes.  The links stand
node by node in the order of their sources.
-/

namespace GrowthGrammar

namespace Graph

/-- The record of a node. -/
def nodeDatum (label : ι → Datum) (n : Node ι) : Datum :=
  .record [("x", .real n.place.x), ("y", .real n.place.y), ("id", label n.id)]

/-- The record of a link. -/
def linkDatum (label : ι → Datum) (l : Link ι) : Datum :=
  .record [("order", label l.order), ("length", .real l.length),
    ("source", label l.source), ("target", label l.target)]

/-- The document of a graph. -/
def toDatum [BEq ι] (label : ι → Datum) (g : Graph ι) : Datum :=
  .record [("directed", .bool true), ("multigraph", .bool false), ("graph", .record []),
    ("nodes", .list (g.nodes.map (nodeDatum label))),
    ("edges", .list (g.linksBySource.map (linkDatum label)))]

/-- A number as a label. -/
def numberLabel (n : Nat) : Datum := .int n

/-- The JSON text of the graph of a path. -/
def toJson (g : Graph Nat) : String :=
  (g.toDatum numberLabel).toJson

end Graph

end GrowthGrammar
