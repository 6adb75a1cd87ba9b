import GrowthGrammar.Datum.Json
import GrowthGrammar.Drawing.Graph
import GrowthGrammar.Drawing.Graph.Label

/-!
# Graphs read from JSON

A reader takes more than the writer gives.  A node without a label is given its
number.  A link may name nodes that are not listed, and entries for one node add
up.  A document that says so is read as a graph without directions, or as one
that keeps several links between the same nodes.

Links are gathered in bundles: a `Bundle` holds all links between two nodes in
the order they were first met.  Where several links are kept they are told apart
by their keys, and a link without a key is given a number that is free;
otherwise a bundle is one link, and entries for it add up.

The links of the graph stand node by node in the order of their sources, those
of a node bundle by bundle.  Without directions, a bundle belongs to the first of
its two nodes that is listed.
-/

namespace GrowthGrammar

namespace Graph

/-! ## Bundles -/

/-- The attributes of a node or a link. -/
abbrev Attributes := List (String × Datum)

/-- Some attributes with further ones, which replace those of the same name. -/
def merge (old new : Attributes) : Attributes :=
  new.foldl (fun all (name, d) => Datum.setField name d all) old

/-- Which links a graph tells apart. -/
structure Reading where
  /-- Links have a direction. -/
  directed : Bool
  /-- Several links between the same nodes are kept. -/
  several : Bool
  deriving DecidableEq, Repr

/-- A node and the label it was given where it was met. -/
structure End where
  /-- The number of the node. -/
  node : Nat
  /-- The label. -/
  label : Datum

/-- The links between two nodes. -/
structure Bundle where
  /-- Where the first of them starts. -/
  source : End
  /-- Where the first of them leads. -/
  target : End
  /-- The keys and attributes of the links. -/
  strands : List (Datum × Attributes)

namespace Bundle

/-- One of the links has a key. -/
def isTaken (b : Bundle) (key : Datum) : Bool :=
  b.strands.any fun s => sameLabel s.1 key

/-- The first number, from the number of links on, that is no key. -/
def freeKey (b : Bundle) : Datum :=
  let count := b.strands.length
  let candidates := (List.range (count + 1)).map fun i => Datum.int ((count + i : Nat) : Int)
  (candidates.find? fun key => !b.isTaken key).getD (.int count)

/-- Some links with an entry for one more. -/
def addStrand (key : Datum) (attributes : Attributes) :
    List (Datum × Attributes) → List (Datum × Attributes)
  | [] => [(key, attributes)]
  | (k, old) :: rest =>
    if sameLabel k key then (k, merge old attributes) :: rest
    else (k, old) :: addStrand key attributes rest

/-- A bundle with an entry for a link. -/
def add (r : Reading) (key : Option Datum) (attributes : Attributes) (b : Bundle) : Bundle :=
  let key := if r.several then key.getD b.freeKey else .null
  { b with strands := addStrand key attributes b.strands }

/-- The bundle holds the links from one node to another. -/
def joins (r : Reading) (source target : Nat) (b : Bundle) : Bool :=
  (b.source.node == source && b.target.node == target)
    || (!r.directed && b.source.node == target && b.target.node == source)

/-- The other end of a bundle that belongs to a node. -/
def endFrom? (r : Reading) (node : Nat) (b : Bundle) : Option End :=
  if b.source.node == node && (r.directed || node ≤ b.target.node) then some b.target
  else if !r.directed && b.target.node == node && node ≤ b.source.node then some b.source
  else none

end Bundle

/-- The nodes and links that have been read. -/
structure Mesh where
  /-- The labels and attributes of the nodes. -/
  nodes : List (Datum × Attributes)
  /-- The links. -/
  bundles : List Bundle

namespace Mesh

/-- Nothing. -/
def empty : Mesh := ⟨[], []⟩

/-- The number of the node with a label, and the mesh with an entry for it. -/
def enter (label : Datum) (attributes : Attributes) (m : Mesh) : Nat × Mesh :=
  match m.nodes.findIdx? fun n => sameLabel n.1 label with
  | some i =>
    (i, { m with nodes := m.nodes.modify i fun (l, old) => (l, merge old attributes) })
  | none => (m.nodes.length, { m with nodes := m.nodes ++ [(label, attributes)] })

/-- Some bundles with an entry for a link. -/
def addLink (r : Reading) (source target : End) (key : Option Datum) (attributes : Attributes) :
    List Bundle → List Bundle
  | [] => [Bundle.add r key attributes ⟨source, target, []⟩]
  | b :: rest =>
    if b.joins r source.node target.node then b.add r key attributes :: rest
    else b :: addLink r source target key attributes rest

/-- The mesh with an entry for a link, and for its two nodes. -/
def link (r : Reading) (source target : Datum) (key : Option Datum) (attributes : Attributes)
    (m : Mesh) : Mesh :=
  let (i, m) := m.enter source []
  let (j, m) := m.enter target []
  { m with bundles := addLink r ⟨i, source⟩ ⟨j, target⟩ key attributes m.bundles }

end Mesh

/-! ## Entries of a document -/

/-- The members that a datum has. -/
def membersOf : Datum → Except Error (List Datum)
  | .list items => .ok items
  | .text s => .ok ((Text.places s).map .text)
  | .record fields => .ok (fields.map fun f => .text f.1)
  | _ => .error .wrongType

/-- The members of a record under a name. -/
def section? (name : String) (d : Datum) : Except Error (List Datum) :=
  match d.get? name with
  | none => .error .missingKey
  | some members => membersOf members

/-- A member of a record. -/
def memberOf (name : String) (fields : Attributes) : Except Error Datum :=
  match Datum.getField? name fields with
  | none => .error .missingKey
  | some d => .ok d

/-- The names that no attribute of a node may have. -/
def nodeWords : List String := ["self", "node_for_adding"]

/-- The names that no attribute of a link may have. -/
def linkWords (r : Reading) : List String :=
  if r.several then ["self", "u_for_edge", "v_for_edge"] else ["self", "u_of_edge", "v_of_edge"]

/-- The members of a record that are its attributes. -/
def attributesOf (members words : List String) (fields : Attributes) :
    Except Error Attributes :=
  let attributes := fields.filter fun f => !members.contains f.1
  if attributes.any fun f => words.contains f.1 then .error .wrongType else .ok attributes

/-- Add the entries of some nodes, the first of which has the given number. -/
def readNodes (number : Nat) (m : Mesh) : List Datum → Except Error Mesh
  | [] => .ok m
  | .record fields :: rest => do
    let attributes ← attributesOf ["id"] nodeWords fields
    let label ← labelOfDatum ((Datum.getField? "id" fields).getD (.int number))
    readNodes (number + 1) (m.enter label attributes).2 rest
  | _ :: _ => .error .notRecord

/-- Add the entries of some links, and of the nodes they name. -/
def readLinks (r : Reading) (m : Mesh) : List Datum → Except Error Mesh
  | [] => .ok m
  | .record fields :: rest => do
    let source ← memberOf "source" fields
    let target ← memberOf "target" fields
    let members := ["source", "target"] ++ if r.several then ["key"] else []
    let attributes ← attributesOf members (linkWords r) fields
    let source ← endOfDatum source
    let target ← endOfDatum target
    let key ←
      if r.several then keyOfDatum ((Datum.getField? "key" fields).getD .null) else pure none
    readLinks r (m.link r source target key attributes) rest
  | _ :: _ => .error .wrongType

/-- A datum as a truth value. -/
def isTrue : Datum → Bool
  | .null => false
  | .bool b => b
  | .int n => n != 0
  | .real x => x != 0
  | .text s => !s.isEmpty
  | .list items => !items.isEmpty
  | .record fields => !fields.isEmpty

/-- A truth value under a name, or its default. -/
def flag (name : String) (default : Bool) (d : Datum) : Bool :=
  ((d.get? name).map isTrue).getD default

/-- The nodes and links of a document. -/
def meshOf (r : Reading) (d : Datum) : Except Error Mesh := do
  let m ← readNodes 0 .empty (← section? "nodes" d)
  readLinks r m (← section? "edges" d)

/-! ## From meshes to graphs -/

/-- The double that a datum stands for: a number, a truth value or a text that
writes a number. -/
def realOfDatum : Datum → Except Error Float
  | .text s =>
    match Decimal.readReal s.toList with
    | some x => .ok x
    | none => .error (.value (.noNumber (Text.quoted s)))
  | d => Vec.factorOfDatum d

/-- An attribute as a double. -/
def realOf (name : String) (attributes : Attributes) : Except Error Float := do
  realOfDatum (← memberOf name attributes)

/-- The node of an entry. -/
def nodeOf (entry : Datum × Attributes) : Except Error (Node Datum) := do
  return ⟨entry.1, ⟨← realOf "x" entry.2, ← realOf "y" entry.2⟩⟩

/-- The link of a strand between two labels. -/
def linkOf (source target : Datum) (strand : Datum × Attributes) : Except Error (Link Datum) := do
  let order ← memberOf "order" strand.2
  return ⟨source, target, order, ← realOf "length" strand.2⟩

/-- The bundles of a node, each with its other end. -/
def bundlesFrom (r : Reading) (node : Nat) (bundles : List Bundle) : List (End × Bundle) :=
  bundles.filterMap fun b => (b.endFrom? r node).map (·, b)

/-- The links of a node with a label. -/
def linksFrom (r : Reading) (bundles : List Bundle) (node : Nat) (label : Datum) :
    Except Error (List (Link Datum)) := do
  let links ← (bundlesFrom r node bundles).mapM fun (other, b) =>
    b.strands.mapM (linkOf label other.label)
  return links.flatten

/-- The graph of a mesh. -/
def ofMesh (r : Reading) (m : Mesh) : Except Error (Graph Datum) := do
  let nodes ← m.nodes.mapM nodeOf
  let links ← (nodes.mapIdx fun i n => (i, n.id)).mapM fun (i, label) =>
    linksFrom r m.bundles i label
  return ⟨nodes, links.flatten⟩

/-- The graph that a document describes. -/
def ofDatum (d : Datum) : Except Error (Graph Datum) :=
  match d with
  | .record _ => do
    let r : Reading := ⟨flag "directed" true d, flag "multigraph" false d⟩
    ofMesh r (← meshOf r d)
  | _ => .error .notRecord

/-- Why a text is no document, as an error. -/
def errorOfFault : Datum.JsonFault → Error
  | .shape => .notJson
  | .depth => .tooDeep
  | .digits count => .value (.digitCount count)

/-- The graph that a JSON text describes. -/
def ofJson (text : List Char) : Except Error (Graph Datum) := do
  ofDatum (← (Datum.ofJson text).mapError errorOfFault)

end Graph

end GrowthGrammar
