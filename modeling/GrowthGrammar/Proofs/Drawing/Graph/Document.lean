import GrowthGrammar.Drawing.Graph.Document
import GrowthGrammar.Drawing.Graph.Reader
import GrowthGrammar.Proofs.Datum.Json
import GrowthGrammar.Proofs.Drawing.Graph.BySource

/-!
# Documents of graphs

The document of a numbered graph describes the graph itself, with its links by their sources
(`ofDatum_toDatum`).  Reading goes through a mesh, which has an entry for each node and a
bundle for each link (`Graph.mesh`): the label of every node is new, the labels at the ends of
a link are known, and no two links share a bundle.

The written text is read as the document (`reads_toDatum`), so a graph of a path is read from
its text, and what was read is written as the same text (`ofJson_toJson`).
-/

namespace GrowthGrammar.Graph

open Decimal

/-- A document with directions and one link at most between two nodes. -/
def simpleReading : Reading := ⟨true, false⟩

/-! ## Labels -/

theorem numberLabel_beq (m n : Nat) : (numberLabel m == numberLabel n) = (m == n) := by
  change ((m : Int) == (n : Int)) = (m == n)
  rw [Bool.eq_iff_iff, beq_iff_eq, beq_iff_eq, Nat.cast_inj]

theorem sameLabel_numberLabel (m n : Nat) :
    sameLabel (numberLabel m) (numberLabel n) = (m == n) := numberLabel_beq m n

/-! ## The mesh of a graph -/

/-- The attributes of a node. -/
def placeAttributes (p : Point Float) : Attributes := [("x", .real p.x), ("y", .real p.y)]

/-- The attributes of a link. -/
def linkAttributes (l : Link Nat) : Attributes :=
  [("order", numberLabel l.order), ("length", .real l.length)]

/-- The entry of a node. -/
def entryOf (n : Node Nat) : Datum × Attributes := (numberLabel n.id, placeAttributes n.place)

/-- The bundle of a link. -/
def bundleOf (l : Link Nat) : Bundle :=
  ⟨⟨l.source, numberLabel l.source⟩, ⟨l.target, numberLabel l.target⟩, [(.null, linkAttributes l)]⟩

/-- What is read from the document of a graph. -/
def mesh (g : Graph Nat) : Mesh := ⟨g.nodes.map entryOf, g.linksBySource.map bundleOf⟩

/-! ## Reading nodes -/

variable {g : Graph Nat} {nodes before : List (Node Nat)} {bundles : List Bundle}

/-- A new label is entered behind the others. -/
theorem enter_new {n : Node Nat} (fresh : n.id ∉ before.map Node.id) :
    (Mesh.enter (numberLabel n.id) (placeAttributes n.place) ⟨before.map entryOf, bundles⟩).2 =
      ⟨(before ++ [n]).map entryOf, bundles⟩ := by
  have missing : (before.map entryOf).findIdx? (fun m => sameLabel m.1 (numberLabel n.id)) =
      none := by
    refine List.findIdx?_eq_none_iff.mpr fun entry member => ?_
    obtain ⟨m, known, rfl⟩ := List.mem_map.mp member
    rw [entryOf, sameLabel_numberLabel, beq_eq_false_iff_ne]
    exact fun same => fresh (same ▸ List.mem_map_of_mem known)
  rw [Mesh.enter, missing, List.map_append]
  rfl

/-- The records of nodes with new numbers are entered in their order. -/
theorem readNodes_nodeDatum (before : List (Node Nat)) (bundles : List Bundle)
    (distinct : ((before ++ nodes).map Node.id).Nodup) (number : Nat) :
    readNodes number ⟨before.map entryOf, bundles⟩ (nodes.map (nodeDatum numberLabel)) =
      .ok ⟨(before ++ nodes).map entryOf, bundles⟩ := by
  induction nodes generalizing number before with
  | nil => rw [List.append_nil]; rfl
  | cons n rest ih =>
    have fresh : n.id ∉ before.map Node.id := by
      rw [List.map_append, List.map_cons] at distinct
      exact fun known => (List.nodup_append.mp distinct).2.2 n.id known n.id (by simp) rfl
    have read : readNodes number ⟨before.map entryOf, bundles⟩
        ((n :: rest).map (nodeDatum numberLabel)) =
        readNodes (number + 1) (Mesh.enter (numberLabel n.id) (placeAttributes n.place)
          ⟨before.map entryOf, bundles⟩).2 (rest.map (nodeDatum numberLabel)) := rfl
    rw [List.append_cons] at distinct ⊢
    rw [read, enter_new fresh, ih _ distinct]

/-! ## Reading links -/

/-- A known label is found at its number, and nothing is added. -/
theorem enter_known (numbered : g.Numbered) {i : Nat} (bound : i < g.nodes.length) :
    Mesh.enter (numberLabel i) [] ⟨g.nodes.map entryOf, bundles⟩ =
      (i, ⟨g.nodes.map entryOf, bundles⟩) := by
  have found : (g.nodes.map entryOf).findIdx? (fun m => sameLabel m.1 (numberLabel i)) =
      some i := by
    refine List.findIdx?_eq_some_iff_getElem.mpr ⟨by simpa using bound, ?_, fun j earlier => ?_⟩
    · rw [List.getElem_map, entryOf, sameLabel_numberLabel, numbered.id_getElem bound]
      exact beq_self_eq_true i
    · rw [List.getElem_map, entryOf, sameLabel_numberLabel,
        numbered.id_getElem (earlier.trans bound), beq_iff_eq]
      exact earlier.ne
  rw [Mesh.enter, found]
  -- there is nothing to merge, so the entry is kept
  exact congrArg (fun nodes => (i, (⟨nodes, bundles⟩ : Mesh))) (List.modify_id i _)

/-- A link between other nodes than the links before is a bundle of its own. -/
theorem addLink_new {links : List (Link Nat)} {l : Link Nat}
    (fresh : (l.source, l.target) ∉ links.map fun l => (l.source, l.target)) :
    Mesh.addLink simpleReading ⟨l.source, numberLabel l.source⟩ ⟨l.target, numberLabel l.target⟩
      none (linkAttributes l) (links.map bundleOf) = (links ++ [l]).map bundleOf := by
  induction links with
  | nil => rfl
  | cons m rest ih =>
    rw [List.map_cons, List.mem_cons, not_or] at fresh
    have apart : (bundleOf m).joins simpleReading l.source l.target = false := by
      have differ : ¬ (m.source = l.source ∧ m.target = l.target) := fun ⟨source, target⟩ =>
        fresh.1 (Prod.ext source.symm target.symm)
      simpa [Bundle.joins, simpleReading, bundleOf] using differ
    rw [List.map_cons, Mesh.addLink, apart]
    exact congrArg (bundleOf m :: ·) (ih fresh.2)

/-- The records of links of a graph between different nodes become bundles in their order. -/
theorem readLinks_linkDatum {links : List (Link Nat)} (numbered : g.Numbered)
    (earlier : List (Link Nat)) (known : ∀ l ∈ links, l ∈ g.links)
    (single : ((earlier ++ links).map fun l => (l.source, l.target)).Nodup) :
    readLinks simpleReading ⟨g.nodes.map entryOf, earlier.map bundleOf⟩
        (links.map (linkDatum numberLabel)) =
      .ok ⟨g.nodes.map entryOf, (earlier ++ links).map bundleOf⟩ := by
  induction links generalizing earlier with
  | nil => rw [List.append_nil]; rfl
  | cons l rest ih =>
    obtain ⟨here, later⟩ := List.forall_mem_cons.mp known
    have fresh : (l.source, l.target) ∉ earlier.map fun l => (l.source, l.target) := by
      rw [List.map_append, List.map_cons] at single
      exact fun old => (List.nodup_append.mp single).2.2 _ old _ (by simp) rfl
    have read : readLinks simpleReading ⟨g.nodes.map entryOf, earlier.map bundleOf⟩
        ((l :: rest).map (linkDatum numberLabel)) =
        readLinks simpleReading (Mesh.link simpleReading (numberLabel l.source)
          (numberLabel l.target) none (linkAttributes l)
          ⟨g.nodes.map entryOf, earlier.map bundleOf⟩) (rest.map (linkDatum numberLabel)) := rfl
    rw [List.append_cons] at single ⊢
    rw [read, Mesh.link, enter_known numbered (numbered.source_lt l here)]
    simp only
    rw [enter_known numbered (numbered.target_lt l here)]
    simp only
    rw [addLink_new fresh, ih _ later single]

/-- The document of a graph is read as the mesh of the graph. -/
theorem meshOf_toDatum (numbered : g.Numbered) :
    meshOf simpleReading (g.toDatum numberLabel) = .ok g.mesh := by
  have nodesRead := readNodes_nodeDatum [] [] numbered.ids_nodup 0
  have single : (g.linksBySource.map fun l => (l.source, l.target)).Nodup :=
    (numbered.linksBySource_perm.map _).nodup_iff.mpr numbered.single
  have linksRead := readLinks_linkDatum numbered [] (fun l => numbered.mem_linksBySource.mp) single
  have stages : meshOf simpleReading (g.toDatum numberLabel) =
      (readNodes 0 .empty (g.nodes.map (nodeDatum numberLabel))).bind fun m =>
        readLinks simpleReading m (g.linksBySource.map (linkDatum numberLabel)) := rfl
  rw [stages]
  change Except.bind (readNodes 0 ⟨[].map entryOf, []⟩ _) _ = _
  rw [nodesRead]
  exact linksRead

/-! ## From the mesh to the graph -/

theorem bundlesFrom_bundleOf (links : List (Link Nat)) (i : Nat) :
    bundlesFrom simpleReading i (links.map bundleOf) =
      (links.filter fun l => l.source == i).map fun l =>
        (⟨l.target, numberLabel l.target⟩, bundleOf l) := by
  induction links with
  | nil => rfl
  | cons l rest ih =>
    rw [bundlesFrom] at ih
    rw [List.map_cons, bundlesFrom, List.filterMap_cons, ih, List.filter_cons]
    by_cases here : l.source = i
    · simp [here, Bundle.endFrom?, bundleOf, simpleReading]
    · simp [here, Bundle.endFrom?, bundleOf, simpleReading]

/-- The bundles of a node become its links. -/
theorem linksFrom_bundleOf (links : List (Link Nat)) (i : Nat) :
    linksFrom simpleReading (links.map bundleOf) i (numberLabel i) =
      .ok ((links.filter fun l => l.source == i).map (Link.relabel numberLabel)) := by
  have each : ∀ l ∈ links.filter fun l => l.source == i,
      (bundleOf l).strands.mapM (linkOf (numberLabel i) (numberLabel l.target)) =
        .ok [l.relabel numberLabel] := by
    intro l member
    obtain rfl := beq_iff_eq.mp (List.mem_filter.mp member).2
    rfl
  rw [linksFrom, bundlesFrom_bundleOf, List.mapM_map]
  change Except.bind ((links.filter fun l => l.source == i).mapM fun l =>
    (bundleOf l).strands.mapM (linkOf (numberLabel i) (numberLabel l.target))) _ = _
  rw [mapM_ok each]
  have single (xs : List (Link Nat)) : (xs.map fun l => [l.relabel numberLabel]).flatten =
      xs.map (Link.relabel numberLabel) := by
    rw [← List.flatMap_def, List.map_eq_flatMap]
  exact congrArg Except.ok (single _)

/-- The graph of the mesh has the labels of the nodes, and its links by their sources. -/
theorem ofMesh_mesh (numbered : g.Numbered) :
    ofMesh simpleReading g.mesh = .ok (g.bySource.relabel numberLabel) := by
  have nodesRead : (g.nodes.map entryOf).mapM nodeOf =
      .ok (g.nodes.map (Node.relabel numberLabel)) := by
    rw [List.mapM_map]
    exact mapM_ok fun n _ => rfl
  have places : ((g.nodes.map (Node.relabel numberLabel)).mapIdx fun i n => (i, n.id)) =
      g.nodes.map fun n => (n.id, numberLabel n.id) := by
    refine List.ext_getElem (by simp) fun i bound _ => ?_
    simp [Node.relabel, numbered.id_getElem (i := i) (by simpa using bound)]
  have linksRead : (g.nodes.map fun n => (n.id, numberLabel n.id)).mapM
      (fun entry => linksFrom simpleReading (g.linksBySource.map bundleOf) entry.1 entry.2) =
      .ok (g.nodes.map fun n => (g.linksBySource.filter fun l => l.source == n.id).map
        (Link.relabel numberLabel)) := by
    rw [List.mapM_map]
    exact mapM_ok fun n _ => linksFrom_bundleOf g.linksBySource n.id
  have regrouped : (g.nodes.map fun n => (g.linksBySource.filter fun l => l.source == n.id).map
      (Link.relabel numberLabel)).flatten = g.linksBySource.map (Link.relabel numberLabel) := by
    rw [← List.flatMap_def, ← List.map_flatMap]
    exact congrArg (List.map (Link.relabel numberLabel)) numbered.linksBySource_bySource
  rw [ofMesh, mesh, nodesRead]
  change Except.bind (List.mapM _ (List.mapIdx _ _)) _ = _
  rw [places]
  refine (congrArg (Except.bind · _) linksRead).trans ?_
  exact congrArg (fun links => Except.ok
    (Graph.mk (g.nodes.map (Node.relabel numberLabel)) links)) regrouped

/-- The document of a graph describes the graph with its links by their sources. -/
theorem ofDatum_toDatum (numbered : g.Numbered) :
    ofDatum (g.toDatum numberLabel) = .ok (g.bySource.relabel numberLabel) := by
  have stages : ofDatum (g.toDatum numberLabel) =
      (meshOf simpleReading (g.toDatum numberLabel)).bind (ofMesh simpleReading) := rfl
  rw [stages, meshOf_toDatum numbered]
  exact ofMesh_mesh numbered

/-! ## The text of a document -/

theorem reads_numberLabel {level levels n : Nat} (short : n < 10 ^ maxDigits) :
    Datum.Reads level levels (numberLabel n) :=
  Datum.reads_int level levels ((Nat.length_toDigits_le_iff (by decide) (by decide)).mpr short)

theorem reads_nodeDatum (level levels : Nat) {n : Node Nat} (short : n.id < 10 ^ maxDigits) :
    Datum.Reads level (levels + 1) (nodeDatum numberLabel n) := by
  refine Datum.reads_record level levels (by simp; decide) (by simp) ?_
  simp only [List.forall_mem_cons]
  exact ⟨Datum.reads_real _ _ _, Datum.reads_real _ _ _, reads_numberLabel short, by simp⟩

theorem reads_linkDatum (level levels : Nat) {l : Link Nat}
    (source : l.source < 10 ^ maxDigits) (target : l.target < 10 ^ maxDigits)
    (order : l.order < 10 ^ maxDigits) :
    Datum.Reads level (levels + 1) (linkDatum numberLabel l) := by
  refine Datum.reads_record level levels (by simp; decide) (by simp) ?_
  simp only [List.forall_mem_cons]
  exact ⟨reads_numberLabel order, Datum.reads_real _ _ _, reads_numberLabel source,
    reads_numberLabel target, by simp⟩

/-- The text of a graph is read as its document, if its numbers have not too many digits. -/
theorem reads_toDatum (numbered : g.Numbered) (nodes : g.nodes.length ≤ 10 ^ maxDigits)
    (orders : ∀ l ∈ g.links, l.order < 10 ^ maxDigits) :
    Datum.ofJson g.toJson.toList = .ok (g.toDatum numberLabel) := by
  refine Datum.ofJson_of_reads (Datum.reads_record 0 984 (by simp; decide) (by simp) ?_)
  simp only [List.forall_mem_cons]
  refine ⟨Datum.reads_bool _ _ _, Datum.reads_bool _ _ _, ?_, ?_, ?_, by simp⟩
  · exact Datum.reads_record 1 983 (by simp) (by simp) (by simp)
  · refine Datum.reads_list 1 983 fun d member => ?_
    obtain ⟨n, inNodes, rfl⟩ := List.mem_map.mp member
    obtain ⟨i, bound, rfl⟩ := List.mem_iff_getElem.mp inNodes
    refine reads_nodeDatum 2 982 ?_
    rw [numbered.id_getElem bound]
    exact bound.trans_le nodes
  · refine Datum.reads_list 1 983 fun d member => ?_
    obtain ⟨l, inLinks, rfl⟩ := List.mem_map.mp member
    rw [numbered.mem_linksBySource] at inLinks
    exact reads_linkDatum 2 982 ((numbered.source_lt l inLinks).trans_le nodes)
      ((numbered.target_lt l inLinks).trans_le nodes) (orders l inLinks)

/-! ## Written again -/

/-- The records of the links that belong to a node with a label. -/
def Mesh.linkRecords (r : Reading) (m : Mesh) (node : Nat) (label : Datum) : List Datum :=
  (bundlesFrom r node m.bundles).flatMap fun (other, b) =>
    b.strands.map fun (key, attributes) =>
      .record (attributes ++ [("source", label), ("target", other.label)] ++
        if r.several then [("key", key)] else [])

/-- The document of what was read, with all attributes that were read. -/
def Mesh.toDatum (r : Reading) (m : Mesh) : Datum :=
  .record [("directed", .bool r.directed), ("multigraph", .bool r.several),
    ("graph", .record []),
    ("nodes", .list (m.nodes.map fun (label, attributes) =>
      .record (attributes ++ [("id", label)]))),
    ("edges", .list (m.nodes.mapIdx fun i n => m.linkRecords r i n.1).flatten)]

theorem linkRecords_mesh (numbered : g.Numbered) {n : Node Nat} (member : n ∈ g.nodes) :
    g.mesh.linkRecords simpleReading n.id (numberLabel n.id) =
      (g.links.filter fun l => l.source == n.id).map (linkDatum numberLabel) := by
  rw [Mesh.linkRecords, mesh, bundlesFrom_bundleOf, numbered.filter_linksBySource member,
    List.flatMap_map, List.map_eq_flatMap]
  refine List.flatMap_congr fun l inLinks => ?_
  obtain same := beq_iff_eq.mp (List.mem_filter.mp inLinks).2
  rw [← same]
  rfl

/-- The mesh of a graph has the document of the graph. -/
theorem toDatum_mesh (numbered : g.Numbered) :
    g.mesh.toDatum simpleReading = g.toDatum numberLabel := by
  have nodes : (g.mesh.nodes.map fun (label, attributes) =>
      Datum.record (attributes ++ [("id", label)])) = g.nodes.map (nodeDatum numberLabel) := by
    rw [mesh, List.map_map]
    rfl
  have links : (g.mesh.nodes.mapIdx fun i n =>
      g.mesh.linkRecords simpleReading i n.1).flatten =
      g.linksBySource.map (linkDatum numberLabel) := by
    have places : (g.mesh.nodes.mapIdx fun i n => g.mesh.linkRecords simpleReading i n.1) =
        g.nodes.map fun n => (g.links.filter fun l => l.source == n.id).map
          (linkDatum numberLabel) := by
      refine List.ext_getElem (by simp [mesh]) fun i bound _ => ?_
      have inNodes : i < g.nodes.length := by simpa [mesh] using bound
      have records := linkRecords_mesh numbered (List.getElem_mem inNodes)
      rw [numbered.id_getElem inNodes] at records
      simpa [mesh, entryOf, numbered.id_getElem inNodes] using records
    rw [places, ← List.flatMap_def, ← List.map_flatMap]
    rfl
  rw [Mesh.toDatum, nodes, links]
  rfl

/-- Labels do not change the document, once they are data. -/
theorem toDatum_relabel (numbered : g.Numbered) :
    (g.bySource.relabel numberLabel).toDatum id = g.toDatum numberLabel := by
  rw [toDatum, linksBySource_relabel numberLabel_beq, numbered.linksBySource_bySource, relabel,
    List.map_map, List.map_map]
  rfl

/-! ## Graphs of paths -/

/-- The text of the graph of a path is read as a graph with the same nodes in the same order
and the same links, and what was read is written as the same text, with all its attributes or
with those of a graph.

Only the number of edges is limited, by the number of digits that a reader accepts, which no
path that fits into a memory comes near. -/
theorem ofJson_toJson [Ruler] {precision : Int} {path : Path Float}
    (built : ofPath precision path = .ok g) (finite : ∀ p ∈ path.ends, p.isFinite = true)
    (short : 2 * path.length ≤ 10 ^ maxDigits) :
    ∃ d m h, Datum.ofJson g.toJson.toList = .ok d ∧ meshOf simpleReading d = .ok m ∧
      ofJson g.toJson.toList = .ok h ∧
      h.nodes = g.nodes.map (Node.relabel numberLabel) ∧
      h.links.Perm (g.links.map (Link.relabel numberLabel)) ∧
      (m.toDatum simpleReading).toJson = g.toJson ∧ (h.toDatum id).toJson = g.toJson := by
  have numbered := numbered_of_ofPath finite built
  obtain ⟨nodes, orders⟩ := bounded_of_ofPath finite built
  have read := reads_toDatum numbered (nodes.trans short) fun l member =>
    (orders l member).trans_le (by omega)
  refine ⟨g.toDatum numberLabel, g.mesh, g.bySource.relabel numberLabel, read,
    meshOf_toDatum numbered, ?_, rfl, ?_, ?_, ?_⟩
  · rw [ofJson, read]
    exact ofDatum_toDatum numbered
  · exact numbered.linksBySource_perm.map _
  · rw [toDatum_mesh numbered, toJson]
  · rw [toDatum_relabel numbered, toJson]

/-- A fork whose second branch is drawn on the way back. -/
theorem ofJson_toJson_fork :
    ∃ g d m h, ofPath 6 [⟨⟨0, 0⟩, ⟨1, 0⟩⟩, ⟨⟨1, 0⟩, ⟨1.5, 2⟩⟩, ⟨⟨0, 0⟩, ⟨0, 1⟩⟩] = .ok g ∧
      Datum.ofJson g.toJson.toList = .ok d ∧ meshOf simpleReading d = .ok m ∧
      ofJson g.toJson.toList = .ok h ∧
      h.nodes = g.nodes.map (Node.relabel numberLabel) ∧
      h.links.Perm (g.links.map (Link.relabel numberLabel)) ∧
      (m.toDatum simpleReading).toJson = g.toJson ∧ (h.toDatum id).toJson = g.toJson := by
  have drawn :
      (ofPath 6 [⟨⟨0, 0⟩, ⟨1, 0⟩⟩, ⟨⟨1, 0⟩, ⟨1.5, 2⟩⟩, ⟨⟨0, 0⟩, ⟨0, 1⟩⟩]).isOk = true := by
    decide +kernel
  have few : 2 * 3 ≤ 10 ^ maxDigits :=
    Nat.le_trans (by decide) (Nat.pow_le_pow_right (by decide) (by decide : 1 ≤ maxDigits))
  cases built : ofPath 6 [⟨⟨0, 0⟩, ⟨1, 0⟩⟩, ⟨⟨1, 0⟩, ⟨1.5, 2⟩⟩, ⟨⟨0, 0⟩, ⟨0, 1⟩⟩] with
  | error e =>
    rw [built] at drawn
    cases drawn
  | ok g =>
    obtain ⟨d, m, h, same⟩ := ofJson_toJson built (by decide +kernel) few
    exact ⟨g, d, m, h, rfl, same⟩

end GrowthGrammar.Graph
