import Mathlib.Data.List.Nodup
import Mathlib.Data.List.Perm.Basic
import GrowthGrammar.Proofs.Drawing.Graph.Exact

/-!
# Links by their sources

A document lists the links of a graph node by node.  In a graph whose nodes are numbered in
their order and whose links lead from nodes to nodes (`Numbered`), that changes the order of
the links and nothing else (`Numbered.linksBySource_perm`), and doing it again changes nothing
(`Numbered.linksBySource_bySource`).  The graph of a path is such a graph
(`numbered_of_ofPath`).

Giving the nodes other labels (`relabel`) does not change the order, as long as equal labels
come from equal ones.
-/

namespace GrowthGrammar

/-- The node with another label. -/
def Node.relabel {ι κ : Type} (f : ι → κ) (n : Node ι) : Node κ := ⟨f n.id, n.place⟩

/-- The link between the other labels. -/
def Link.relabel {ι κ : Type} (f : ι → κ) (l : Link ι) : Link κ :=
  ⟨f l.source, f l.target, f l.order, l.length⟩

namespace Graph

/-- The graph with other labels. -/
def relabel {ι κ : Type} (f : ι → κ) (g : Graph ι) : Graph κ :=
  ⟨g.nodes.map (Node.relabel f), g.links.map (Link.relabel f)⟩

/-- The nodes are numbered in their order, and there is at most one link from a node to
another one. -/
structure Numbered (g : Graph Nat) : Prop where
  ids : g.nodes.map Node.id = List.range g.nodes.length
  source_lt : ∀ l ∈ g.links, l.source < g.nodes.length
  target_lt : ∀ l ∈ g.links, l.target < g.nodes.length
  single : (g.links.map fun l => (l.source, l.target)).Nodup

namespace Numbered

variable {g : Graph Nat}

theorem id_getElem (numbered : g.Numbered) {i : Nat} (bound : i < g.nodes.length) :
    g.nodes[i].id = i := by
  have same := List.getElem_of_eq numbered.ids (i := i) (by simpa using bound)
  simpa using same

theorem ids_nodup (numbered : g.Numbered) : (g.nodes.map Node.id).Nodup := by
  rw [numbered.ids]
  exact List.nodup_range

theorem links_nodup (numbered : g.Numbered) : g.links.Nodup :=
  List.Nodup.of_map _ numbered.single

theorem mem_linksBySource (numbered : g.Numbered) {l : Link Nat} :
    l ∈ g.linksBySource ↔ l ∈ g.links := by
  simp only [linksBySource, List.mem_flatMap, List.mem_filter, beq_iff_eq]
  constructor
  · rintro ⟨n, -, member, -⟩
    exact member
  · intro member
    have bound := numbered.source_lt l member
    exact ⟨g.nodes[l.source], List.getElem_mem bound, member, (numbered.id_getElem bound).symm⟩

/-- The links by their sources are the links in another order. -/
theorem linksBySource_perm (numbered : g.Numbered) : g.linksBySource.Perm g.links := by
  refine (List.perm_ext_iff_of_nodup ?_ numbered.links_nodup).mpr fun l =>
    numbered.mem_linksBySource
  refine List.nodup_flatMap.mpr ⟨fun n _ => numbered.links_nodup.filter _, ?_⟩
  refine (List.pairwise_map.mp numbered.ids_nodup).imp fun differ l inFirst inSecond => ?_
  have first := (List.mem_filter.mp inFirst).2
  have second := (List.mem_filter.mp inSecond).2
  rw [beq_iff_eq] at first second
  exact differ (first.symm.trans second)

/-- Only one node counts among nodes with different numbers. -/
theorem flatMap_ite_id {α : Type} {nodes : List (Node Nat)} {n : Node Nat}
    (distinct : (nodes.map Node.id).Nodup) (member : n ∈ nodes) (xs : List α) :
    (nodes.flatMap fun m => if m.id = n.id then xs else []) = xs := by
  induction nodes with
  | nil => cases member
  | cons m rest ih =>
    rw [List.map_cons, List.nodup_cons] at distinct
    rw [List.flatMap_cons]
    by_cases same : m.id = n.id
    · have none : (rest.flatMap fun m => if m.id = n.id then xs else []) = [] := by
        refine List.flatMap_eq_nil_iff.mpr fun other inRest => if_neg fun again => ?_
        rw [same, ← again] at distinct
        exact distinct.1 (List.mem_map_of_mem inRest)
      rw [if_pos same, none, List.append_nil]
    · rcases List.mem_cons.mp member with rfl | later
      · exact absurd rfl same
      · rw [if_neg same, List.nil_append, ih distinct.2 later]

/-- The links from a node are together already. -/
theorem filter_linksBySource (numbered : g.Numbered) {n : Node Nat} (member : n ∈ g.nodes) :
    g.linksBySource.filter (fun l => l.source == n.id) =
      g.links.filter fun l => l.source == n.id := by
  have each (m : Node Nat) :
      (g.links.filter fun l => l.source == m.id).filter (fun l => l.source == n.id) =
        if m.id = n.id then g.links.filter (fun l => l.source == n.id) else [] := by
    rw [List.filter_filter]
    split
    case isTrue same => simp [same]
    case isFalse differ =>
      refine List.filter_eq_nil_iff.mpr fun l _ both => ?_
      rw [Bool.and_eq_true, beq_iff_eq, beq_iff_eq] at both
      exact differ (both.2.symm.trans both.1)
  rw [linksBySource, List.filter_flatMap]
  simp only [each]
  exact flatMap_ite_id numbered.ids_nodup member _

theorem linksBySource_bySource (numbered : g.Numbered) :
    g.bySource.linksBySource = g.linksBySource :=
  List.flatMap_congr fun _ member => numbered.filter_linksBySource member

end Numbered

theorem linksBySource_relabel {ι κ : Type} [BEq ι] [BEq κ] {f : ι → κ}
    (respects : ∀ a b, (f a == f b) = (a == b)) (g : Graph ι) :
    (g.relabel f).linksBySource = g.linksBySource.map (Link.relabel f) := by
  have each (n : Node ι) :
      ((g.links.map (Link.relabel f)).filter fun l => l.source == (n.relabel f).id) =
        (g.links.filter fun l => l.source == n.id).map (Link.relabel f) := by
    rw [List.filter_map]
    congr 1
    exact List.filter_congr fun l _ => respects l.source n.id
  simp only [linksBySource, relabel, List.flatMap_map, each, List.map_flatMap]

/-! ## Graphs of paths -/

variable {precision : Int} {path : Path Float} {g : Graph Nat}

/-- A graph of a path with finite points comes from a draft. -/
theorem exists_draft_of_ofPath [Ruler] (finite : ∀ p ∈ path.ends, p.isFinite = true)
    (built : ofPath precision path = .ok g) :
    ∃ d : Draft, d.Holds precision path ∧ d.graph = g := by
  rw [ofPath] at built
  cases went : Draft.empty.insertFrom precision 0 path with
  | error e =>
    rw [went] at built
    cases built
  | ok d =>
    rw [went] at built
    obtain ⟨d', drafted, holds⟩ := Draft.exists_holds fun p member =>
      ⟨finite p member, Draft.fits_of_insertFrom went p member⟩
    obtain rfl : d = d' := Except.ok.inj (went.symm.trans drafted)
    exact ⟨d, holds, Except.ok.inj built⟩

theorem Draft.length_graph_nodes (d : Draft) : d.graph.nodes.length = d.keys.toList.length := by
  simp [Draft.graph]

theorem numbered_of_ofPath [Ruler] (finite : ∀ p ∈ path.ends, p.isFinite = true)
    (built : ofPath precision path = .ok g) : g.Numbered := by
  obtain ⟨d, holds, rfl⟩ := exists_draft_of_ofPath finite built
  constructor
  case ids => exact d.graph_ids
  case source_lt =>
    intro l member
    obtain ⟨-, ⟨⟨e, -, starts, -⟩, -⟩, -⟩ := (holds.mem_links l).mp member
    rw [d.length_graph_nodes]
    exact (List.getElem?_eq_some_iff.mp starts).1
  case target_lt =>
    intro l member
    obtain ⟨-, ⟨⟨e, -, -, stops⟩, -⟩, -⟩ := (holds.mem_links l).mp member
    rw [d.length_graph_nodes]
    exact (List.getElem?_eq_some_iff.mp stops).1
  case single => exact holds.pairs_nodup

/-- A path has at most two points for each edge, and a link has the place of an edge. -/
theorem bounded_of_ofPath [Ruler] (finite : ∀ p ∈ path.ends, p.isFinite = true)
    (built : ofPath precision path = .ok g) :
    g.nodes.length ≤ 2 * path.length ∧ ∀ l ∈ g.links, l.order < path.length := by
  obtain ⟨d, holds, rfl⟩ := exists_draft_of_ofPath finite built
  constructor
  · rw [d.length_graph_nodes, holds.keys]
    calc (Path.distinctFrom [] (path.ends.map (rounded precision))).length
        ≤ (path.ends.map (rounded precision)).length := (Path.distinctFrom_sublist _ _).length_le
      _ = 2 * path.length := by simp [Path.ends, List.length_flatMap, Nat.mul_comm]
  · exact fun l member => Draft.lt_of_mem_edgesBetween ((holds.mem_links l).mp member).2.1.1

end Graph

end GrowthGrammar
