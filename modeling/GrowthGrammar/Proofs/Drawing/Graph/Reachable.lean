import Mathlib.Logic.Relation
import GrowthGrammar.Proofs.Drawing.Graph.Exact
import GrowthGrammar.Proofs.Turtle.Growth

/-!
# Graphs of drawings that grow

If every edge of a path starts where the path starts or where an earlier edge ends, every
node of its graph can be reached from the first one along links (`Draft.Holds.reachable`).
Edges that are no links do no harm: one that is too short has a single node, and one that
repeats others has the nodes of a link.

A turtle that moves only when it draws draws such paths (`TurtleSettings.reachable_of_walk`).
-/

namespace GrowthGrammar

namespace Graph

variable {precision : Int} {path : Path Float} {origin : Point Float}

/-- There is a link from one node to the other. -/
def Linked (links : List (Link Nat)) (u v : Nat) : Prop :=
  ∃ l ∈ links, l.source = u ∧ l.target = v

namespace Draft

variable {d : Draft}

namespace Holds

/-- The first point of a path has the first node. -/
theorem standsFor_zero [Ruler] {e : Edge Float} {rest : Path Float}
    (holds : d.Holds precision (e :: rest)) : d.StandsFor precision 0 e.start := by
  rw [StandsFor, holds.keys]
  rfl

/-- An edge leads from its first node to its second one. -/
theorem reachable_stop [Ruler] {i : Nat} {e : Edge Float} {u v : Nat}
    (holds : d.Holds precision path)
    (found : path[i]? = some e) (starts : d.StandsFor precision u e.start)
    (stops : d.StandsFor precision v e.stop) :
    Relation.ReflTransGen (Linked d.links.toList) u v := by
  by_cases loop : u = v
  · rw [loop]
  · exact .single (holds.exists_link.mpr ⟨loop, i, e, found, starts, stops⟩)

theorem reachable_edge [Ruler] (holds : d.Holds precision path) (fits : Roundable precision path)
    (grows : path.GrowsFrom origin) (first : d.StandsFor precision 0 origin) (i : Nat) :
    ∀ (e : Edge Float) (u v : Nat), path[i]? = some e → d.StandsFor precision u e.start →
      d.StandsFor precision v e.stop →
      Relation.ReflTransGen (Linked d.links.toList) 0 u ∧
        Relation.ReflTransGen (Linked d.links.toList) 0 v := by
  have distinct := holds.keys_nodup fits.tellsApart
  induction i using Nat.strong_induction_on with
  | _ i ih =>
    intro e u v found starts stops
    have start : Relation.ReflTransGen (Linked d.links.toList) 0 u := by
      rcases grows i e found with here | ⟨j, f, earlier, drawn, here⟩
      · rw [here] at starts
        rw [starts.unique distinct first]
      · rw [← here] at starts
        obtain ⟨w, before⟩ := holds.exists_standsFor fits.tellsApart
          (start_mem_ends (List.mem_of_getElem? drawn))
        exact (ih j earlier f w u drawn before starts).2
    exact ⟨start, start.trans (holds.reachable_stop found starts stops)⟩

/-- Every node can be reached from the first one. -/
theorem reachable [Ruler] (holds : d.Holds precision path) (fits : Roundable precision path)
    (grows : path.GrowsFrom origin) (first : d.StandsFor precision 0 origin)
    {n : Node Nat} (member : n ∈ d.graph.nodes) :
    Relation.ReflTransGen (Linked d.links.toList) 0 n.id := by
  have place : d.keys.toList[n.id]? = some n.place := mem_graph_nodes.mp member
  have known : n.place ∈ path.ends.map (rounded precision) := by
    have inKeys := List.mem_of_getElem? place
    rw [holds.keys] at inKeys
    exact (Path.distinctFrom_sublist _ _).subset inKeys
  obtain ⟨p, inEnds, round⟩ := List.mem_map.mp known
  have stands : d.StandsFor precision n.id p := place.trans (congrArg some round.symm)
  obtain ⟨e, inPath, isEnd⟩ := List.mem_flatMap.mp inEnds
  obtain ⟨i, found⟩ := List.mem_iff_getElem?.mp inPath
  obtain ⟨u, starts⟩ := holds.exists_standsFor fits.tellsApart (start_mem_ends inPath)
  obtain ⟨v, stops⟩ := holds.exists_standsFor fits.tellsApart (stop_mem_ends inPath)
  obtain ⟨toStart, toStop⟩ := holds.reachable_edge fits grows first i e u v found starts stops
  have distinct := holds.keys_nodup fits.tellsApart
  rcases List.mem_pair.mp isEnd with rfl | rfl
  · rwa [stands.unique distinct starts]
  · rwa [stands.unique distinct stops]

end Holds

end Draft

end Graph

namespace TurtleSettings

variable {s : TurtleSettings} {w : Word} {start : Option (Pose Float)} {path : Path Float}

/-- A turtle that moves only when it draws starts every edge at its own start or where it has
drawn to, and every node of the graph can be reached from that of the start. -/
theorem reachable_of_walk [Ruler] (walked : s.walk w start = .ok path)
    (still : ∀ symbol ∈ w, s.actionOf symbol.name ≠ .move) :
    path.GrowsFrom (start.getD s.startPose).position ∧
    (path ≠ [] → ∀ precision, Graph.Roundable precision path →
      ∃ g key, Graph.ofPath precision path = .ok g ∧
        Graph.keyOf precision (start.getD s.startPose).position = .ok key ∧
        g.nodes[0]? = some ⟨0, key⟩ ∧
        ∀ n ∈ g.nodes, Relation.ReflTransGen (Graph.Linked g.links) 0 n.id) := by
  have grows := growsFrom_of_walk still walked
  refine ⟨grows, fun some precision fits => ?_⟩
  obtain ⟨d, drafted, holds⟩ := Graph.Draft.exists_holds fits
  cases path with
  | nil => exact absurd rfl some
  | cons e rest =>
    -- no edge is before the first one, so it starts at the origin
    have here : e.start = (start.getD s.startPose).position := by
      rcases grows 0 e rfl with here | ⟨j, f, earlier, -⟩
      · exact here
      · exact absurd earlier (Nat.not_lt_zero j)
    have first := holds.standsFor_zero
    have inEnds : e.start ∈ Path.ends (e :: rest) := Graph.start_mem_ends List.mem_cons_self
    refine ⟨d.graph, Graph.rounded precision e.start, by rw [Graph.ofPath, drafted]; rfl, ?_,
      ?_, ?_⟩
    · rw [← here, fits.keyOf_eq inEnds]
    · rw [Graph.Draft.graph, List.getElem?_mapIdx, first]
      rfl
    · rw [here] at first
      exact fun n member => holds.reachable fits grows first member

/-- A stem with a branch on which it goes on as well. -/
theorem reachable_of_walk_branch :
    ∃ path g key,
      standard.walk [⟨0, "F"⟩, ⟨1, "["⟩, ⟨0, "F"⟩, ⟨2, "]"⟩, ⟨0, "F"⟩] none = .ok path ∧
      path ≠ [] ∧ Graph.Roundable 6 path ∧ path.GrowsFrom standard.startPose.position ∧
      Graph.ofPath 6 path = .ok g ∧
      Graph.keyOf 6 standard.startPose.position = .ok key ∧ g.nodes[0]? = some ⟨0, key⟩ ∧
      ∀ n ∈ g.nodes, Relation.ReflTransGen (Graph.Linked g.links) 0 n.id := by
  have walked : standard.walk [⟨0, "F"⟩, ⟨1, "["⟩, ⟨0, "F"⟩, ⟨2, "]"⟩, ⟨0, "F"⟩] none =
      .ok [⟨⟨0, 0⟩, ⟨0, 1⟩⟩, ⟨⟨0, 1⟩, ⟨0, 2⟩⟩, ⟨⟨0, 1⟩, ⟨0, 2⟩⟩] :=
    walk_of_toOption (by decide +kernel)
  have fits : Graph.Roundable 6 [⟨⟨0, 0⟩, ⟨0, 1⟩⟩, ⟨⟨0, 1⟩, ⟨0, 2⟩⟩, ⟨⟨0, 1⟩, ⟨0, 2⟩⟩] := by
    decide +kernel
  obtain ⟨grows, connected⟩ := reachable_of_walk walked (by decide +kernel)
  obtain ⟨g, key, built, rounded, first, reach⟩ := connected (List.cons_ne_nil _ _) 6 fits
  exact ⟨_, g, key, walked, List.cons_ne_nil _ _, fits, grows, built, rounded, first, reach⟩

end TurtleSettings

end GrowthGrammar
