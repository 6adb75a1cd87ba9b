import Mathlib.Order.Bounds.Basic
import GrowthGrammar.Proofs.Drawing.Graph.Keys

/-!
# What a graph has

The graph of a path is told by the path alone (`ofPath_exact`).  Its nodes are the rounded
points without repetitions, in the order they are first met.  Two nodes are linked if they
differ and some edge of the path has their points as its rounded ends, and the link keeps
the place and the length of the first such edge.

A draft has that form after every edge (`Draft.Holds`).  One more edge can add nodes behind
the old ones, whose numbers stay, and its place is larger than all places before, so it is
the first between its nodes exactly if they are not linked yet.
-/

namespace GrowthGrammar.Graph

variable {precision : Int} {p : Point Float} {path done rest : Path Float}

/-! ## Points that can be rounded -/

theorem start_mem_ends {e : Edge Float} (member : e ∈ path) : e.start ∈ path.ends :=
  List.mem_flatMap_of_mem member (by simp)

theorem stop_mem_ends {e : Edge Float} (member : e ∈ path) : e.stop ∈ path.ends :=
  List.mem_flatMap_of_mem member (by simp)

/-- The end points of the path are finite and rounding them does not overflow. -/
def Roundable (precision : Int) (path : Path Float) : Prop :=
  ∀ p ∈ path.ends, p.isFinite = true ∧ keyOf precision p ≠ .error .overflow

theorem isOk_keyOf_iff :
    (keyOf precision p).isOk = true ↔ keyOf precision p ≠ .error .overflow := by
  rcases keyOf_cases precision p with ⟨key, found⟩ | overflow
  · simp [found, Except.isOk, Except.toBool]
  · simp [overflow, Except.isOk, Except.toBool]

instance (precision : Int) (path : Path Float) : Decidable (Roundable precision path) :=
  decidable_of_iff (∀ p ∈ path.ends, p.isFinite = true ∧ (keyOf precision p).isOk = true)
    (forall₂_congr fun _ _ => and_congr_right fun _ => isOk_keyOf_iff)

/-- The rounded point, or the point itself if rounding it overflows. -/
def rounded (precision : Int) (p : Point Float) : Point Float :=
  match keyOf precision p with
  | .ok key => key
  | .error _ => p

theorem keyOf_rounded (fits : keyOf precision p ≠ .error .overflow) :
    keyOf precision p = .ok (rounded precision p) := by
  rcases keyOf_cases precision p with ⟨key, found⟩ | overflow
  · rw [rounded, found]
  · exact absurd overflow fits

namespace Roundable

theorem left (fits : Roundable precision (done ++ rest)) : Roundable precision done :=
  fun p member => fits p (by
    rw [Path.ends, List.flatMap_append]
    exact List.mem_append_left _ member)

theorem keyOf_eq (fits : Roundable precision path) (member : p ∈ path.ends) :
    keyOf precision p = .ok (rounded precision p) := keyOf_rounded (fits p member).2

theorem tellsApart (fits : Roundable precision path) :
    Path.TellsApart (path.ends.map (rounded precision)) := by
  refine Point.tellsApart fun key member => ?_
  obtain ⟨p, inEnds, rfl⟩ := List.mem_map.mp member
  exact isPlain_of_keyOf (fits p inEnds).1 (fits.keyOf_eq inEnds)

end Roundable

/-! ## Numbers of points in a draft -/

namespace Draft

variable {d : Draft} {key : Point Float} {keys : List (Point Float)} {i j u v : Nat}

/-- The node has the rounded point as its place. -/
def StandsFor (precision : Int) (d : Draft) (id : Nat) (p : Point Float) : Prop :=
  d.keys.toList[id]? = some (rounded precision p)

/-- The places of the edges between two nodes in the path. -/
def edgesBetween (precision : Int) (path : Path Float) (d : Draft) (u v : Nat) : Set Nat :=
  {i | ∃ e, path[i]? = some e ∧ d.StandsFor precision u e.start ∧ d.StandsFor precision v e.stop}

theorem StandsFor.unique (distinct : d.keys.toList.Nodup) (first : d.StandsFor precision u p)
    (second : d.StandsFor precision v p) : u = v :=
  (List.getElem?_inj (List.getElem?_eq_some_iff.mp first).1 distinct).mp
    (first.trans second.symm)

theorem StandsFor.of_extends {d' : Draft} (extended : d.keys.toList <+: d'.keys.toList)
    (stands : d.StandsFor precision u p) : d'.StandsFor precision u p := by
  obtain ⟨bound, here⟩ := List.getElem?_eq_some_iff.mp stands
  rw [StandsFor, List.prefix_iff_getElem?.mp extended u bound, here]

theorem node_spec (keyed : d.keys.toList = Path.distinctFrom [] keys)
    (apart : Path.TellsApart (keys ++ [key])) :
    ∃ id d', d.node key = (id, d') ∧ d'.links = d.links ∧
      d'.keys.toList = Path.distinctFrom [] (keys ++ [key]) ∧ d'.keys.toList[id]? = some key := by
  have member : ∀ {k}, k ∈ d.keys.toList ↔ k ∈ keys := by
    intro k
    rw [keyed, Path.mem_distinctFrom (apart.mono (by simp))]
    simp
  rw [node]
  cases found : d.keys.findIdx? (· == key) with
  | some id =>
    obtain ⟨bound, same, -⟩ := Array.findIdx?_eq_some_iff_getElem.mp found
    have old : d.keys[id] ∈ keys := member.mp (Array.getElem_mem_toList bound)
    have here : d.keys[id] = key :=
      (apart _ (List.mem_append_left _ old) key (by simp)).mp same
    refine ⟨id, d, rfl, rfl, ?_, ?_⟩
    · rw [keyed, Path.distinctFrom_append_known apart (here ▸ old)]
    · rw [Array.getElem?_toList, Array.getElem?_eq_getElem bound, here]
  | none =>
    have new : key ∉ keys := by
      intro old
      have differs :=
        Array.findIdx?_eq_none_iff.mp found key (Array.mem_toList_iff.mp (member.mpr old))
      have same := (apart key (by simp) key (by simp)).mpr rfl
      simp [same] at differs
    refine ⟨d.keys.size, { d with keys := d.keys.push key }, rfl, rfl, ?_, by simp⟩
    rw [Array.toList_push, keyed, Path.distinctFrom_append_new apart (by simpa using new)]

/-! ## What holds of a draft -/

/-- What is larger than all members does not change which one is the least. -/
theorem isLeast_union_of_lt {S T : Set Nat} (some : S.Nonempty)
    (larger : ∀ i ∈ S, ∀ j ∈ T, i < j) {k : Nat} : IsLeast (S ∪ T) k ↔ IsLeast S k := by
  obtain ⟨i, inS⟩ := some
  constructor
  · rintro ⟨inS' | inT, lower⟩
    · exact ⟨inS', fun j inS => lower (.inl inS)⟩
    · exact absurd (lower (.inl inS)) (not_le.mpr (larger i inS k inT))
  · rintro ⟨inS', lower⟩
    refine ⟨.inl inS', ?_⟩
    rintro j (inS | inT)
    · exact lower inS
    · exact (larger k inS' j inT).le

/-- The draft is the one of the edges so far. -/
structure Holds [Ruler] (precision : Int) (path : Path Float) (d : Draft) : Prop where
  keys : d.keys.toList = Path.distinctFrom [] (path.ends.map (rounded precision))
  mem_links : ∀ l, l ∈ d.links.toList ↔ l.source ≠ l.target ∧
    IsLeast (d.edgesBetween precision path l.source l.target) l.order ∧
    path[l.order]?.map Edge.length = some l.length
  ordered : (d.links.toList.map Link.order).Pairwise (· < ·)

theorem lt_of_mem_edgesBetween (between : i ∈ d.edgesBetween precision path u v) :
    i < path.length := by
  obtain ⟨e, found, -⟩ := between
  exact (List.getElem?_eq_some_iff.mp found).1

namespace Holds

theorem empty [Ruler] : Draft.empty.Holds precision [] where
  keys := rfl
  mem_links l := by simp [Draft.empty]
  ordered := .nil

/-- There is a link where there is an edge. -/
theorem exists_link [Ruler] (holds : d.Holds precision path) :
    (∃ l ∈ d.links.toList, l.source = u ∧ l.target = v) ↔
      u ≠ v ∧ (d.edgesBetween precision path u v).Nonempty := by
  constructor
  · rintro ⟨l, member, rfl, rfl⟩
    obtain ⟨differ, least, -⟩ := (holds.mem_links l).mp member
    exact ⟨differ, l.order, least.1⟩
  · rintro ⟨differ, some⟩
    have least := isLeast_csInf some
    obtain ⟨e, found, -⟩ := least.1
    exact ⟨⟨u, v, _, e.length⟩, (holds.mem_links _).mpr ⟨differ, least, by rw [found]; rfl⟩,
      rfl, rfl⟩

theorem linked_iff [Ruler] (holds : d.Holds precision path) :
    d.linked u v = true ↔ u ≠ v ∧ (d.edgesBetween precision path u v).Nonempty := by
  rw [← holds.exists_link, linked, ← Array.any_toList, List.any_eq_true]
  simp only [Bool.and_eq_true, beq_iff_eq]

theorem link_unique [Ruler] (holds : d.Holds precision path) {l m : Link Nat}
    (inL : l ∈ d.links.toList)
    (inM : m ∈ d.links.toList) (source : l.source = m.source) (target : l.target = m.target) :
    l = m := by
  obtain ⟨-, leastL, lengthL⟩ := (holds.mem_links l).mp inL
  obtain ⟨-, leastM, lengthM⟩ := (holds.mem_links m).mp inM
  obtain ⟨ls, lt, lo, ll⟩ := l
  obtain ⟨ms, mt, mo, ml⟩ := m
  obtain rfl : ls = ms := source
  obtain rfl : lt = mt := target
  obtain rfl : lo = mo := leastL.unique leastM
  obtain rfl : ll = ml := Option.some.inj (lengthL.symm.trans lengthM)
  rfl

theorem pairs_nodup [Ruler] (holds : d.Holds precision path) :
    (d.links.toList.map fun l => (l.source, l.target)).Nodup := by
  refine (List.Nodup.of_map Link.order holds.ordered.nodup).map_on fun l inL m inM same => ?_
  exact holds.link_unique inL inM (Prod.ext_iff.mp same).1 (Prod.ext_iff.mp same).2

theorem keys_nodup [Ruler] (holds : d.Holds precision path)
    (apart : Path.TellsApart (path.ends.map (rounded precision))) : d.keys.toList.Nodup := by
  rw [holds.keys]
  exact Path.nodup_distinctFrom (by simpa using apart)

/-- Every end point has a node. -/
theorem exists_standsFor [Ruler] (holds : d.Holds precision path)
    (apart : Path.TellsApart (path.ends.map (rounded precision))) (member : p ∈ path.ends) :
    ∃ id, d.StandsFor precision id p := by
  have known : rounded precision p ∈ d.keys.toList := by
    rw [holds.keys, Path.mem_distinctFrom (by simpa using apart)]
    exact ⟨List.mem_map_of_mem member, List.not_mem_nil⟩
  exact List.mem_iff_getElem?.mp known

/-- The numbers of old points stay when nodes are added. -/
theorem standsFor_iff_of_extends [Ruler] {d' : Draft} (holds : d.Holds precision path)
    (extended : d.keys.toList <+: d'.keys.toList) (distinct : d'.keys.toList.Nodup)
    (apart : Path.TellsApart (path.ends.map (rounded precision))) (member : p ∈ path.ends) :
    d'.StandsFor precision u p ↔ d.StandsFor precision u p := by
  obtain ⟨j, here⟩ := holds.exists_standsFor apart member
  have kept : d'.StandsFor precision j p := StandsFor.of_extends extended here
  constructor
  · intro stands
    rwa [StandsFor.unique distinct stands kept]
  · exact StandsFor.of_extends extended

end Holds

/-! ## One more edge -/

@[simp] theorem link_keys (d : Draft) (l : Link Nat) : (d.link l).keys = d.keys := by
  rw [link]
  split <;> rfl

/-- A link is left out or stands behind all others. -/
theorem link_links (d : Draft) (l : Link Nat) :
    (d.link l).links.toList = d.links.toList ∨
      (d.link l).links.toList = d.links.toList ++ [l] := by
  rw [link]
  split
  · exact .inl rfl
  · exact .inr (Array.toList_push)

theorem edgesBetween_link (precision : Int) (path : Path Float) (d : Draft) (l : Link Nat)
    (u v : Nat) :
    (d.link l).edgesBetween precision path u v = d.edgesBetween precision path u v := by
  simp only [edgesBetween, StandsFor, link_keys]

theorem mem_link {l m : Link Nat} : m ∈ (d.link l).links.toList ↔
    m ∈ d.links.toList ∨ m = l ∧ l.source ≠ l.target ∧ d.linked l.source l.target = false := by
  rw [link]
  split
  case isTrue skipped =>
    rw [Bool.or_eq_true, beq_iff_eq] at skipped
    refine ⟨.inl, ?_⟩
    rintro (member | ⟨rfl, differ, fresh⟩)
    · exact member
    · rcases skipped with loop | linked
      · exact absurd loop differ
      · exact absurd linked (by simp [fresh])
  case isFalse added =>
    rw [Bool.not_eq_true, Bool.or_eq_false_iff, beq_eq_false_iff_ne] at added
    simp [added]

theorem ends_append_singleton (path : Path Float) (e : Edge Float) :
    Path.ends (path ++ [e]) = path.ends ++ [e.start, e.stop] := by
  rw [Path.ends, Path.ends, List.flatMap_append, List.flatMap_singleton]

theorem insert_eq [Ruler] {e : Edge Float} (fits : Roundable precision (path ++ [e]))
    (order : Nat) :
    d.insert precision order e =
      .ok (((d.node (rounded precision e.start)).2.node (rounded precision e.stop)).2.link
        ⟨(d.node (rounded precision e.start)).1,
          ((d.node (rounded precision e.start)).2.node (rounded precision e.stop)).1,
          order, e.length⟩) := by
  rw [insert, fits.keyOf_eq (by simp [ends_append_singleton]),
    fits.keyOf_eq (by simp [ends_append_singleton])]
  rfl

namespace Holds

variable {e : Edge Float} {s t : Nat} {d' : Draft}

/-- What is between two nodes after one more edge. -/
theorem edgesBetween_append [Ruler] (holds : d.Holds precision path)
    (apart : Path.TellsApart ((path ++ [e]).ends.map (rounded precision)))
    (keys : d'.keys.toList = Path.distinctFrom [] ((path ++ [e]).ends.map (rounded precision)))
    (starts : d'.StandsFor precision s e.start) (stops : d'.StandsFor precision t e.stop) :
    d'.edgesBetween precision (path ++ [e]) u v =
      d.edgesBetween precision path u v ∪ {i | i = path.length ∧ u = s ∧ v = t} := by
  have distinct : d'.keys.toList.Nodup := by
    rw [keys]
    exact Path.nodup_distinctFrom (by simpa using apart)
  have extended : d.keys.toList <+: d'.keys.toList := by
    rw [holds.keys, keys, ends_append_singleton, List.map_append]
    exact Path.distinctFrom_prefix_append _ _ _
  have before : ∀ {p w}, p ∈ path.ends →
      (d'.StandsFor precision w p ↔ d.StandsFor precision w p) := fun member =>
    holds.standsFor_iff_of_extends extended distinct
      (apart.mono (by rw [ends_append_singleton, List.map_append]; simp)) member
  ext i
  constructor
  · rintro ⟨e', found, start, stop⟩
    rcases Nat.lt_trichotomy i path.length with early | rfl | late
    · rw [List.getElem?_append_left early] at found
      have member := List.mem_of_getElem? found
      exact .inl ⟨e', found, (before (start_mem_ends member)).mp start,
        (before (stop_mem_ends member)).mp stop⟩
    · rw [List.getElem?_concat_length, Option.some.injEq] at found
      subst found
      exact .inr ⟨rfl, start.unique distinct starts, stop.unique distinct stops⟩
    · rw [List.getElem?_eq_none (by simpa using late)] at found
      cases found
  · rintro (⟨e', found, start, stop⟩ | ⟨rfl, rfl, rfl⟩)
    · have member := List.mem_of_getElem? found
      refine ⟨e', ?_, (before (start_mem_ends member)).mpr start,
        (before (stop_mem_ends member)).mpr stop⟩
      rw [List.getElem?_append_left (List.getElem?_eq_some_iff.mp found).1, found]
    · exact ⟨e, List.getElem?_concat_length, starts, stops⟩

/-- The links that one more edge leaves are those between the nodes of the longer path. -/
theorem link_mem_links [Ruler] (holds : d.Holds precision path) {l : Link Nat}
    (between : d'.edgesBetween precision (path ++ [e]) l.source l.target =
      d.edgesBetween precision path l.source l.target ∪
        {i | i = path.length ∧ l.source = s ∧ l.target = t}) :
    (l ∈ d.links.toList ∨
      l = ⟨s, t, path.length, e.length⟩ ∧ s ≠ t ∧ d.linked s t = false) ↔
    l.source ≠ l.target ∧
      IsLeast (d'.edgesBetween precision (path ++ [e]) l.source l.target) l.order ∧
      (path ++ [e])[l.order]?.map Edge.length = some l.length := by
  have earlier : ∀ {k}, k ∈ d.edgesBetween precision path l.source l.target →
      (path ++ [e])[k]? = path[k]? := fun member =>
    List.getElem?_append_left (lt_of_mem_edgesBetween member)
  rw [between]
  by_cases old : (d.edgesBetween precision path l.source l.target).Nonempty
  · -- the new edge is not the first between these nodes
    rw [isLeast_union_of_lt old (by rintro i inOld _ ⟨rfl, -⟩; exact lt_of_mem_edgesBetween inOld)]
    constructor
    · rintro (member | ⟨rfl, differ, fresh⟩)
      · obtain ⟨differ, least, length⟩ := (holds.mem_links l).mp member
        exact ⟨differ, least, by rwa [earlier least.1]⟩
      · exact absurd (holds.linked_iff.mpr ⟨differ, old⟩) (by simp [fresh])
    · rintro ⟨differ, least, length⟩
      rw [earlier least.1] at length
      exact .inl ((holds.mem_links l).mpr ⟨differ, least, length⟩)
  · have none := Set.not_nonempty_iff_eq_empty.mp old
    rw [none, Set.empty_union]
    constructor
    · rintro (member | ⟨rfl, differ, -⟩)
      · exact absurd ⟨l.order, ((holds.mem_links l).mp member).2.1.1⟩ old
      · refine ⟨differ, ⟨⟨rfl, rfl, rfl⟩, ?_⟩, by simp⟩
        rintro _ ⟨rfl, -⟩
        exact le_rfl
    · rintro ⟨differ, ⟨⟨order, source, target⟩, -⟩, length⟩
      obtain ⟨source', target', order', length'⟩ := l
      obtain rfl : source' = s := source
      obtain rfl : target' = t := target
      obtain rfl : order' = path.length := order
      rw [List.getElem?_concat_length, Option.map_some, Option.some.injEq] at length
      have fresh : d.linked source' target' = false := by
        rw [← Bool.not_eq_true, holds.linked_iff]
        exact fun linked => old linked.2
      exact .inr ⟨by rw [length], differ, fresh⟩

/-- A draft still holds after one more edge. -/
theorem insert [Ruler] (holds : d.Holds precision path) (fits : Roundable precision (path ++ [e])) :
    ∃ d', d.insert precision path.length e = .ok d' ∧ d'.Holds precision (path ++ [e]) := by
  have apart := fits.tellsApart
  have ends : (path ++ [e]).ends.map (rounded precision) =
      path.ends.map (rounded precision) ++ [rounded precision e.start] ++
        [rounded precision e.stop] := by
    rw [ends_append_singleton, List.map_append, List.append_assoc]
    rfl
  rw [ends] at apart
  obtain ⟨s, d₁, first, links₁, keys₁, here₁⟩ := node_spec holds.keys
    (apart.mono (List.subset_append_left _ _))
  obtain ⟨t, d₂, second, links₂, keys₂, here₂⟩ := node_spec keys₁ apart
  rw [← ends] at apart keys₂
  refine ⟨d₂.link ⟨s, t, path.length, e.length⟩, ?_, ?_⟩
  · rw [insert_eq fits, first, second]
  have links : d₂.links = d.links := links₂.trans links₁
  have starts : d₂.StandsFor precision s e.start := by
    refine StandsFor.of_extends ?_ here₁
    rw [keys₁, keys₂, ends]
    exact Path.distinctFrom_prefix_append _ _ _
  have between := fun u v => holds.edgesBetween_append apart keys₂ starts here₂ (u := u) (v := v)
  have linked : d₂.linked s t = d.linked s t := by rw [Draft.linked, Draft.linked, links]
  constructor
  case keys => rw [link_keys, keys₂]
  case mem_links =>
    intro l
    rw [mem_link, links, linked, edgesBetween_link]
    exact holds.link_mem_links (between l.source l.target)
  case ordered =>
    rcases d₂.link_links ⟨s, t, path.length, e.length⟩ with same | added
    · rw [same, links]
      exact holds.ordered
    · rw [added, links, List.map_append, List.pairwise_append]
      refine ⟨holds.ordered, List.pairwise_singleton _ _, ?_⟩
      rintro _ inOld _ inNew
      obtain ⟨l, member, rfl⟩ := List.mem_map.mp inOld
      obtain rfl := List.mem_singleton.mp inNew
      exact lt_of_mem_edgesBetween ((holds.mem_links l).mp member).2.1.1

end Holds

/-- Edges after edges. -/
theorem insertFrom_holds [Ruler] (holds : d.Holds precision done)
    (fits : Roundable precision (done ++ rest)) :
    ∃ d', d.insertFrom precision done.length rest = .ok d' ∧
      d'.Holds precision (done ++ rest) := by
  induction rest generalizing d done with
  | nil => exact ⟨d, rfl, by rwa [List.append_nil]⟩
  | cons e rest ih =>
    rw [List.append_cons] at fits ⊢
    obtain ⟨next, entered, holdsNext⟩ := holds.insert fits.left
    obtain ⟨last, went, holdsLast⟩ := ih holdsNext fits
    refine ⟨last, ?_, holdsLast⟩
    rw [insertFrom, entered]
    rwa [List.length_append] at went

theorem fits_of_insert [Ruler] {order : Nat} {e : Edge Float} {d' : Draft}
    (entered : d.insert precision order e = .ok d') :
    ∀ p ∈ [e.start, e.stop], keyOf precision p ≠ .error .overflow := by
  rintro p member overflow
  rw [insert] at entered
  rcases List.mem_pair.mp member with rfl | rfl
  · rw [overflow] at entered
    cases entered
  · rcases keyOf_cases precision e.start with ⟨key, found⟩ | startOverflow
    · rw [found, overflow] at entered
      cases entered
    · rw [startOverflow] at entered
      cases entered

/-- Edges are entered only if their end points can be rounded. -/
theorem fits_of_insertFrom [Ruler] {order : Nat} {d' : Draft}
    (went : d.insertFrom precision order path = .ok d') :
    ∀ p ∈ path.ends, keyOf precision p ≠ .error .overflow := by
  induction path generalizing d order with
  | nil => rintro p ⟨⟩
  | cons e rest ih =>
    rw [insertFrom] at went
    cases entered : d.insert precision order e with
    | error e =>
      rw [entered] at went
      cases went
    | ok next =>
      rw [entered] at went
      intro p member
      rcases List.mem_append.mp member with atEdge | later
      · exact fits_of_insert entered p atEdge
      · exact ih went p later

theorem exists_holds [Ruler] (fits : Roundable precision path) :
    ∃ d, Draft.empty.insertFrom precision 0 path = .ok d ∧ d.Holds precision path := by
  have start : Draft.empty.Holds precision [] := Holds.empty
  exact insertFrom_holds start fits

end Draft

/-! ## The graph of a path -/

/-- A loop goes through if every round does. -/
theorem mapM_ok {ε α β : Type} {f : α → Except ε β} {h : α → β} {items : List α}
    (each : ∀ a ∈ items, f a = .ok (h a)) : items.mapM f = .ok (items.map h) := by
  induction items with
  | nil => rfl
  | cons a rest ih =>
    obtain ⟨here, later⟩ := List.forall_mem_cons.mp each
    rw [List.mapM_cons, here, ih later]
    rfl

/-- The node with this number has the rounded point as its place. -/
def StandsFor (precision : Int) (g : Graph Nat) (id : Nat) (p : Point Float) : Prop :=
  ∃ key, keyOf precision p = .ok key ∧ ⟨id, key⟩ ∈ g.nodes

/-- The places of the edges between two nodes in the path. -/
def edgesBetween (precision : Int) (path : Path Float) (g : Graph Nat) (u v : Nat) : Set Nat :=
  {i | ∃ e, path[i]? = some e ∧ g.StandsFor precision u e.start ∧ g.StandsFor precision v e.stop}

/-- The graph is the one that the path tells. -/
structure IsOf [Ruler] (precision : Int) (path : Path Float) (g : Graph Nat) : Prop where
  /-- The nodes are numbered in their order. -/
  ids : g.nodes.map Node.id = List.range g.nodes.length
  /-- Their places are the rounded points in the order they are first met. -/
  places : ∃ keys, path.points.mapM (keyOf precision) = .ok keys ∧
    g.nodes.map Node.place = Path.distinctFrom [] keys
  /-- No two nodes have equal places. -/
  apart : (g.nodes.map Node.place).Pairwise fun p q => (p == q) = false
  /-- Every end point of the path has a node. -/
  ends : ∀ p ∈ path.ends, ∃ id, g.StandsFor precision id p
  /-- There is a link from one node to another one where the path has an edge. -/
  linked_iff : ∀ u v, (∃ l ∈ g.links, l.source = u ∧ l.target = v) ↔
    u ≠ v ∧ (g.edgesBetween precision path u v).Nonempty
  /-- It has the place of the first such edge. -/
  order : ∀ l ∈ g.links, IsLeast (g.edgesBetween precision path l.source l.target) l.order
  /-- It has the length of that edge. -/
  length : ∀ l ∈ g.links, path[l.order]?.map Edge.length = some l.length
  /-- No link is a loop. -/
  loopless : ∀ l ∈ g.links, l.source ≠ l.target
  /-- There is at most one link from one node to another one. -/
  single : (g.links.map fun l => (l.source, l.target)).Nodup
  /-- The places are different, and later links have later ones. -/
  ordered : (g.links.map Link.order).Pairwise (· < ·)

theorem Draft.mem_graph_nodes {d : Draft} {id : Nat} {key : Point Float} :
    ⟨id, key⟩ ∈ d.graph.nodes ↔ d.keys.toList[id]? = some key := by
  rw [Draft.graph, List.mem_mapIdx, List.getElem?_eq_some_iff]
  constructor
  · rintro ⟨i, bound, same⟩
    cases same
    exact ⟨bound, rfl⟩
  · rintro ⟨bound, rfl⟩
    exact ⟨id, bound, rfl⟩

theorem Draft.graph_ids (d : Draft) :
    d.graph.nodes.map Node.id = List.range d.graph.nodes.length :=
  List.ext_getElem (by simp) (by simp [Draft.graph])

theorem Draft.graph_places (d : Draft) : d.graph.nodes.map Node.place = d.keys.toList :=
  List.ext_getElem (by simp [Draft.graph]) (by simp [Draft.graph])

theorem points_subset_ends (path : Path Float) : path.points ⊆ path.ends :=
  (Path.distinctFrom_sublist [] path.ends).subset

/-- Points that compare as equal have the same rounded point. -/
theorem distinctFrom_map_points (fits : Roundable precision path) :
    Path.distinctFrom [] (path.points.map (rounded precision)) =
      Path.distinctFrom [] (path.ends.map (rounded precision)) := by
  refine Path.distinctFrom_map_distinctFrom fits.tellsApart (by simp) fun p member q equal => ?_
  have finite := (fits p member).1
  have same := (keyOf_congr finite equal precision).trans (fits.keyOf_eq member)
  rw [rounded, same]

theorem Draft.graph_standsFor {d : Draft} {id : Nat} (fits : Roundable precision path)
    (member : p ∈ path.ends) :
    d.graph.StandsFor precision id p ↔ d.StandsFor precision id p := by
  rw [Graph.StandsFor, fits.keyOf_eq member]
  constructor
  · rintro ⟨_, ⟨⟩, node⟩
    exact mem_graph_nodes.mp node
  · intro stands
    exact ⟨_, rfl, mem_graph_nodes.mpr stands⟩

theorem Draft.graph_edgesBetween {d : Draft} (fits : Roundable precision path) (u v : Nat) :
    d.graph.edgesBetween precision path u v = d.edgesBetween precision path u v := by
  ext i
  refine exists_congr fun e => and_congr_right fun found => ?_
  have member := List.mem_of_getElem? found
  rw [graph_standsFor fits (start_mem_ends member), graph_standsFor fits (stop_mem_ends member)]

/-- The graph of a path is the one that the path tells. -/
theorem ofPath_isOf [Ruler] (fits : Roundable precision path) :
    ∃ g, ofPath precision path = .ok g ∧ g.IsOf precision path := by
  obtain ⟨d, drafted, holds⟩ := Draft.exists_holds fits
  refine ⟨d.graph, by rw [ofPath, drafted]; rfl, ?_⟩
  have keysApart : Path.TellsApart d.keys.toList := by
    rw [holds.keys]
    exact fits.tellsApart.mono (Path.distinctFrom_sublist _ _).subset
  constructor
  case ids => exact d.graph_ids
  case places =>
    refine ⟨_, mapM_ok fun p member => fits.keyOf_eq (points_subset_ends path member), ?_⟩
    rw [d.graph_places, holds.keys, distinctFrom_map_points fits]
  case apart =>
    rw [d.graph_places]
    refine (holds.keys_nodup fits.tellsApart).imp_of_mem fun inP inQ differ => ?_
    rw [← Bool.not_eq_true, keysApart _ inP _ inQ]
    exact differ
  case ends =>
    intro p member
    obtain ⟨id, here⟩ := holds.exists_standsFor fits.tellsApart member
    exact ⟨id, (Draft.graph_standsFor fits member).mpr here⟩
  case linked_iff =>
    intro u v
    rw [Draft.graph_edgesBetween fits]
    exact holds.exists_link
  case order =>
    intro l member
    rw [Draft.graph_edgesBetween fits]
    exact ((holds.mem_links l).mp member).2.1
  case length => exact fun l member => ((holds.mem_links l).mp member).2.2
  case loopless => exact fun l member => ((holds.mem_links l).mp member).1
  case single => exact holds.pairs_nodup
  case ordered => exact holds.ordered

/-- A line that is drawn, retraced and drawn again, and one that is too short for six
places. -/
theorem ofPath_isOf_retraced :
    Roundable 6 [⟨⟨0, 0⟩, ⟨1, 0⟩⟩, ⟨⟨1, 0⟩, ⟨0, 0⟩⟩, ⟨⟨0, 0⟩, ⟨1, 0⟩⟩, ⟨⟨1, 0⟩, ⟨1.00000001, 0⟩⟩] ∧
    ∃ g, ofPath 6
        [⟨⟨0, 0⟩, ⟨1, 0⟩⟩, ⟨⟨1, 0⟩, ⟨0, 0⟩⟩, ⟨⟨0, 0⟩, ⟨1, 0⟩⟩, ⟨⟨1, 0⟩, ⟨1.00000001, 0⟩⟩] = .ok g ∧
      g.IsOf 6
        [⟨⟨0, 0⟩, ⟨1, 0⟩⟩, ⟨⟨1, 0⟩, ⟨0, 0⟩⟩, ⟨⟨0, 0⟩, ⟨1, 0⟩⟩, ⟨⟨1, 0⟩, ⟨1.00000001, 0⟩⟩] :=
  have fits : Roundable 6
      [⟨⟨0, 0⟩, ⟨1, 0⟩⟩, ⟨⟨1, 0⟩, ⟨0, 0⟩⟩, ⟨⟨0, 0⟩, ⟨1, 0⟩⟩, ⟨⟨1, 0⟩, ⟨1.00000001, 0⟩⟩] := by
    decide +kernel
  ⟨fits, ofPath_isOf fits⟩

end GrowthGrammar.Graph
