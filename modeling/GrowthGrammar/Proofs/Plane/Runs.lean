import Mathlib.Data.List.SplitBy
import Mathlib.Data.List.Forall2
import GrowthGrammar.Plane.Path
import GrowthGrammar.Proofs.Decimal.Absolute

/-!
# Runs and polylines

The runs of a path are its cut at the edges that do not start near the end of the one before.
That is the cut that `List.splitBy` makes (`Path.runs_eq_splitBy`): the runs follow on one another
and are the whole path, and none of them is empty.  A polyline has the start of its run and then
the end of each edge (`Path.traces_polylineOf`).

Main statement: the polylines of a path, whatever its coordinates are, trace a cut of the path
that joins what can be joined and nothing else (`Path.polylines_cut`).
-/

namespace GrowthGrammar

open Decimal.Binary64

/-! ## Edges that follow on one another -/

/-- The second edge starts near the end of the first: both coordinates differ by at most the
tolerance. -/
def Edge.LeadsTo (e f : Edge Float) : Prop :=
  (e.stop.x - f.start.x).abs ≤ tolerance ∧ (e.stop.y - f.start.y).abs ≤ tolerance

theorem isFinite_tolerance : tolerance.isFinite = true := by decide +kernel

theorem zero_le_tolerance : 0 ≤ value tolerance := by
  rw [← value_zero]
  exact (le_iff_value (by decide) isFinite_tolerance).mp (by decide +kernel)

theorem isSmall_tolerance_iff (d : Float) :
    Point.isSmall tolerance d = true ↔ d.abs ≤ tolerance := by
  rw [Point.isSmall, Bool.and_eq_true, decide_eq_true_iff, decide_eq_true_iff,
    abs_le_iff d isFinite_tolerance]

theorem isNear_tolerance_iff (e f : Edge Float) :
    e.stop.isNear tolerance f.start = true ↔ e.LeadsTo f := by
  rw [Point.isNear, Bool.and_eq_true, isSmall_tolerance_iff, isSmall_tolerance_iff, Edge.LeadsTo]

namespace Path

/-! ## Runs -/

section

variable {K : Type} [Sub K] [Neg K] [LE K] [DecidableLE K]

theorem splitByLoop_eq (near : K) (before : List (Edge K)) (last : Edge K) (path : Path K)
    (done : List (List (Edge K))) :
    List.splitBy.loop (fun e f => e.stop.isNear near f.start) path last before done =
      done.reverse ++ runsFrom near before last path := by
  induction path generalizing before last done with
  | nil => rw [List.splitBy.loop, List.reverse_cons, runsFrom]
  | cons e rest ih =>
    rw [List.splitBy.loop, runsFrom]
    split
    case h_1 follows => rw [ih, if_pos follows]
    case h_2 follows =>
      rw [ih, if_neg (Bool.eq_false_iff.mp follows), List.reverse_cons, List.append_assoc]
      rfl

/-- The runs of a path are its cut into the longest pieces that hold together. -/
theorem runs_eq_splitBy (near : K) (path : Path K) :
    path.runs near = path.splitBy fun e f => e.stop.isNear near f.start := by
  cases path with
  | nil => rfl
  | cons e rest => exact (splitByLoop_eq near [] e rest []).symm

/-- The runs of a path, one behind the other, are the path. -/
theorem flatten_runs (near : K) (path : Path K) : (path.runs near).flatten = path := by
  rw [runs_eq_splitBy, List.flatten_splitBy]

theorem ne_nil_of_mem_runs {near : K} {path : Path K} {run : List (Edge K)}
    (member : run ∈ path.runs near) : run ≠ [] := by
  rw [runs_eq_splitBy] at member
  exact List.ne_nil_of_mem_splitBy member

end

/-! ## Polylines -/

/-- A line has the points of some edges that follow on one another: the start of the first edge
and the end of each of them. -/
structure Traces (points : List (Point Float)) (run : List (Edge Float)) : Prop where
  /-- There is one more point than there are edges. -/
  length : points.length = run.length + 1
  /-- The line begins where the first edge starts. -/
  first : points[0]? = run[0]?.map Edge.start
  /-- It goes on to the end of each edge. -/
  later : ∀ k, points[k + 1]? = run[k]?.map Edge.stop

theorem traces_polylineOf {run : List (Edge Float)} (some : run ≠ []) :
    Traces (polylineOf run) run := by
  cases run with
  | nil => exact absurd rfl some
  | cons e rest => exact ⟨congrArg (· + 1) (List.length_map _), rfl, fun k => List.getElem?_map⟩

theorem mem_polylineOf {K : Type} {p : Point K} {run : List (Edge K)}
    (member : p ∈ polylineOf run) : ∃ e ∈ run, p = e.start ∨ p = e.stop := by
  cases run with
  | nil => cases member
  | cons e rest =>
    rcases List.mem_cons.mp member with rfl | stop
    · exact ⟨e, List.mem_cons_self, .inl rfl⟩
    · obtain ⟨e', member', rfl⟩ := List.mem_map.mp stop
      exact ⟨e', member', .inr rfl⟩

/-- The points of the polylines are end points of edges. -/
theorem mem_ends_of_mem_polylines {path : Path Float} {line : List (Point Float)}
    {p : Point Float} (drawn : line ∈ path.polylines) (member : p ∈ line) : p ∈ path.ends := by
  obtain ⟨run, runMember, rfl⟩ := List.mem_map.mp drawn
  obtain ⟨e, edgeMember, isEnd⟩ := mem_polylineOf member
  have edge : e ∈ path := by
    rw [← flatten_runs tolerance path]
    exact List.mem_flatten.mpr ⟨run, runMember, edgeMember⟩
  exact List.mem_flatMap.mpr ⟨e, edge, by rcases isEnd with rfl | rfl <;> simp⟩

/-- The edges of a run follow on one another. -/
theorem isChain_of_mem_runs {path : Path Float} {run : List (Edge Float)}
    (member : run ∈ path.runs tolerance) : run.IsChain Edge.LeadsTo := by
  rw [runs_eq_splitBy] at member
  exact (List.isChain_of_mem_splitBy member).imp fun e f => (isNear_tolerance_iff e f).mp

/-- The first edge of a run does not follow on the last one of the run before. -/
theorem isChain_runs (path : Path Float) : (path.runs tolerance).IsChain fun run next =>
    ∃ last ∈ run.getLast?, ∃ first ∈ next.head?, ¬ last.LeadsTo first := by
  rw [runs_eq_splitBy]
  refine (List.isChain_getLast_head_splitBy _ path).imp fun run next => ?_
  rintro ⟨someRun, someNext, apart⟩
  refine ⟨_, List.getLast?_eq_some_getLast someRun, _, List.head?_eq_some_head someNext, ?_⟩
  rw [← isNear_tolerance_iff, apart]
  exact Bool.false_ne_true

/-- Where one run ends and the next begins, an edge does not follow on the one before. -/
theorem exists_of_runs_eq_append {path : Path Float} {before after : List (List (Edge Float))}
    {run : List (Edge Float)} (cut : path.runs tolerance = before ++ run :: after)
    (nonempty : before ≠ []) : ∃ j e f, before.flatten.length = j + 1 ∧ path[j]? = some e ∧
      path[j + 1]? = some f ∧ ¬ e.LeadsTo f := by
  have chain := isChain_runs path
  have whole := flatten_runs tolerance path
  rw [cut] at chain whole
  obtain ⟨-, -, apart⟩ := List.isChain_append.mp chain
  obtain ⟨e, isLast, f, isFirst, notClose⟩ := apart _
    (List.getLast?_eq_some_getLast nonempty) run rfl
  obtain ⟨edges, prev⟩ := List.getLast?_eq_some_iff.mp isLast
  obtain ⟨rest, next⟩ := List.head?_eq_some_iff.mp isFirst
  have split : before.flatten = before.dropLast.flatten ++ edges ++ [e] := by
    conv_lhs => rw [← List.dropLast_append_getLast nonempty, prev]
    simp
  have path_eq : path = before.dropLast.flatten ++ edges ++ e :: f :: (rest ++ after.flatten) := by
    rw [← whole, List.flatten_append, split, List.flatten_cons, next]
    simp
  refine ⟨(before.dropLast.flatten ++ edges).length, e, f, ?_, ?_, ?_, notClose⟩
  · rw [split]
    exact List.length_append
  · rw [path_eq, List.getElem?_append_right le_rfl, Nat.sub_self]
    rfl
  · rw [path_eq, List.getElem?_append_right (Nat.le_add_right _ 1), Nat.add_sub_cancel_left]
    rfl

/-- The polylines of a path trace a cut of it into runs.  The runs, none of them empty, are the
path one behind the other; in a run each edge starts near the end of the one before, and the
first edge of a run does not start near the end of the run before, so no two neighbours could be
one line. -/
theorem polylines_cut (path : Path Float) :
    ∃ runs : List (List (Edge Float)), runs.flatten = path ∧ [] ∉ runs ∧
      List.Forall₂ Traces path.polylines runs ∧
      (∀ run ∈ runs, run.IsChain Edge.LeadsTo) ∧
      runs.IsChain fun run next =>
        ∃ last ∈ run.getLast?, ∃ first ∈ next.head?, ¬ last.LeadsTo first := by
  refine ⟨path.runs tolerance, flatten_runs tolerance path,
    fun member => ne_nil_of_mem_runs member rfl, ?_, fun run => isChain_of_mem_runs,
    isChain_runs path⟩
  rw [polylines, List.forall₂_map_left_iff, List.forall₂_same]
  exact fun run member => traces_polylineOf (ne_nil_of_mem_runs member)

end Path

end GrowthGrammar
