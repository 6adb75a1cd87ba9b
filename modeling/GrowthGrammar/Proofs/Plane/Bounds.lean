import GrowthGrammar.Plane.Path
import GrowthGrammar.Proofs.Decimal.Order

/-!
# The bounds of a path

The bounds of a path are four folds over the coordinates of its end points
(`Path.bounds?_eq_foldl`).  In exact arithmetic they are the least box that covers every end
point (`Path.spans_of_bounds?`).  With doubles nothing is rounded, so the values of the bounds are
the bounds of the values (`Path.bounds?_value`).

What is no number stays in the folds, and a coordinate that is infinite ends up as a bound.  So
a box with finite sides is the box of a path with finite coordinates
(`Path.isFinite_of_bounds?`).
-/

namespace GrowthGrammar

open Decimal.Binary64

/-! ## The lesser and the greater of two numbers -/

theorem lesser_eq_min (a b : ℚ) : lesser a b = min a b := by
  rw [min_comm, min_def_lt]
  simp [lesser]

theorem greater_eq_max (a b : ℚ) : greater a b = max a b := by
  rw [max_def_lt]
  simp [greater]

section

variable {a b : Float}

theorem atBottom_lesser (bottom : AtBottom a ∨ AtBottom b) : AtBottom (lesser a b) := by
  rw [lesser]
  by_cases numberA : (a == a) = true
  · by_cases numberB : (b == b) = true
    · by_cases below : b < a
      · rw [if_pos (by simp [numberA, below])]
        exact bottom.resolve_left (not_atBottom_of_lt below)
      · rw [if_neg (by simp [below, numberB])]
        exact bottom.elim id fun bottomB => atBottom_of_not_lt bottomB numberB below
    · rw [if_pos (by simp [numberA, Bool.eq_false_iff.mpr numberB])]
      exact atBottom_of_not_beq numberB
  · rw [if_neg (by simp [numberA])]
    exact atBottom_of_not_beq numberA

theorem atTop_greater (top : AtTop a ∨ AtTop b) : AtTop (greater a b) := by
  rw [greater]
  by_cases numberA : (a == a) = true
  · by_cases numberB : (b == b) = true
    · by_cases above : a < b
      · rw [if_pos (by simp [numberA, above])]
        exact top.resolve_left (not_atTop_of_lt above)
      · rw [if_neg (by simp [above, numberB])]
        exact top.elim id fun topB => atTop_of_not_lt topB numberB above
    · rw [if_pos (by simp [numberA, Bool.eq_false_iff.mpr numberB])]
      exact atTop_of_not_beq numberB
  · rw [if_neg (by simp [numberA])]
    exact atTop_of_not_beq numberA

variable (finiteA : a.isFinite = true) (finiteB : b.isFinite = true)

include finiteA finiteB

/-- Of two finite doubles, the lesser one has the lesser value. -/
theorem value_lesser : (lesser a b).isFinite = true ∧ value (lesser a b) =
    lesser (value a) (value b) := by
  have numberA := beq_self finiteA
  have numberB := beq_self finiteB
  simp only [lesser, numberA, numberB, Bool.true_and, Bool.not_true, Bool.or_false,
    decide_eq_true_eq, lt_iff_value finiteB finiteA, BEq.rfl]
  split
  · exact ⟨finiteB, rfl⟩
  · exact ⟨finiteA, rfl⟩

theorem value_greater : (greater a b).isFinite = true ∧ value (greater a b) =
    greater (value a) (value b) := by
  have numberA := beq_self finiteA
  have numberB := beq_self finiteB
  simp only [greater, numberA, numberB, Bool.true_and, Bool.not_true, Bool.or_false,
    decide_eq_true_eq, lt_iff_value finiteA finiteB, BEq.rfl]
  split
  · exact ⟨finiteB, rfl⟩
  · exact ⟨finiteA, rfl⟩

end

/-! ## The least and the greatest of a list -/

/-- A property that an operation takes over from either side is taken over from any element of
a fold. -/
theorem foldl_of_exists {α : Type} {P : α → Prop} {op : α → α → α}
    (keeps : ∀ {a b : α}, P a ∨ P b → P (op a b)) {a : α} {xs : List α}
    (some : ∃ x ∈ a :: xs, P x) : P (xs.foldl op a) := by
  induction xs generalizing a with
  | nil => simpa using some
  | cons x rest ih =>
    refine ih ?_
    obtain ⟨y, member, holds⟩ := some
    rcases List.mem_cons.mp member with rfl | member
    · exact ⟨_, List.mem_cons_self, keeps (.inl holds)⟩
    rcases List.mem_cons.mp member with rfl | member
    · exact ⟨_, List.mem_cons_self, keeps (.inr holds)⟩
    · exact ⟨y, List.mem_cons_of_mem _ member, holds⟩

/-- A fold of an operation that chooses one of two ends at an element. -/
theorem foldl_mem_of_choice {α : Type} {op : α → α → α}
    (chooses : ∀ a b : α, op a b = a ∨ op a b = b) (a : α) (xs : List α) :
    xs.foldl op a ∈ a :: xs := by
  induction xs generalizing a with
  | nil => exact List.mem_singleton_self a
  | cons x rest ih =>
    rw [List.foldl_cons]
    rcases List.mem_cons.mp (ih (op a x)) with same | later
    · rw [same]
      rcases chooses a x with same | same <;> rw [same] <;> simp
    · exact List.mem_cons_of_mem _ (List.mem_cons_of_mem _ later)

section

variable {a : Float} {xs : List Float}

/-- A list whose least and greatest doubles are finite has finite doubles only. -/
theorem isFinite_of_foldl (least : (xs.foldl lesser a).isFinite = true)
    (greatest : (xs.foldl greater a).isFinite = true) : ∀ x ∈ a :: xs, x.isFinite = true := by
  intro x member
  rw [isFinite_iff_inside] at least greatest ⊢
  exact ⟨fun bottom =>
      least.1 (foldl_of_exists (P := AtBottom) atBottom_lesser ⟨x, member, bottom⟩),
    fun top => greatest.2 (foldl_of_exists (P := AtTop) atTop_greater ⟨x, member, top⟩)⟩

/-- A fold of finite doubles follows the fold of their values if each of its steps does. -/
theorem value_foldl {op : Float → Float → Float} {op' : ℚ → ℚ → ℚ}
    (follows : ∀ {a b : Float}, a.isFinite = true → b.isFinite = true →
      (op a b).isFinite = true ∧ value (op a b) = op' (value a) (value b))
    (finite : ∀ x ∈ a :: xs, x.isFinite = true) :
    value (xs.foldl op a) = (xs.map value).foldl op' (value a) := by
  induction xs generalizing a with
  | nil => rfl
  | cons x rest ih =>
    obtain ⟨finiteA, finiteX, others⟩ := List.forall_mem_cons.mp finite |>.imp_right
      List.forall_mem_cons.mp
    obtain ⟨here, value_eq⟩ := follows finiteA finiteX
    rw [List.foldl_cons, ih (List.forall_mem_cons.mpr ⟨here, others⟩), value_eq]
    rfl

end

section

variable {a x : ℚ} {xs : List ℚ} (member : x ∈ a :: xs)

include member

theorem foldl_lesser_le : xs.foldl lesser a ≤ x := by
  refine foldl_of_exists (P := (· ≤ x)) (fun below => ?_) ⟨x, member, le_rfl⟩
  rwa [lesser_eq_min, min_le_iff]

theorem le_foldl_greater : x ≤ xs.foldl greater a := by
  refine foldl_of_exists (P := (x ≤ ·)) (fun above => ?_) ⟨x, member, le_rfl⟩
  rwa [greater_eq_max, le_max_iff]

end

/-! ## Bounds as folds -/

section

variable {K : Type} [BEq K] [LT K] [DecidableLT K]

theorem Bounds.foldl_insert (b : Bounds K) (ps : List (Point K)) :
    ps.foldl Bounds.insert b =
      ⟨(ps.map Point.x).foldl lesser b.minX, (ps.map Point.y).foldl lesser b.minY,
        (ps.map Point.x).foldl greater b.maxX, (ps.map Point.y).foldl greater b.maxY⟩ := by
  induction ps generalizing b with
  | nil => rfl
  | cons p rest ih =>
    rw [List.foldl_cons, ih]
    rfl

theorem Path.boundsFrom_eq_foldl (b : Bounds K) (path : Path K) :
    path.boundsFrom b = path.ends.foldl Bounds.insert b := by
  induction path generalizing b with
  | nil => rfl
  | cons e rest ih =>
    rw [Path.boundsFrom, ih]
    rfl

/-- The bounds of a path are folds over the coordinates of its end points, from the first
one on. -/
theorem Path.bounds?_eq_foldl (path : Path K) :
    path.bounds? = path.ends.head?.map fun p =>
      ⟨(path.ends.map Point.x).foldl lesser p.x, (path.ends.map Point.y).foldl lesser p.y,
        (path.ends.map Point.x).foldl greater p.x, (path.ends.map Point.y).foldl greater p.y⟩ := by
  cases path with
  | nil => rfl
  | cons e rest =>
    rw [Path.bounds?, Path.boundsFrom_eq_foldl, Bounds.foldl_insert]
    rfl

end

/-! ## Points within the bounds -/

/-- A box covers a point. -/
structure Bounds.Covers (b : Bounds ℚ) (p : Point ℚ) : Prop where
  /-- It is not left of the box. -/
  left : b.minX ≤ p.x
  /-- It is not right of the box. -/
  right : p.x ≤ b.maxX
  /-- It is not below the box. -/
  below : b.minY ≤ p.y
  /-- It is not above the box. -/
  above : p.y ≤ b.maxY

/-- The bounds of a path cover its end points. -/
theorem Path.covers_of_bounds? {path : Path ℚ} {b : Bounds ℚ} (bounded : path.bounds? = some b) :
    ∀ p ∈ path.ends, b.Covers p := by
  rw [Path.bounds?_eq_foldl, Option.map_eq_some_iff] at bounded
  obtain ⟨first, -, rfl⟩ := bounded
  intro p member
  have memberX := List.mem_cons_of_mem first.x (List.mem_map_of_mem (f := Point.x) member)
  have memberY := List.mem_cons_of_mem first.y (List.mem_map_of_mem (f := Point.y) member)
  exact ⟨foldl_lesser_le memberX, le_foldl_greater memberX, foldl_lesser_le memberY,
    le_foldl_greater memberY⟩

/-- A box is the least one that covers some points: it covers them, and each of its sides goes
through one. -/
structure Bounds.Spans (b : Bounds ℚ) (ps : List (Point ℚ)) : Prop where
  /-- It covers the points. -/
  covers : ∀ p ∈ ps, b.Covers p
  /-- A point is on its left side. -/
  left : ∃ p ∈ ps, p.x = b.minX
  /-- A point is on its right side. -/
  right : ∃ p ∈ ps, p.x = b.maxX
  /-- A point is on its lower side. -/
  below : ∃ p ∈ ps, p.y = b.minY
  /-- A point is on its upper side. -/
  above : ∃ p ∈ ps, p.y = b.maxY

/-- A fold over the values of some points, from one of them on, ends at one of them. -/
theorem exists_foldl_map {α β : Type} {op : β → β → β}
    (chooses : ∀ a b : β, op a b = a ∨ op a b = b) (f : α → β) {first : α} {ps : List α}
    (member : first ∈ ps) : ∃ p ∈ ps, f p = (ps.map f).foldl op (f first) := by
  rcases List.mem_cons.mp (foldl_mem_of_choice chooses (f first) (ps.map f)) with same | later
  · exact ⟨first, member, same.symm⟩
  · exact List.mem_map.mp later

/-- The bounds of a path are the least box that covers its end points. -/
theorem Path.spans_of_bounds? {path : Path ℚ} {b : Bounds ℚ} (bounded : path.bounds? = some b) :
    b.Spans path.ends := by
  have covers := Path.covers_of_bounds? bounded
  have least (x y : ℚ) : lesser x y = x ∨ lesser x y = y := lesser_eq_min x y ▸ min_choice x y
  have greatest (x y : ℚ) : greater x y = x ∨ greater x y = y :=
    greater_eq_max x y ▸ max_choice x y
  rw [Path.bounds?_eq_foldl, Option.map_eq_some_iff] at bounded
  obtain ⟨first, found, rfl⟩ := bounded
  have member := List.mem_of_head? found
  exact ⟨covers, exists_foldl_map least Point.x member, exists_foldl_map greatest Point.x member,
    exists_foldl_map least Point.y member, exists_foldl_map greatest Point.y member⟩

/-! ## Values -/

/-- The point with the values of the coordinates. -/
def Point.value (p : Point Float) : Point ℚ :=
  ⟨Decimal.Binary64.value p.x, Decimal.Binary64.value p.y⟩

/-- The edge with the values of the coordinates. -/
def Edge.value (e : Edge Float) : Edge ℚ := ⟨e.start.value, e.stop.value⟩

/-- The box with the values of the sides. -/
def Bounds.value (b : Bounds Float) : Bounds ℚ :=
  ⟨Decimal.Binary64.value b.minX, Decimal.Binary64.value b.minY, Decimal.Binary64.value b.maxX,
    Decimal.Binary64.value b.maxY⟩

/-- The point has finite coordinates. -/
def Point.IsFinite (p : Point Float) : Prop := p.x.isFinite = true ∧ p.y.isFinite = true

theorem Path.ends_map_value (path : Path Float) :
    Path.ends (path.map Edge.value) = path.ends.map Point.value := by
  rw [Path.ends, Path.ends, List.flatMap_map, List.map_flatMap]
  rfl

variable {path : Path Float}

/-- The values of the bounds are the bounds of the values. -/
theorem Path.bounds?_value (finite : ∀ p ∈ path.ends, p.IsFinite) :
    Path.bounds? (path.map Edge.value) = path.bounds?.map Bounds.value := by
  rw [Path.bounds?_eq_foldl, Path.bounds?_eq_foldl, Path.ends_map_value]
  cases found : path.ends with
  | nil => rfl
  | cons p rest =>
    rw [found] at finite
    have finiteX : ∀ x ∈ p.x :: (p :: rest).map Point.x, x.isFinite = true :=
      List.forall_mem_cons.mpr ⟨(finite p (by simp)).1,
        List.forall_mem_map.mpr fun q member => (finite q member).1⟩
    have finiteY : ∀ y ∈ p.y :: (p :: rest).map Point.y, y.isFinite = true :=
      List.forall_mem_cons.mpr ⟨(finite p (by simp)).2,
        List.forall_mem_map.mpr fun q member => (finite q member).2⟩
    simp only [List.head?_map, List.head?_cons, Option.map_some, Bounds.value,
      value_foldl value_lesser finiteX, value_foldl value_lesser finiteY,
      value_foldl value_greater finiteX, value_foldl value_greater finiteY, List.map_map]
    rfl

/-- A path whose bounds have finite sides has finite coordinates, and its bounds are finite
too. -/
theorem Path.isFinite_of_bounds? {b : Bounds Float} (bounded : path.bounds? = some b)
    (width : b.width.isFinite = true) (height : b.height.isFinite = true) :
    ∀ p ∈ path.ends, p.IsFinite := by
  rw [Path.bounds?_eq_foldl, Option.map_eq_some_iff] at bounded
  obtain ⟨first, -, rfl⟩ := bounded
  obtain ⟨maxX, minX⟩ := isFinite_of_sub width
  obtain ⟨maxY, minY⟩ := isFinite_of_sub height
  intro p member
  exact ⟨isFinite_of_foldl minX maxX _ (List.mem_cons_of_mem _ (List.mem_map_of_mem member)),
    isFinite_of_foldl minY maxY _ (List.mem_cons_of_mem _ (List.mem_map_of_mem member))⟩

end GrowthGrammar
