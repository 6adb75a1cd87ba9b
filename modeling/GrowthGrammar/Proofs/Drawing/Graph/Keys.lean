import GrowthGrammar.Drawing.Graph
import GrowthGrammar.Proofs.Decimal.Words
import GrowthGrammar.Proofs.Plane.Distinct

/-!
# Rounded points

The points that are rounded for a graph are plain (`isPlain_of_keyOf`): they are finite and
no coordinate is a negative zero.  So they can be told apart by comparing them, and points
that are equal before are equal after rounding (`keyOf_congr`).
-/

namespace GrowthGrammar

open Decimal

namespace Point

theorem beq_iff {p q : Point Float} :
    (p == q) = true ↔ (p.x == q.x) = true ∧ (p.y == q.y) = true := by
  have compared : (p == q) = (p.x == q.x && p.y == q.y) := rfl
  rw [compared, Bool.and_eq_true]

theorem isFinite_iff {p : Point Float} :
    p.isFinite = true ↔ p.x.isFinite = true ∧ p.y.isFinite = true := by
  rw [isFinite, Bool.and_eq_true]

/-- Both coordinates are finite and not the negative zero. -/
def IsPlain (p : Point Float) : Prop := Binary64.IsPlain p.x ∧ Binary64.IsPlain p.y

/-- Plain points that compare as equal are the same. -/
theorem IsPlain.beq_iff {p q : Point Float} (plainP : p.IsPlain) (plainQ : q.IsPlain) :
    (p == q) = true ↔ p = q := by
  obtain ⟨px, py⟩ := p
  obtain ⟨qx, qy⟩ := q
  rw [Point.beq_iff, plainP.1.beq_iff plainQ.1, plainP.2.beq_iff plainQ.2, Point.mk.injEq]

theorem tellsApart {points : List (Point Float)} (plain : ∀ p ∈ points, p.IsPlain) :
    Path.TellsApart points :=
  fun p memP q memQ => (plain p memP).beq_iff (plain q memQ)

end Point

namespace Graph

variable {precision : Int} {p q key : Point Float}

/-- A rounded coordinate, with its zeros made positive. -/
theorem keyOf_eq (precision : Int) (p : Point Float) :
    keyOf precision p =
      match (roundTo precision p.x).map (· + 0), (roundTo precision p.y).map (· + 0) with
      | some x, some y => .ok ⟨x, y⟩
      | _, _ => .error .overflow := by
  rw [keyOf]
  cases roundTo precision p.x <;> cases roundTo precision p.y <;> rfl

/-- Rounding goes through or overflows. -/
theorem keyOf_cases (precision : Int) (p : Point Float) :
    (∃ key, keyOf precision p = .ok key) ∨ keyOf precision p = .error .overflow := by
  rw [keyOf]
  split
  · exact .inl ⟨_, rfl⟩
  · exact .inr rfl

theorem isPlain_of_keyOf (finite : p.isFinite = true) (rounded : keyOf precision p = .ok key) :
    key.IsPlain := by
  obtain ⟨finiteX, finiteY⟩ := Point.isFinite_iff.mp finite
  rw [keyOf] at rounded
  split at rounded
  case h_1 x y roundedX roundedY =>
    cases rounded
    exact ⟨Binary64.isPlain_add_zero (Binary64.isFinite_roundTo finiteX roundedX),
      Binary64.isPlain_add_zero (Binary64.isFinite_roundTo finiteY roundedY)⟩
  case h_2 => cases rounded

/-- Equal points are rounded to one point. -/
theorem keyOf_congr (finite : q.isFinite = true) (equal : (p == q) = true) (precision : Int) :
    keyOf precision p = keyOf precision q := by
  obtain ⟨finiteX, finiteY⟩ := Point.isFinite_iff.mp finite
  obtain ⟨equalX, equalY⟩ := Point.beq_iff.mp equal
  rw [keyOf_eq, keyOf_eq, Binary64.roundTo_add_zero_congr finiteX equalX,
    Binary64.roundTo_add_zero_congr finiteY equalY]

end Graph

end GrowthGrammar
