import GrowthGrammar.Proofs.Decimal.Order

/-!
# Absolute values

The weak order of the finite doubles is that of their values, and the absolute value of a double
has the absolute value of its value.  A comparison of an absolute value with a finite bound is
two comparisons without it (`abs_le_iff`), for every double: one that is infinite or no number
fails both.
-/

namespace GrowthGrammar.Decimal.Binary64

open Float.Model (UnpackedFloat)

/-! ## The weak order -/

theorem le_iff_compare (x y : Float) :
    x ≤ y ↔ (x.toModel.unpack.compare y.toModel.unpack).any (·.isLE) = true :=
  decide_eq_true_iff

/-- Finite doubles are in the order of their values. -/
theorem le_iff_value {x y : Float} (finiteX : x.isFinite = true) (finiteY : y.isFinite = true) :
    x ≤ y ↔ value x ≤ value y := by
  obtain ⟨a, decodedX⟩ := exists_decode finiteX
  obtain ⟨b, decodedY⟩ := exists_decode finiteY
  rw [le_iff_compare, unpack_of_decode decodedX, unpack_of_decode decodedY,
    compare_unpacked (decode_canonical decodedX) (decode_canonical decodedY), Option.any_some,
    Ordering.isLE_iff_ne_gt, value_of_decode decodedX, value_of_decode decodedY]
  exact compare_le_iff_le

/-! ## Opposites and absolute values -/

theorem value_neg {x : Float} (finite : x.isFinite = true) : value (-x) = -value x := by
  obtain ⟨d, decoded⟩ := exists_decode finite
  rw [value_of_decode (decode_neg decoded), signed_opposite, value_of_decode decoded]

theorem pack_unpack_toModel (x : Float) : (⟨.pack x.toModel.unpack⟩ : Float) = x := by
  obtain ⟨⟨bits, valid⟩⟩ := x
  simp only [Float.Model.pack, Float.Model.unpack, pack_unpack valid]

/-- The absolute value is the double itself or its opposite, as the sign says. -/
theorem abs_of_decode {x : Float} {d : Dyadic} (decoded : decode x = some d) :
    x.abs = if d.negative then -x else x := by
  have unpacked : x.toModel.unpack.abs =
      if d.negative then x.toModel.unpack.neg else x.toModel.unpack := by
    rw [unpack_of_decode decoded, Dyadic.unpacked, Dyadic.sign]
    cases d.negative <;> split <;> rfl
  have packed : x.abs = ⟨.pack x.toModel.unpack.abs⟩ := rfl
  rw [packed, unpacked]
  split
  · rfl
  · exact pack_unpack_toModel x

theorem isFinite_abs {x : Float} (finite : x.isFinite = true) : x.abs.isFinite = true := by
  obtain ⟨d, decoded⟩ := exists_decode finite
  rw [abs_of_decode decoded]
  split
  · exact isFinite_neg finite
  · exact finite

theorem value_abs {x : Float} (finite : x.isFinite = true) : value x.abs = |value x| := by
  obtain ⟨d, decoded⟩ := exists_decode finite
  have nonneg : 0 ≤ d.value := mul_nonneg (Nat.cast_nonneg _) (by positivity)
  rw [abs_of_decode decoded]
  have signed := value_of_decode decoded
  rw [Dyadic.signed, withSign] at signed
  split
  case isTrue negative =>
    rw [if_pos negative] at signed
    rw [value_neg finite, signed, abs_neg, neg_neg, abs_of_nonneg nonneg]
  case isFalse positive =>
    rw [if_neg positive] at signed
    rw [signed, abs_of_nonneg nonneg]

theorem not_le_of_atTop {x bound : Float} (top : AtTop x) (finite : bound.isFinite = true) :
    ¬ x ≤ bound := by
  obtain ⟨d, decoded⟩ := exists_decode finite
  rw [le_iff_compare, unpack_of_decode decoded, Dyadic.unpacked]
  rcases top with infinite | none
  · rw [infinite]
    split <;> exact Bool.false_ne_true
  · rw [none]
    split <;> exact Bool.false_ne_true

/-- What is not finite is at the top itself or has its opposite there. -/
theorem atTop_of_not_isFinite {x : Float} (infinite : ¬ x.isFinite = true) :
    AtTop x.abs ∧ (AtTop x ∨ AtTop (-x)) := by
  have absolute : x.abs.toModel.unpack =
      .unpack .binary64 (UnpackedFloat.pack .binary64 x.toModel.unpack.abs) := rfl
  have opposite : (-x).toModel.unpack =
      .unpack .binary64 (UnpackedFloat.pack .binary64 x.toModel.unpack.neg) := rfl
  have notFinite : ¬ x.toModel.unpack.isFinite = true := infinite
  simp only [AtTop, absolute, opposite]
  cases unpacked : x.toModel.unpack with
  | notANumber => exact ⟨.inr rfl, .inl (.inr rfl)⟩
  | infinity s =>
    cases s with
    | positive => exact ⟨.inl rfl, .inl (.inl rfl)⟩
    | negative => exact ⟨.inl rfl, .inr (.inl rfl)⟩
  | zero s => exact absurd (unpacked ▸ rfl) notFinite
  | finite s m e h => exact absurd (unpacked ▸ rfl) notFinite

/-- The absolute value is at most a bound if the double and its opposite are. -/
theorem abs_le_iff (x : Float) {bound : Float} (finite : bound.isFinite = true) :
    x.abs ≤ bound ↔ x ≤ bound ∧ -x ≤ bound := by
  by_cases finiteX : x.isFinite = true
  · rw [le_iff_value (isFinite_abs finiteX) finite, le_iff_value finiteX finite,
      le_iff_value (isFinite_neg finiteX) finite, value_abs finiteX, value_neg finiteX, abs_le']
  · obtain ⟨absolute, either⟩ := atTop_of_not_isFinite finiteX
    exact iff_of_false (not_le_of_atTop absolute finite) fun ⟨le, leNeg⟩ =>
      either.elim (not_le_of_atTop · finite le) (not_le_of_atTop · finite leNeg)

/-- A finite double differs from itself by zero. -/
theorem value_sub_self {x : Float} (finite : x.isFinite = true) :
    (x - x).isFinite = true ∧ value (x - x) = 0 := by
  have nearest := nearest_sub finite finite
  rw [sub_self] at nearest
  have finiteSub := nearest.isFinite (by positivity)
  have near := nearest.abs_sub_le_of_multiple finiteSub (n := 0) (by simp)
  rw [sub_zero, abs_zero, zero_div] at near
  exact ⟨finiteSub, abs_nonpos_iff.mp near⟩

end GrowthGrammar.Decimal.Binary64
