import GrowthGrammar.Proofs.Decimal.Product
import GrowthGrammar.Random.Generator

/-!
# The range of the draws

A draw is a number of 53 bits divided by 2 ^ 53.  Every such number is a double, so the draws lie
from zero up to the largest double below one (`draw_mem`), and this one is drawn as well
(`exists_draw_eq_belowOne`).
-/

namespace GrowthGrammar.Random.Generator

open Decimal.Binary64

/-- A number of 64 bits is converted to the double nearest to it. -/
theorem nearest_toFloat (n : UInt64) : Nearest n.toFloat n.toNat := by
  have nearest : Nearest n.toFloat ((n.toNat : Int) * 2 ^ (0 : Int)) :=
    nearest_of_pack_normalize rfl
  rwa [zpow_zero, mul_one, Int.cast_natCast] at nearest

theorem value_largest : value 9007199254740991 = 2 ^ 53 - 1 :=
  (value_of_parts (m := 2 ^ 53 - 1) (e := 0) (by decide)).trans (by norm_num)

theorem decode_divisor : decode 9007199254740992 = some ⟨false, 2 ^ 52, 1⟩ := by decide

theorem value_divisor : value 9007199254740992 = 2 ^ 53 :=
  (value_of_parts decode_divisor).trans (by norm_num)

/-- A number of 53 bits is converted to a double between zero and the largest of them. -/
theorem toFloat_between {n : UInt64} (short : n.toNat < 2 ^ 53) :
    n.toFloat.isFinite = true ∧ 0 ≤ value n.toFloat ∧ value n.toFloat ≤ 2 ^ 53 - 1 := by
  have atMost : (n.toNat : ℚ) ≤ value 9007199254740991 := by
    have : (n.toNat : ℚ) + 1 ≤ 2 ^ 53 := by exact_mod_cast short
    rw [value_largest]
    linarith
  rw [← value_largest]
  exact (nearest_toFloat n).between (by decide) (Nat.cast_nonneg _) atMost

/-- A fraction of one is at least zero and at most the largest double below one. -/
theorem fraction_between (bits : BitVec 64) : (fraction bits).isFinite = true ∧
    0 ≤ value (fraction bits) ∧ value (fraction bits) ≤ value belowOne := by
  have short : (bits >>> 11).toNat < 2 ^ 53 := by
    have := bits.isLt
    rw [BitVec.toNat_ushiftRight, Nat.shiftRight_eq_div_pow]
    omega
  have word : (bits >>> 11).toNat.toUInt64.toNat = (bits >>> 11).toNat :=
    Nat.mod_eq_of_lt (by omega)
  obtain ⟨finite, nonneg, atMost⟩ := toFloat_between (word.trans_lt short)
  have finiteDivisor : (9007199254740992 : Float).isFinite = true :=
    (isSome_decode_iff _).mp (by rw [decode_divisor]; rfl)
  have quotient := nearest_div finite finiteDivisor (by rw [value_divisor]; norm_num)
  rw [value_divisor] at quotient
  refine quotient.between (by decide) (by positivity) ?_
  rw [value_belowOne, div_le_iff₀ (by positivity)]
  linarith

/-- Every draw lies from zero up to one. -/
theorem draw_mem (g : Generator) : 0 ≤ g.draw.1 ∧ g.draw.1 < 1 := by
  obtain ⟨finite, nonneg, atMost⟩ := fraction_between g.step.output
  have drawn : g.draw.1 = fraction g.step.output := rfl
  rw [value_belowOne] at atMost
  rw [drawn, nonneg_iff_not_neg finite, lt_iff_value finite (by decide),
    lt_iff_value finite (by decide), value_zero, value_one]
  exact ⟨not_lt.mpr nonneg, by linarith⟩

/-- The largest double below one is drawn. -/
theorem exists_draw_eq_belowOne : ∃ g : Generator, g.draw.1 = belowOne := by
  refine ⟨⟨0, 0xFFFFFFFFFFFFFFFE0000000000000001⟩, ?_⟩
  have word : (Generator.draw ⟨0, 0xFFFFFFFFFFFFFFFE0000000000000001⟩).1.toBits =
      belowOne.toBits := by decide
  rw [← ofBits_toBits (Generator.draw _).1, word, ofBits_toBits]

end GrowthGrammar.Random.Generator
