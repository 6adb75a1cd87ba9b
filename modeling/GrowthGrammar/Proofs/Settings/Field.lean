import GrowthGrammar.Proofs.Rule.Grammar
import GrowthGrammar.Settings.Field

/-!
# Fields of settings

The judgements of single values let a value pass or refuse it, and what passes is the value itself
(`finite_eq_ok_iff` and its likes).  Fields that are read side by side pass exactly if each of them
does (`both_eq_ok_iff`), and naming the place of a flaw changes nothing that passes
(`placed_eq_ok_iff`).
-/

namespace GrowthGrammar.Settings

theorem natural_eq_ok_iff (n : Int) (k : Nat) : natural n = .ok k ↔ (k : Int) = n := by
  rw [natural]
  split
  · simp only [reduceCtorEq, false_iff]
    omega
  · simp only [Except.ok.injEq]
    omega

theorem finite_eq_ok_iff (x y : Float) : finite x = .ok y ↔ x.isFinite ∧ y = x := by
  rw [finite]
  split <;> rename_i h <;> simp [h, eq_comm]

theorem positive_eq_ok_iff (x y : Float) : positive x = .ok y ↔ 0 < x ∧ y = x := by
  rw [positive]
  split <;> rename_i h <;> simp [h, eq_comm]

theorem both_eq_ok_iff {α β : Type} {first : Checked α} {second : Checked β} {a : α} {b : β} :
    both first second = .ok (a, b) ↔ first = .ok a ∧ second = .ok b := by
  cases first <;> cases second <;> simp [both]

theorem placed_eq_ok_iff {α : Type} {name : String} {outcome : Except Flaw α} {a : α} :
    placed name outcome = .ok a ↔ outcome = .ok a := mapError_eq_ok_iff

end GrowthGrammar.Settings
