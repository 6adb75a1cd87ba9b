import Mathlib.Tactic.LinearCombination
import Mathlib.Tactic.Ring
import GrowthGrammar.Plane.Basic

/-!
# Turns in exact arithmetic

A turn is a pair of numbers, its cosine and its sine, and nothing is asked of the two: over a
commutative ring any two turns can be done in either order (`Vec.turned_comm`), and a turn does not
mind how long the vector is (`Vec.turned_scale`).

The turn back has the opposite sine (`Turn.back`).  It takes back what the turn has done, and
neither of them changes the length of a vector, if the squares of cosine and sine add up to one
(`Turn.IsUnit`).
-/

namespace GrowthGrammar

variable {K : Type} [CommRing K]

namespace Turn

/-- The turn by the opposite angle. -/
def back (t : Turn K) : Turn K := ⟨t.cos, -t.sin⟩

/-- The squares of cosine and sine add up to one. -/
def IsUnit (t : Turn K) : Prop := t.cos ^ 2 + t.sin ^ 2 = 1

theorem back_back (t : Turn K) : t.back.back = t := by
  rw [back, back, neg_neg]

theorem IsUnit.back {t : Turn K} (unit : t.IsUnit) : t.back.IsUnit := by
  rwa [IsUnit, Turn.back, neg_sq]

end Turn

namespace Vec

/-- The square of the length. -/
def sqNorm (v : Vec K) : K := v.dot v

variable (v : Vec K) (t u : Turn K)

theorem turned_comm : (v.turned t).turned u = (v.turned u).turned t := by
  simp only [turned, mk.injEq]
  constructor <;> ring

theorem turned_scale (k : K) : (v.scale k).turned t = (v.turned t).scale k := by
  simp only [turned, scale, mk.injEq]
  constructor <;> ring

theorem sqNorm_scale (k : K) : (v.scale k).sqNorm = k ^ 2 * v.sqNorm := by
  simp only [sqNorm, dot, scale]
  ring

variable {t} (unit : t.IsUnit)

include unit

theorem turned_back : (v.turned t).turned t.back = v := by
  obtain ⟨dx, dy⟩ := v
  rw [Turn.IsUnit] at unit
  simp only [turned, Turn.back, mk.injEq]
  constructor
  · linear_combination dx * unit
  · linear_combination dy * unit

theorem back_turned : (v.turned t.back).turned t = v := by
  rw [turned_comm, turned_back v unit]

theorem sqNorm_turned : (v.turned t).sqNorm = v.sqNorm := by
  rw [Turn.IsUnit] at unit
  simp only [sqNorm, dot, turned]
  linear_combination (v.dx ^ 2 + v.dy ^ 2) * unit

end Vec

end GrowthGrammar
