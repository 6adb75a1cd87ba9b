/-!
# Weighted choice

The weights of some alternatives, summed up one after the other, cut a line into
pieces.  A draw between zero and one marks a point of the line, and the
alternative whose piece holds the point is chosen: the first one whose sum is
above it.  Rounding may put the point behind every sum, and then it is the last.

The numbers can be of any kind with a sum, a product and an order.
-/

namespace GrowthGrammar.Choice

variable {K : Type}

/-- The sums of some numbers after a first total. -/
def sumsFrom [Add K] (total : K) : List K → List K
  | [] => []
  | w :: rest => (total + w) :: sumsFrom (total + w) rest

/-- The sums of some numbers from the left, one for each of them. -/
def runningSums [Add K] : List K → List K
  | [] => []
  | w :: rest => w :: sumsFrom w rest

/-- The sum of all numbers, nothing for no number. -/
def total? [Add K] (weights : List K) : Option K :=
  (runningSums weights).getLast?

/-- The place of the first sum above a point, or the last place. -/
def placeOf [LT K] [DecidableLT K] (sums : List K) (point : K) : Nat :=
  min (sums.findIdx fun s => decide (point < s)) (sums.length - 1)

/-- The place that a draw chooses among some weights. -/
def pick [Add K] [Mul K] [LT K] [DecidableLT K] (weights : List K) (draw : K) : Nat :=
  match total? weights with
  | none => 0
  | some total => placeOf (runningSums weights) (draw * total)

end GrowthGrammar.Choice
