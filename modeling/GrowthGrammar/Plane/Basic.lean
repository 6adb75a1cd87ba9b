/-!
# Points and vectors of the plane

A vector is a displacement and a point is a place.  Only the arithmetic that
makes sense for each is defined: points are moved by vectors, and the difference
of two points is a vector.  The numbers can be of any kind; a program uses
doubles.

A turn is given by its cosine and sine, and turns a vector counter-clockwise.
-/

namespace GrowthGrammar

variable {K : Type}

/-- A displacement. -/
structure Vec (K : Type) where
  /-- To the right. -/
  dx : K
  /-- Upwards. -/
  dy : K
  deriving DecidableEq, BEq, Repr

/-- A place. -/
structure Point (K : Type) where
  /-- From the left. -/
  x : K
  /-- From below. -/
  y : K
  deriving DecidableEq, BEq, Repr

/-- A rotation. -/
structure Turn (K : Type) where
  /-- The cosine of its angle. -/
  cos : K
  /-- The sine of its angle. -/
  sin : K
  deriving DecidableEq, Repr

namespace Vec

/-- The sum of two vectors. -/
def add [Add K] (v w : Vec K) : Vec K := ⟨v.dx + w.dx, v.dy + w.dy⟩

/-- The difference of two vectors. -/
def sub [Sub K] (v w : Vec K) : Vec K := ⟨v.dx - w.dx, v.dy - w.dy⟩

/-- The opposite vector. -/
def neg [Neg K] (v : Vec K) : Vec K := ⟨-v.dx, -v.dy⟩

/-- A multiple of a vector. -/
def scale [Mul K] (v : Vec K) (k : K) : Vec K := ⟨v.dx * k, v.dy * k⟩

/-- A fraction of a vector. -/
def divide [Div K] (v : Vec K) (k : K) : Vec K := ⟨v.dx / k, v.dy / k⟩

/-- The inner product. -/
def dot [Add K] [Mul K] (v w : Vec K) : K := v.dx * w.dx + v.dy * w.dy

/-- The vector after a turn. -/
def turned [Add K] [Sub K] [Mul K] (v : Vec K) (t : Turn K) : Vec K :=
  ⟨t.cos * v.dx - t.sin * v.dy, t.sin * v.dx + t.cos * v.dy⟩

/-- The vector from the origin to itself. -/
def nil [OfNat K 0] : Vec K := ⟨0, 0⟩

/-- The unit vector upwards. -/
def up [OfNat K 0] [OfNat K 1] : Vec K := ⟨0, 1⟩

end Vec

namespace Point

/-- The place with both coordinates zero. -/
def origin [OfNat K 0] : Point K := ⟨0, 0⟩

/-- The place that a vector leads to. -/
def move [Add K] (p : Point K) (v : Vec K) : Point K := ⟨p.x + v.dx, p.y + v.dy⟩

/-- The place that a vector comes from. -/
def moveBack [Sub K] (p : Point K) (v : Vec K) : Point K := ⟨p.x - v.dx, p.y - v.dy⟩

/-- The vector from the second point to the first. -/
def minus [Sub K] (p q : Point K) : Vec K := ⟨p.x - q.x, p.y - q.y⟩

/-- A difference is at most the tolerance in either direction. -/
def isSmall [Neg K] [LE K] [DecidableLE K] (tolerance d : K) : Bool :=
  decide (d ≤ tolerance) && decide (-d ≤ tolerance)

/-- Both coordinates differ by at most a tolerance. -/
def isNear [Sub K] [Neg K] [LE K] [DecidableLE K] (tolerance : K) (p q : Point K) : Bool :=
  isSmall tolerance (p.x - q.x) && isSmall tolerance (p.y - q.y)

end Point

end GrowthGrammar
