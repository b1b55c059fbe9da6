/-!
# Vectors

Points and vectors of the plane and of space, over numbers of any kind that has the operations of
`Scalar`. Documents are computed with doubles; the constructions themselves do not depend on it.
Sums are taken from the left, starting with the first term.
-/

namespace BuildingModel.Geometry

/-- Numbers that shapes are computed with. -/
class Scalar (K : Type) extends Add K, Sub K, Mul K, Div K where
  /-- The number zero. -/
  zero : K
  /-- The number two. -/
  two : K
  /-- The square root. -/
  sqrt : K → K
  /-- Whether a number is less than another. -/
  less : K → K → Bool
  /-- Whether a number is less than infinity. -/
  bounded : K → Bool
  /-- Whether two coordinates are the same: equal, up to the sign of zero. -/
  same : K → K → Bool

instance : Scalar Float where
  zero := 0.0
  two := 2.0
  sqrt := Float.sqrt
  less x y := x < y
  bounded x := x < 1.0 / 0.0
  same x y := (x + 0.0).toBits == (y + 0.0).toBits

/-- The sum of the terms, from the left. -/
def total {K : Type} [Scalar K] : List K → K
  | [] => Scalar.zero
  | t :: ts => ts.foldl (· + ·) t

/-- The pairs of neighbours on a closed loop. -/
def cyclicPairs {α : Type} : List α → List (α × α)
  | [] => []
  | a :: r => (a :: r).zip (r ++ [a])

/-- A point or a vector of the plane. -/
@[ext]
structure Vec2 (K : Type) where
  /-- The first coordinate. -/
  x : K
  /-- The second coordinate. -/
  y : K
deriving DecidableEq, BEq, Repr, Inhabited

/-- A point or a vector of space. -/
@[ext]
structure Vec3 (K : Type) where
  /-- The first coordinate. -/
  x : K
  /-- The second coordinate. -/
  y : K
  /-- The third coordinate. -/
  z : K
deriving DecidableEq, BEq, Repr, Inhabited

variable {K : Type} [Scalar K]

namespace Vec2

/-- The difference of two points. -/
def sub (a b : Vec2 K) : Vec2 K :=
  ⟨a.x - b.x, a.y - b.y⟩

/-- The length of a vector. -/
def norm (a : Vec2 K) : K :=
  Scalar.sqrt (a.x * a.x + a.y * a.y)

end Vec2

namespace Vec3

/-- The vector of length zero. -/
def origin : Vec3 K :=
  ⟨Scalar.zero, Scalar.zero, Scalar.zero⟩

/-- The sum of two vectors. -/
def add (a b : Vec3 K) : Vec3 K :=
  ⟨a.x + b.x, a.y + b.y, a.z + b.z⟩

/-- The difference of two points. -/
def sub (a b : Vec3 K) : Vec3 K :=
  ⟨a.x - b.x, a.y - b.y, a.z - b.z⟩

/-- A vector stretched by a factor. -/
def scale (a : Vec3 K) (k : K) : Vec3 K :=
  ⟨a.x * k, a.y * k, a.z * k⟩

/-- The scalar product. -/
def dot (a b : Vec3 K) : K :=
  a.x * b.x + a.y * b.y + a.z * b.z

/-- The vector product. -/
def cross (a b : Vec3 K) : Vec3 K :=
  ⟨a.y * b.z - a.z * b.y, a.z * b.x - a.x * b.z, a.x * b.y - a.y * b.x⟩

/-- The square of the length. -/
def normSquared (a : Vec3 K) : K :=
  a.dot a

/-- The length of a vector. -/
def norm (a : Vec3 K) : K :=
  Scalar.sqrt a.normSquared

/-- The vector of length one in the same direction. -/
def normalize (a : Vec3 K) : Vec3 K :=
  ⟨a.x / a.norm, a.y / a.norm, a.z / a.norm⟩

/-- Whether two points have the same coordinates. -/
def same (a b : Vec3 K) : Bool :=
  Scalar.same a.x b.x && Scalar.same a.y b.y && Scalar.same a.z b.z

end Vec3

end BuildingModel.Geometry
