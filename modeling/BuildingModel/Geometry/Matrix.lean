import BuildingModel.Geometry.Mesh
import BuildingModel.Geometry.Profile

/-!
# Matrices

Placements are matrices of four rows, whose last column is the origin. Every entry of a product
is summed from the left over all its terms, zeros included, so that infinities spread as they
must.
-/

namespace BuildingModel.Geometry

/-- A square matrix of doubles, as its rows. -/
structure Matrix (n : Nat) where
  /-- The rows. -/
  rows : Vector (Vector Float n) n
deriving Repr

namespace Matrix

variable {n : Nat}

/-- The matrix of the given entries, by row and column. -/
def ofFn (f : Fin n → Fin n → Float) : Matrix n :=
  ⟨Vector.ofFn fun i => Vector.ofFn fun j => f i j⟩

/-- The entry of a row and a column. -/
def entry (m : Matrix n) (i j : Fin n) : Float :=
  m.rows[i][j]

/-- The matrix of no change. -/
def identity : Matrix n :=
  ofFn fun i j => if i = j then 1.0 else 0.0

/-- The product of two matrices. -/
def mul (a b : Matrix n) : Matrix n :=
  ofFn fun i j => total ((List.finRange n).map fun k => a.entry i k * b.entry k j)

/-- The matrix with the given diagonal and zeros elsewhere. -/
def diagonal (v : Vec3 Float) : Matrix 3 :=
  ofFn fun i j =>
    if i = j then (match i with | 0 => v.x | 1 => v.y | 2 => v.z) else 0.0

/-- The matrix with the given columns. -/
def ofColumns (a b c : Vec3 Float) : Matrix 3 :=
  ofFn fun i j =>
    let v := match j with | 0 => a | 1 => b | 2 => c
    match i with | 0 => v.x | 1 => v.y | 2 => v.z

/-- The placement that turns by a matrix of three rows and then moves to an origin. -/
def affine (turn : Matrix 3) (origin : Vec3 Float) : Matrix 4 :=
  ofFn fun i j =>
    if hi : i < 3 then
      if hj : j < 3 then turn.entry ⟨i, hi⟩ ⟨j, hj⟩
      else match i with | 0 => origin.x | 1 => origin.y | _ => origin.z
    else if i = j then 1.0 else 0.0

/-- A point seen through a placement, divided by its weight unless that is zero. -/
def apply (m : Matrix 4) (p : Vec3 Float) : Vec3 Float :=
  let row (i : Fin 4) : Float :=
    m.entry i 0 * p.x + m.entry i 1 * p.y + m.entry i 2 * p.z + m.entry i 3
  let weight := row 3
  let q : Vec3 Float := ⟨row 0, row 1, row 2⟩
  if weight == 0.0 then q else ⟨q.x / weight, q.y / weight, q.z / weight⟩

/-- A point of the plane seen through a placement. -/
def applyFlat (m : Matrix 4) (p : Vec2 Float) : Vec2 Float :=
  let q := m.apply ⟨p.x, p.y, 0.0⟩
  ⟨q.x, q.y⟩

/-- A placement with its origin stretched by a factor. -/
def scaleOrigin (m : Matrix 4) (factor : Float) : Matrix 4 :=
  ofFn fun i j => if i < 3 ∧ j = 3 then m.entry i j * factor else m.entry i j

/-- The rows as lists. -/
def toLists (m : Matrix n) : List (List Float) :=
  m.rows.toList.map Vector.toList

end Matrix

/-- The turn whose third axis is along a vector and whose first axis is as near as it can be to
another. Where the two are parallel any first axis will do. -/
def basis (axis hint : Vec3 Float) : Matrix 3 :=
  let z := axis.normalize
  let across (v : Vec3 Float) : Vec3 Float := v.sub (z.scale (v.dot z))
  let x := across hint
  let x :=
    if x.norm < 1e-12 then across (if z.x.abs < 0.9 then ⟨1.0, 0.0, 0.0⟩ else ⟨0.0, 1.0, 0.0⟩)
    else x
  let x := x.normalize
  .ofColumns x (z.cross x) z

end BuildingModel.Geometry
