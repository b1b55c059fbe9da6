import BuildingModel.Geometry.Vec

/-!
# Bridges

A face is one closed loop, so a hole is joined to the loop around it: the loop runs to the corner
nearest to the hole, over to it, once around the hole, back, and on.
-/

namespace BuildingModel.Geometry

variable {K : Type} [Scalar K]

/-- The better of a candidate and a pair of corners found before, with the square of their
distance. Of equal distances the earlier stays; distances without bound are never taken. -/
def nearer (found : Option (Nat × Nat × K)) (i j : Nat) (d : K) : Option (Nat × Nat × K) :=
  match found with
  | none => if Scalar.bounded d then some (i, j, d) else none
  | some (i', j', d') => if Scalar.less d d' then some (i, j, d) else some (i', j', d')

/-- The first of the nearest pairs of corners of two loops, by their positions. -/
def nearestPair (a b : List (Vec3 K)) : Nat × Nat :=
  let found := a.zipIdx.foldl
    (fun found (p, i) =>
      b.zipIdx.foldl (fun found (q, j) => nearer found i j (p.sub q).normSquared) found)
    none
  match found with
  | some (i, j, _) => (i, j)
  | none => (0, 0)

/-- A loop that visits a hole on its way, going over at the given corners. -/
def splice {α : Type} (outer hole : List α) (crossing : Nat × Nat) : List α :=
  outer.take (crossing.1 + 1) ++ hole.drop crossing.2
    ++ hole.take (crossing.2 + 1) ++ outer.drop crossing.1

/-- A loop joined with one hole. An empty loop or hole changes nothing. -/
def bridgeHole (outer hole : List (Vec3 K)) : List (Vec3 K) :=
  if outer.isEmpty || hole.isEmpty then outer
  else splice outer hole (nearestPair outer hole)

/-- A loop joined with holes, one after the other. -/
def bridge (outer : List (Vec3 K)) (holes : List (List (Vec3 K))) : List (Vec3 K) :=
  holes.foldl bridgeHole outer

end BuildingModel.Geometry
