import BuildingModel.Geometry.Bridge
import BuildingModel.Geometry.Mesh
import BuildingModel.Geometry.Profile

/-!
# Extrusions

A profile in the plane of the first two axes, moved along a direction, sweeps a solid. Its faces
are the bottom, which faces away from the motion, the top, and one quadrilateral for each edge of
the profile.
-/

namespace BuildingModel.Geometry

variable {K : Type} [Scalar K]

/-- A point of the plane as a point of space, moved by a vector. -/
def lift (offset : Vec3 K) (p : Vec2 K) : Vec3 K :=
  Vec3.add ⟨p.x, p.y, Scalar.zero⟩ offset

/-- The quadrilaterals that the edges of a loop sweep. -/
def sides (offset : Vec3 K) (loop : List (Vec2 K)) : List (List (Vec3 K)) :=
  (cyclicPairs loop).map fun (a, b) =>
    [lift .origin a, lift .origin b, lift offset b, lift offset a]

/-- The bottom of the solid: the profile as seen from below. -/
def bottomCap (p : Profile K) : List (Vec3 K) :=
  bridge (p.outer.map (lift .origin)).reverse
    (p.holes.map fun hole => (hole.map (lift .origin)).reverse)

/-- The top of the solid: the moved profile. -/
def topCap (offset : Vec3 K) (p : Profile K) : List (Vec3 K) :=
  bridge (p.outer.map (lift offset)) (p.holes.map (·.map (lift offset)))

/-- The loops of the faces of the solid. -/
def extrusionLoops (offset : Vec3 K) (p : Profile K) : List (List (Vec3 K)) :=
  bottomCap p :: topCap offset p :: (p.outer :: p.holes).flatMap (sides offset)

/-- The solid that a profile sweeps over a depth in a direction. -/
def extrude (p : Profile K) (depth : K) (direction : Vec3 K) : Mesh K :=
  .ofLoops (extrusionLoops (direction.normalize.scale depth) p)

end BuildingModel.Geometry
