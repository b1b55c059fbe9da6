import BuildingModel.Geometry.Vec

/-!
# Profiles

A profile is a region of the plane: an outer loop, counterclockwise, with holes, clockwise.
-/

namespace BuildingModel.Geometry

variable {K : Type} [Scalar K]

/-- The area that a loop encloses, positive when it runs counterclockwise. -/
def signedArea (loop : List (Vec2 K)) : K :=
  if loop.length < 3 then Scalar.zero
  else total ((cyclicPairs loop).map fun (a, b) => a.x * b.y - b.x * a.y) / Scalar.two

/-- A region of the plane. -/
structure Profile (K : Type) where
  /-- The boundary. -/
  outer : List (Vec2 K)
  /-- The holes. -/
  holes : List (List (Vec2 K)) := []
deriving Repr, Inhabited

namespace Profile

/-- The region within a loop, which is turned to run counterclockwise. -/
def ofOuter (loop : List (Vec2 K)) : Profile K :=
  ⟨if Scalar.less (signedArea loop) Scalar.zero then loop.reverse else loop, []⟩

/-- The region less a loop, which is turned to run clockwise. -/
def addHole (p : Profile K) (loop : List (Vec2 K)) : Profile K :=
  { p with
    holes := p.holes ++
      [if Scalar.less Scalar.zero (signedArea loop) then loop.reverse else loop] }

/-- The region with its points moved. -/
def map {L : Type} (f : Vec2 K → Vec2 L) (p : Profile K) : Profile L :=
  ⟨p.outer.map f, p.holes.map (·.map f)⟩

end Profile

end BuildingModel.Geometry
