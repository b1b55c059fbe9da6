import BuildingModel.Geometry.Error
import BuildingModel.Geometry.Matrix
import BuildingModel.Model.Index

/-!
# Placements

Points, directions and placements of a model. A local placement is relative to another one; the
chain of placements is followed up to the world, and where it returns to itself or grows too long
it ends.
-/

namespace BuildingModel.Geometry

/-- The entity of an instance name, or the error that there is none. -/
def entity (x : EntityIndex) (id : EntityId) : Except GeometryError Entity :=
  match x.get? id with
  | some e => .ok e
  | none => .error (.entityNotFound id)

/-- The number at a position of a list of coordinates, zero where there is none. -/
def coordinate (ps : List Parameter) (i : Nat) : Float :=
  (ps[i]? >>= Parameter.asReal?).getD 0.0

/-- The point of a list of coordinates. -/
def point3 (ps : List Parameter) : Vec3 Float :=
  ⟨coordinate ps 0, coordinate ps 1, coordinate ps 2⟩

/-- The point of the plane of a list of coordinates. -/
def point2 (ps : List Parameter) : Vec2 Float :=
  ⟨coordinate ps 0, coordinate ps 1⟩

/-- The point that an instance describes. -/
def point (x : EntityIndex) (id : EntityId) : Except GeometryError (Vec3 Float) := do
  let e ← entity x id
  if e.type = .known .cartesianPoint then
    let ps ← require 0 "Coordinates" (e.list? 0)
    return point3 ps
  else throw (.unsupportedType e.type.name)

/-- The point of the plane that an instance describes. -/
def flatPoint (x : EntityIndex) (id : EntityId) : Except GeometryError (Vec2 Float) := do
  let p ← point x id
  return ⟨p.x, p.y⟩

/-- The least length of a direction. -/
def shortestDirection : Float := 2.220446049250313e-16

/-- The direction that an instance describes, unless it is hardly longer than zero. -/
def direction? (x : EntityIndex) (id : EntityId) : Option (Vec3 Float) := do
  let e ← x.get? id
  if e.type = .known .direction then
    let ps ← e.list? 0
    let v := point3 ps
    if v.norm > shortestDirection then some v else none
  else none

/-- The direction along the first axis. -/
def axisX : Vec3 Float := ⟨1.0, 0.0, 0.0⟩

/-- The direction along the third axis. -/
def axisZ : Vec3 Float := ⟨0.0, 0.0, 1.0⟩

/-- The direction that an attribute refers to, or else the given one. -/
def directionAt (x : EntityIndex) (e : Entity) (i : Nat) (default : Vec3 Float) : Vec3 Float :=
  ((e.reference? i).bind (direction? x)).getD default

/-- The placement of an axis system in space: location, axis, reference direction. -/
def placement3 (x : EntityIndex) (e : Entity) : Except GeometryError (Matrix 4) := do
  let location ← require 0 "Location" (e.reference? 0)
  let origin ← point x location
  return .affine (basis (directionAt x e 1 axisZ) (directionAt x e 2 axisX)) origin

/-- The placement of an axis system in the plane: location, reference direction. -/
def placement2 (x : EntityIndex) (e : Entity) : Except GeometryError (Matrix 4) := do
  let location ← require 0 "Location" (e.reference? 0)
  let origin ← point x location
  let hint := directionAt x e 1 axisX
  return .affine (basis axisZ ⟨hint.x, hint.y, 0.0⟩) ⟨origin.x, origin.y, 0.0⟩

/-- The placement of a transformation: first axis, second axis, origin, scale, third axis and, where
the axes have scales of their own, the second and the third scale. -/
def operator (x : EntityIndex) (e : Entity) : Except GeometryError (Matrix 4) := do
  let location ← require 2 "LocalOrigin" (e.reference? 2)
  let origin ← point x location
  let turn := basis (directionAt x e 4 axisZ) (directionAt x e 0 axisX)
  let scale := (e.real? 3).getD 1.0
  let scales : Vec3 Float :=
    if e.type = .known .cartesianTransformationOperator3DnonUniform then
      ⟨scale, (e.real? 5).getD scale, (e.real? 6).getD scale⟩
    else ⟨scale, scale, scale⟩
  return .affine (turn.mul (.diagonal scales)) origin

/-- The placement that an entity describes by itself; entities of other types leave everything in
its place. -/
def ownPlacement (x : EntityIndex) (e : Entity) : Except GeometryError (Matrix 4) :=
  match e.type with
  | .known .axis2Placement3D => placement3 x e
  | .known .axis2Placement2D => placement2 x e
  | .known .cartesianTransformationOperator3D
  | .known .cartesianTransformationOperator3DnonUniform => operator x e
  | _ => .ok .identity

/-- The placement of a member of a chain relative to the next one, and the next one. -/
def link (x : EntityIndex) (e : Entity) : Except GeometryError (Matrix 4 × Option EntityId) :=
  if e.type = .known .localPlacement then
    match (e.reference? 1).bind x.get? with
    | some relative => do
      let m ← ownPlacement x relative
      return (m, e.reference? 0)
    | none => .ok (.identity, e.reference? 0)
  else do
    let m ← ownPlacement x e
    return (m, none)

/-- The most members a chain may have. -/
def chainLimit : Nat := 256

/-- The relative placements of the chain from an instance up, at most `fuel` of them, leaving out
what was seen before. -/
def chainWithin (x : EntityIndex) : (fuel : Nat) → (seen : List EntityId) → Option EntityId →
    Except GeometryError (List (Matrix 4))
  | 0, _, _ => .ok []
  | _ + 1, _, none => .ok []
  | fuel + 1, seen, some id =>
    if seen.contains id then .ok []
    else do
      let e ← entity x id
      let (m, next) ← link x e
      let ms ← chainWithin x fuel (id :: seen) next
      return m :: ms

/-- The placement of an instance in the world: the relative placements of its chain, multiplied
from the world down. -/
def placement (x : EntityIndex) (id : EntityId) : Except GeometryError (Matrix 4) := do
  let ms ← chainWithin x chainLimit [] (some id)
  return ms.reverse.foldl Matrix.mul .identity

end BuildingModel.Geometry
