import BuildingModel.Geometry.Extrusion
import BuildingModel.Geometry.Section

/-!
# Representation items

An item of a shape is turned into meshes by the processor of its type: extrusions, shells of plane
faces, face sets over a list of points, items that repeat another shape elsewhere, and boolean
results, which are reduced to their first operand. Repeated shapes and operands hold items again,
down to a limit.
-/

namespace BuildingModel.Geometry

/-- The families of items. -/
inductive Processor where
  /-- Extrusions of a profile. -/
  | extrusion
  /-- Shells of plane faces. -/
  | shell
  /-- Face sets over a list of points. -/
  | faceSet
  /-- Repeated shapes. -/
  | mapped
  /-- Boolean results. -/
  | boolean
deriving DecidableEq, Repr

/-- The family of the items of a type. -/
def Processor.ofType? : EntityType → Option Processor
  | .known .extrudedAreaSolid => some .extrusion
  | .known .facetedBrep | .known .facetedBrepWithVoids | .known .shellBasedSurfaceModel
  | .known .faceBasedSurfaceModel => some .shell
  | .known .triangulatedFaceSet | .known .polygonalFaceSet => some .faceSet
  | .known .mappedItem => some .mapped
  | .known .booleanResult | .known .booleanClippingResult => some .boolean
  | _ => none

/-- What is processed, and how finely. -/
structure Kernel where
  /-- The families that are processed. -/
  processors : List Processor := [.extrusion, .shell, .faceSet, .mapped, .boolean]
  /-- How many segments a circle has. -/
  segments : Nat := 24
deriving Repr

/-- The kernel with circles of the given number of segments, three at least. -/
def Kernel.withSegments (k : Kernel) (segments : Nat) : Kernel :=
  { k with segments := max segments 3 }

/-- The processor of the items of a type, if the kernel has it. -/
def Kernel.processor? (k : Kernel) (t : EntityType) : Option Processor :=
  (Processor.ofType? t).filter k.processors.contains

/-- The meshes of loops: one, or none when no face is left. -/
def meshesOfLoops (loops : List (List (Vec3 Float))) : List (Mesh Float) :=
  [Mesh.ofLoops loops].filter (!·.isEmpty)

/-! ## Extrusions -/

/-- The mesh of an extrusion: swept area, position, direction, depth. -/
def extrusion (k : Kernel) (x : EntityIndex) (item : Entity) :
    Except GeometryError (Mesh Float) := do
  let area ← require 0 "SweptArea" (x.follow? item 0)
  let depth ← require 3 "Depth" (item.real? 3)
  let p ← profile x area k.segments
  if p.outer.length < 3 then throw .fewSweptPoints
  let mesh := extrude p depth (directionAt x item 2 axisZ)
  match item.reference? 1 with
  | none => return mesh
  | some position =>
    let m ← placement x position
    return mesh.map m.apply

/-! ## Shells -/

/-- The points of a bound of a face: loop, orientation. -/
def boundPoints (x : EntityIndex) (bound : Entity) : Except GeometryError (List (Vec3 Float)) := do
  let loop ← require 0 "Bound" (x.follow? bound 0)
  if loop.type = .known .polyLoop then
    let points ← (loop.references 0).mapM (point x)
    return if bound.bool? 1 = some false then points.reverse else points
  else throw (.unsupportedType loop.type.name)

/-- The loop of a face. Its outer bound is the first that says so, or the first of all; bounds that
cannot be read are left out. -/
def faceLoop (x : EntityIndex) (face : Entity) : List (Vec3 Float) :=
  let bounds := (face.references 0).filterMap x.get?
  let outerAt := (bounds.findIdx? (·.type = .known .faceOuterBound)).getD 0
  let read (bound : Entity) : Option (List (Vec3 Float)) := (boundPoints x bound).toOption
  let outer := (bounds[outerAt]?.bind read).getD []
  bridge outer ((bounds.eraseIdx outerAt).filterMap read)

/-- The loops of the faces of a shell. -/
def shellLoops (x : EntityIndex) (shell : Entity) : List (List (Vec3 Float)) :=
  ((shell.references 0).filterMap x.get?).map (faceLoop x)

/-- The meshes of the shells of an item, one for each shell that has a face. -/
def shells (x : EntityIndex) (item : Entity) : Except GeometryError (List (Mesh Float)) := do
  let ids ← match item.type with
    | .known .facetedBrep | .known .facetedBrepWithVoids => do
      let outer ← require 0 "Outer" (item.reference? 0)
      pure (outer :: item.references 1)
    | _ => pure (item.references 0)
  return (ids.filterMap x.get?).flatMap fun shell => meshesOfLoops (shellLoops x shell)

/-! ## Face sets -/

/-- The points of a list of points in space. -/
def pointList (x : EntityIndex) (id : EntityId) : Except GeometryError (List (Vec3 Float)) := do
  let e ← entity x id
  let coordinates ← require 0 "CoordList" (e.list? 0)
  return (coordinates.filterMap Parameter.asList?).map point3

/-- The numbers of a list that are positive. -/
def positives (ps : List Parameter) : List Nat :=
  ((ps.filterMap Parameter.asInteger?).filter (1 ≤ ·)).map Int.toNat

/-- The point of a corner, counted from one, through the list of numbers if that is not empty. -/
def cornerPoint (points : Array (Vec3 Float)) (numbers : List Nat) (corner : Parameter) :
    Except GeometryError (Vec3 Float) :=
  match corner.asInteger?.filter (1 ≤ ·) with
  | none => .error .invalidCornerIndex
  | some n =>
    let raw := n.toNat
    match if numbers.isEmpty then some raw else numbers[raw - 1]? with
    | none => .error (.unknownNumber raw)
    | some i =>
      match points[i - 1]? with
      | none => .error (.unknownPoint i)
      | some p => .ok p

/-- The points of the corners of a face. -/
def cornerPoints (points : Array (Vec3 Float)) (numbers : List Nat) (corners : List Parameter) :
    Except GeometryError (List (Vec3 Float)) :=
  corners.mapM (cornerPoint points numbers)

/-- The loops of triangles. -/
def triangleLoops (points : Array (Vec3 Float)) (numbers : List Nat) (triangles : List Parameter) :
    Except GeometryError (List (List (Vec3 Float))) :=
  (triangles.filterMap Parameter.asList?).mapM (cornerPoints points numbers)

/-- The loop of a polygon with holes, if it has corners: corners, corners of the holes. -/
def polygonLoop? (points : Array (Vec3 Float)) (numbers : List Nat) (face : Entity) :
    Except GeometryError (Option (List (Vec3 Float))) := do
  match face.list? 0 with
  | none => return none
  | some corners =>
    let outer ← cornerPoints points numbers corners
    let holes ← (((face.list? 1).getD []).filterMap Parameter.asList?).mapM
      (cornerPoints points numbers)
    return some (bridge outer holes)

/-- The loops of a face set. -/
def faceSetLoops (x : EntityIndex) (item : Entity) :
    Except GeometryError (List (List (Vec3 Float))) := do
  let coordinates ← require 0 "Coordinates" (item.reference? 0)
  let points ← pointList x coordinates
  let points := points.toArray
  if item.type = .known .triangulatedFaceSet then
    let triangles ← require 3 "CoordIndex" (item.list? 3)
    triangleLoops points (positives ((item.list? 4).getD [])) triangles
  else
    let numbers := positives ((item.list? 3).getD [])
    let loops ← ((item.references 2).filterMap x.get?).mapM (polygonLoop? points numbers)
    return loops.filterMap id

/-! ## Items -/

/-- How many repeated shapes and operands may be nested. -/
def itemLimit : Nat := 32

/-- The placement of a repeated shape: target, then the origin of its source. -/
def mapping (x : EntityIndex) (item source : Entity) : Except GeometryError (Matrix 4) := do
  let target ← match item.reference? 1 with
    | some id => placement x id
    | none => pure .identity
  match source.reference? 0 with
  | some id => do
    let origin ← placement x id
    return target.mul origin
  | none => return target

/-- The meshes of an item, with repeated shapes and operands nested less than `levels` deep. -/
def meshesWithin (k : Kernel) (x : EntityIndex) : (levels : Nat) → Entity →
    Except GeometryError (List (Mesh Float))
  | 0, _ => .error (.tooDeep itemLimit)
  | levels + 1, item =>
    match k.processor? item.type with
    | none => .error (.unsupportedType item.type.name)
    | some .extrusion => do
      let mesh ← extrusion k x item
      return [mesh]
    | some .shell => shells x item
    | some .faceSet => do
      let loops ← faceSetLoops x item
      return meshesOfLoops loops
    | some .mapped => do
      let source ← require 0 "MappingSource" (x.follow? item 0)
      let shape ← require 1 "MappedRepresentation" (x.follow? source 1)
      let m ← mapping x item source
      let meshes ← ((shape.references 3).filterMap x.get?).mapM (meshesWithin k x levels)
      return meshes.flatten.map (Mesh.map m.apply)
    | some .boolean => do
      let first ← require 1 "FirstOperand" (x.follow? item 1)
      meshesWithin k x levels first

/-- The meshes of an item that is nested at a depth. -/
def meshes (k : Kernel) (x : EntityIndex) (item : Entity) (depth : Nat := 0) :
    Except GeometryError (List (Mesh Float)) :=
  meshesWithin k x (itemLimit + 1 - depth) item

end BuildingModel.Geometry
