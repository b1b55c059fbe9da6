import BuildingModel.Geometry.Curve

/-!
# Sections

The profiles that entities describe: rectangles, circles, I-shapes and L-shapes by their measures,
which may be moved to a position, and arbitrary ones by their curves.
-/

namespace BuildingModel.Geometry

/-- A measure of a profile. -/
def measure (e : Entity) (i : Nat) (name : String) : Except GeometryError Float :=
  require i name (e.real? i)

/-- The rectangle of a width and a height around the origin. -/
def rectangle (width height : Float) : Profile Float :=
  let w := width / 2.0
  let h := height / 2.0
  .ofOuter [⟨-w, -h⟩, ⟨w, -h⟩, ⟨w, h⟩, ⟨-w, h⟩]

/-- The smaller of two numbers. -/
def smaller (a b : Float) : Float :=
  if b < a then b else a

/-- The profile that an entity describes by its measures; none for profiles of other kinds. -/
def measuredProfile? (e : Entity) (segments : Nat) :
    Except GeometryError (Option (Profile Float)) := do
  match e.type with
  | .known .rectangleProfileDef =>
    let width ← measure e 3 "XDim"
    let height ← measure e 4 "YDim"
    return some (rectangle width height)
  | .known .rectangleHollowProfileDef =>
    let width ← measure e 3 "XDim"
    let height ← measure e 4 "YDim"
    let wall ← measure e 5 "WallThickness"
    if 2.0 * wall >= smaller width height then throw .closedRectangle
    let hole := rectangle (width - 2.0 * wall) (height - 2.0 * wall)
    return some ((rectangle width height).addHole hole.outer)
  | .known .circleProfileDef =>
    let radius ← measure e 3 "Radius"
    return some (.ofOuter (circlePoints radius segments))
  | .known .circleHollowProfileDef =>
    let radius ← measure e 3 "Radius"
    let wall ← measure e 4 "WallThickness"
    let inner := radius - wall
    if inner <= 0.0 then throw .closedCircle
    return some ((Profile.ofOuter (circlePoints radius segments)).addHole
      (circlePoints inner segments))
  | .known .iShapeProfileDef =>
    let width ← measure e 3 "OverallWidth"
    let depth ← measure e 4 "OverallDepth"
    let web ← measure e 5 "WebThickness"
    let flange ← measure e 6 "FlangeThickness"
    let w := width / 2.0
    let d := depth / 2.0
    let t := web / 2.0
    return some (.ofOuter
      [⟨-w, -d⟩, ⟨w, -d⟩, ⟨w, -d + flange⟩, ⟨t, -d + flange⟩, ⟨t, d - flange⟩, ⟨w, d - flange⟩,
       ⟨w, d⟩, ⟨-w, d⟩, ⟨-w, d - flange⟩, ⟨-t, d - flange⟩, ⟨-t, -d + flange⟩,
       ⟨-w, -d + flange⟩])
  | .known .lShapeProfileDef =>
    let depth ← measure e 3 "Depth"
    let width := (e.real? 4).getD depth
    let t ← measure e 5 "Thickness"
    return some (.ofOuter
      [⟨0.0, 0.0⟩, ⟨width, 0.0⟩, ⟨width, t⟩, ⟨t, t⟩, ⟨t, depth⟩, ⟨0.0, depth⟩])
  | _ => return none

/-- The profile that an entity describes by its curves. Inner curves that have no points, or fewer
than three, are left out. -/
def drawnProfile (x : EntityIndex) (e : Entity) (segments : Nat) :
    Except GeometryError (Profile Float) := do
  let outerId ← require 2 "OuterCurve" (e.reference? 2)
  let outer ← curve x segments outerId
  if outer.length < 3 then throw .fewProfilePoints
  let holes := (e.references 3).filterMap fun id => (curve x segments id).toOption
  return (holes.filter (3 ≤ ·.length)).foldl Profile.addHole (.ofOuter outer)

/-- The profile that an entity describes. -/
def profile (x : EntityIndex) (e : Entity) (segments : Nat) :
    Except GeometryError (Profile Float) := do
  match e.type with
  | .known .arbitraryClosedProfileDef | .known .arbitraryProfileDefWithVoids =>
    drawnProfile x e segments
  | t =>
    let measured ← measuredProfile? e segments
    match measured with
    | none => throw (.unsupportedType t.name)
    | some p =>
      let position ← positionAt? x e 2
      return match position with
        | some m => p.map m.applyFlat
        | none => p

end BuildingModel.Geometry
