import BuildingModel.Geometry.Placement

/-!
# Curves

A bounded curve of the plane is read as the points along it. Circles are sampled; composite curves
join the points of their segments, which may be composite again.
-/

namespace BuildingModel.Geometry

/-- The points of a circle around the origin, at least three of them. -/
def circlePoints (radius : Float) (segments : Nat) : List (Vec2 Float) :=
  let n := max segments 3
  (List.range n).map fun i =>
    let angle := 2.0 * 3.141592653589793 * Float.ofNat i / Float.ofNat n
    ⟨radius * angle.cos, radius * angle.sin⟩

/-- The distance at which points of a curve count as one. -/
def joinDistance : Float := 1e-10

/-- A loop without a last point that repeats the first. -/
def openLoop (loop : List (Vec2 Float)) : List (Vec2 Float) :=
  match loop.head?, loop.getLast? with
  | some first, some last =>
    if loop.length > 1 && (first.sub last).norm < joinDistance then loop.dropLast else loop
  | _, _ => loop

/-- A curve that goes on with another one, whose first point may repeat the last. -/
def joinCurves (a b : List (Vec2 Float)) : List (Vec2 Float) :=
  match a.getLast?, b with
  | some last, first :: r => if (last.sub first).norm < joinDistance then a ++ r else a ++ b
  | _, _ => a ++ b

/-- The place of a parameterized profile or circle, when the attribute refers to an entity. -/
def positionAt? (x : EntityIndex) (e : Entity) (i : Nat) :
    Except GeometryError (Option (Matrix 4)) :=
  match (e.reference? i).bind x.get? with
  | some position => do
    let m ← placement2 x position
    return some m
  | none => .ok none

/-- How many composite curves may be nested. -/
def curveLimit : Nat := 16

/-- The points along a curve with composite curves nested less than `levels` deep. -/
def curveWithin (x : EntityIndex) (segments : Nat) : (levels : Nat) → EntityId →
    Except GeometryError (List (Vec2 Float))
  | 0, _ => .error (.tooDeep curveLimit)
  | levels + 1, id => do
    let e ← entity x id
    match e.type with
    | .known .polyline => (e.references 0).mapM (flatPoint x)
    | .known .indexedPolyCurve =>
      let listId ← require 0 "Points" (e.reference? 0)
      let points ← entity x listId
      let coordinates ← require 0 "CoordList" (points.list? 0)
      return (coordinates.filterMap Parameter.asList?).map point2
    | .known .compositeCurve =>
      ((e.references 0).filterMap x.get?).foldlM
        (fun points segment =>
          match segment.reference? 2 with
          | none => pure points
          | some parent => do
            let part ← curveWithin x segments levels parent
            let part := if segment.bool? 1 = some false then part.reverse else part
            return joinCurves points part)
        []
    | .known .circle =>
      let radius ← require 1 "Radius" (e.real? 1)
      let circle := Profile.ofOuter (circlePoints radius segments)
      let position ← positionAt? x e 0
      return match position with
        | some m => circle.outer.map m.applyFlat
        | none => circle.outer
    | _ => throw (.unsupportedType e.type.name)

/-- The points along a curve, without a last one that repeats the first. -/
def curve (x : EntityIndex) (segments : Nat) (id : EntityId) :
    Except GeometryError (List (Vec2 Float)) := do
  let points ← curveWithin x segments (curveLimit + 1) id
  return openLoop points

end BuildingModel.Geometry
