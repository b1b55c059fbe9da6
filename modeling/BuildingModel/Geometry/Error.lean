import BuildingModel.Step.Parameter

/-!
# Geometry errors

Why an entity has no placement, curve, profile or mesh.
-/

namespace BuildingModel.Geometry

/-- Why an entity has no geometry. -/
inductive GeometryError where
  /-- A corner of a face is not a positive number. -/
  | invalidCornerIndex
  /-- A corner of a face is beyond the list that renumbers the points. -/
  | unknownNumber (index : Nat)
  /-- A corner of a face is beyond the list of points. -/
  | unknownPoint (index : Nat)
  /-- There is no such entity. -/
  | entityNotFound (id : EntityId)
  /-- An attribute is missing. -/
  | missingAttribute (position : Nat) (name : String)
  /-- The wall of a hollow rectangle leaves no hole. -/
  | closedRectangle
  /-- The wall of a hollow circle leaves no hole. -/
  | closedCircle
  /-- The outer curve of a profile has fewer than three points. -/
  | fewProfilePoints
  /-- A swept area has fewer than three points. -/
  | fewSweptPoints
  /-- Entities of this type have no such geometry. -/
  | unsupportedType (name : String)
  /-- Curves or items are nested deeper than the limit. -/
  | tooDeep (limit : Nat)
deriving DecidableEq, Repr

/-- The text of a geometry error. -/
def GeometryError.message : GeometryError → String
  | .invalidCornerIndex => "Geometry error: Invalid coordinate index"
  | .unknownNumber i => "Geometry error: PnIndex " ++ toString i ++ " out of range"
  | .unknownPoint i => "Geometry error: Coordinate index " ++ toString i ++ " out of range"
  | .entityNotFound id => "Entity not found: " ++ id.text
  | .missingAttribute i name =>
    "Invalid attribute at index " ++ toString i ++ ": Missing " ++ name
  | .closedRectangle => "Profile error: Wall thickness closes the hollow rectangle"
  | .closedCircle => "Profile error: Invalid hollow circle: inner radius <= 0"
  | .fewProfilePoints => "Profile error: Profile must have at least 3 points"
  | .fewSweptPoints => "Profile error: Swept area has fewer than 3 points"
  | .unsupportedType name => "Unsupported geometry type: " ++ name
  | .tooDeep limit => "Representation nesting deeper than " ++ toString limit ++ " levels"

/-- The value of an attribute, or the error that it is missing. -/
def require {α : Type} (position : Nat) (name : String) : Option α → Except GeometryError α
  | some a => .ok a
  | none => .error (.missingAttribute position name)

end BuildingModel.Geometry
