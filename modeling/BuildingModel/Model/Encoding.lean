import BuildingModel.Json.Basic
import BuildingModel.Model

/-!
# Headers, properties and quantities as JSON

What is absent is left out of an object, and the value of a property becomes the plain value it
is.
-/

namespace BuildingModel

/-- The field of an optional text, if it is present. -/
def Json.textField (key : String) : Option String → List (String × Json)
  | some s => [(key, .text s)]
  | none => []

/-- The header as an object. -/
def Step.Header.toJson (h : Step.Header) : Json :=
  .object <|
    [("schemaVersion", .text h.schemaVersion)]
      ++ Json.textField "fileName" h.fileName
      ++ Json.textField "timestamp" h.timestamp
      ++ Json.textField "author" h.author
      ++ Json.textField "organization" h.organization
      ++ Json.textField "preprocessorVersion" h.preprocessorVersion
      ++ Json.textField "originatingSystem" h.originatingSystem

mutual

/-- The value of a property. -/
def PropertyValue.toJson : PropertyValue → Json
  | .null => .null
  | .bool b => .bool b
  | .integer n => .int n
  | .real x => .ofFloat x
  | .text s => .text s
  | .list items => .array (PropertyValue.listToJson items)

/-- The values of a list. -/
def PropertyValue.listToJson : List PropertyValue → List Json
  | [] => []
  | v :: vs => v.toJson :: PropertyValue.listToJson vs

end

/-- A property as an object. -/
def Property.toJson (p : Property) : Json :=
  .object <|
    [("name", .text p.name), ("value", p.value.toJson)] ++ Json.textField "unit" p.unit

/-- A property set as an object. -/
def PropertySet.toJson (set : PropertySet) : Json :=
  .object
    [("name", .text set.name), ("properties", .array (set.properties.map Property.toJson))]

/-- The name of what a quantity measures. -/
def QuantityKind.name : QuantityKind → String
  | .length => "Length"
  | .area => "Area"
  | .volume => "Volume"
  | .count => "Count"
  | .weight => "Weight"
  | .time => "Time"

/-- A quantity as an object. -/
def Quantity.toJson (q : Quantity) : Json :=
  .object
    [("name", .text q.name), ("value", .ofFloat q.value), ("unit", .text q.unit),
     ("quantity_type", .text q.kind.name)]

/-- A quantity set as an object. -/
def QuantitySet.toJson (set : QuantitySet) : Json :=
  .object
    [("name", .text set.name), ("quantities", .array (set.quantities.map Quantity.toJson))]

end BuildingModel
