import BuildingModel.Document.Basic
import BuildingModel.Model.Encoding

/-!
# Documents as JSON

Every part of a document is an object with its fields in a fixed order; the properties of a node
are in ascending order of their keys. What is absent is left out, but a document without a tree
says so.
-/

namespace BuildingModel.Document

open BuildingModel.Geometry

/-- The field of an optional value, if it is present. -/
def optionalField {α : Type} (key : String) (encode : α → Json) :
    Option α → List (String × Json)
  | some a => [(key, encode a)]
  | none => []

/-- A field of named values, unless there are none. -/
def namedField {α : Type} (key : String) (encode : α → Json) (values : List (String × α)) :
    List (String × Json) :=
  if values.isEmpty then []
  else [(key, .object (values.map fun (name, v) => (name, encode v)))]

/-- A point as an array. -/
def pointJson (p : Vec3 Float) : Json :=
  .array [.ofFloat p.x, .ofFloat p.y, .ofFloat p.z]

/-- A matrix as an array of rows. -/
def matrixJson (m : Matrix 4) : Json :=
  .array (m.toLists.map fun row => .array (row.map .ofFloat))

/-- A mesh as an object. -/
def MeshFragment.toJson (m : MeshFragment) : Json :=
  .object
    [("vertices", .array (m.vertices.toList.map pointJson)),
     ("faces", .array (m.faces.map fun face => .array (face.map .ofNat)))]

/-- A fragment as an object. -/
def GeometryFragment.toJson (f : GeometryFragment) : Json :=
  .object
    [("transform", matrixJson f.transform), ("meshes", .array (f.meshes.map MeshFragment.toJson))]

/-- A quantity as an object. -/
def Amount.toJson (a : Amount) : Json :=
  .object [("unit", .text a.unit), ("value", .ofFloat a.value)]

/-- A property set as an object. -/
def setJson (set : List (String × PropertyValue)) : Json :=
  .object (set.map fun (name, v) => (name, v.toJson))

/-- The properties of a node as an object. -/
def PropertySheet.toJson (s : PropertySheet) : Json :=
  .object <|
    [("className", .text s.className), ("entityId", .ofNat s.entityId.toNat)]
      ++ Json.textField "objectType" s.objectType
      ++ namedField "propertySets" setJson s.propertySets
      ++ namedField "quantities" Amount.toJson s.quantities
      ++ Json.textField "tag" s.tag

/-- The fields of a node. -/
def Node.fields (n : Node) : List (String × Json) :=
  [("id", .ofNat n.id.toNat), ("type", .text n.type)]
    ++ Json.textField "globalId" n.globalId
    ++ Json.textField "name" n.name
    ++ Json.textField "description" n.description
    ++ [("properties", n.properties.toJson)]
    ++ optionalField "geometry" GeometryFragment.toJson n.geometry

/-- A node as an object. -/
def Node.toJson (n : Node) : Json :=
  .object n.fields

mutual

/-- A tree of nodes as an object: the fields of its root, and its subtrees. -/
def treeJson : Tree Node → Json
  | .node n ts => .object (n.fields ++ [("children", .array (treesJson ts))])

/-- Trees of nodes as objects. -/
def treesJson : List (Tree Node) → List Json
  | [] => []
  | t :: ts => treeJson t :: treesJson ts

end

/-- A document as an object. -/
def ModelDocument.toJson (d : ModelDocument) : Json :=
  .object <|
    optionalField "project" Node.toJson d.project
      ++ [("entities", .array (d.entities.map Node.toJson)),
          ("hierarchy", .ofOption (d.hierarchy.map treeJson)),
          ("metadata", d.metadata.toJson)]

end BuildingModel.Document
