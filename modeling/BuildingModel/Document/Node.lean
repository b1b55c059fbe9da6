import BuildingModel.Document.Fragment
import BuildingModel.Json.Basic

/-!
# Nodes

A node is an entity as documents hold it: its type and names, a sheet of properties and, for a
product with a shape, its geometry.
-/

namespace BuildingModel.Document

open BuildingModel.Geometry

/-- The value of a quantity with its unit. -/
structure Amount where
  /-- The value. -/
  value : Float
  /-- The label of the unit. -/
  unit : String
deriving Repr

/-- The properties of a node. Sets and values are in ascending order of their names, which are
distinct: of several with one name the last one counts. -/
structure PropertySheet where
  /-- The instance name. -/
  entityId : EntityId
  /-- The name of the class. -/
  className : String
  /-- The values of the property sets. -/
  propertySets : List (String × List (String × PropertyValue)) := []
  /-- The quantities of all quantity sets. -/
  quantities : List (String × Amount) := []
  /-- The object type, if it is not empty. -/
  objectType : Option String := none
  /-- The tag, if it is not empty. -/
  tag : Option String := none
deriving Repr

/-- An entity in a document. -/
structure Node where
  /-- The instance name. -/
  id : EntityId
  /-- The label of the type. -/
  type : String
  /-- The global identifier. -/
  globalId : Option String
  /-- The name. -/
  name : Option String
  /-- The description. -/
  description : Option String
  /-- The properties. -/
  properties : PropertySheet
  /-- The geometry. -/
  geometry : Option GeometryFragment
deriving Repr

/-- The properties of an entity, or only its name and class. -/
def propertySheet (m : Model) (withProperties : Bool) (e : Entity) : PropertySheet :=
  let bare : PropertySheet := { entityId := e.id, className := e.type.name }
  if withProperties then
    { bare with
      propertySets := Json.sortFields <| (m.propertySets e.id).map fun set =>
        (set.name, Json.sortFields (set.properties.map fun p => (p.name, p.value)))
      quantities := Json.sortFields <| (m.quantities e.id).map fun q =>
        (q.name, ⟨q.value, q.unit⟩)
      objectType := (m.objectType? e.id).filter (!·.isEmpty)
      tag := (m.tag? e.id).filter (!·.isEmpty) }
  else bare

/-- What the nodes of a document are made from. -/
structure NodeSource where
  /-- The model. -/
  model : Model
  /-- The shapes, if nodes are to have geometry. -/
  shapes : Option ShapeIndex := none
  /-- Whether corners at one position share a vertex. -/
  sharedVertices : Bool := false
  /-- Whether nodes have their properties. -/
  withProperties : Bool := true

namespace NodeSource

/-- The geometry of an entity. -/
def geometry? (s : NodeSource) (id : EntityId) : Option GeometryFragment :=
  (s.shapes.bind (·.get? id)).map (fragment s.sharedVertices)

/-- The node of an entity. -/
def node (s : NodeSource) (e : Entity) : Node where
  id := e.id
  type := e.type.label
  globalId := e.globalId?
  name := e.name?
  description := e.description?
  properties := propertySheet s.model s.withProperties e
  geometry := s.geometry? e.id

/-- The node of an instance. -/
def node? (s : NodeSource) (id : EntityId) : Option Node :=
  (s.model.get? id).map s.node

end NodeSource

end BuildingModel.Document
