import BuildingModel.Schema.EntityType
import BuildingModel.Step.Record

/-!
# Entities

An entity is an instance whose keyword is read as a type and whose strings are decoded. Attributes
are found by their position.
-/

namespace BuildingModel

/-- An instance of a model. -/
structure Entity where
  /-- The instance name. -/
  id : EntityId
  /-- The type. -/
  type : EntityType
  /-- The values of the attributes in order. -/
  attributes : List Parameter
deriving BEq, Repr

namespace Entity

/-- The entity that an instance describes. -/
def ofInstance (i : Step.Instance) : Entity where
  id := i.id
  type := .ofTag i.record.keyword
  attributes := i.record.parameters.map Parameter.decoded

/-- The entity at the front of the text, after white space. -/
def parse (s : List Char) : Except Step.SyntaxError Entity :=
  (Step.Instance.parse s).map ofInstance

/-- The value of the attribute at a position. -/
def attribute? (e : Entity) (i : Nat) : Option Parameter :=
  e.attributes[i]?

/-- The instance that the attribute at a position refers to. -/
def reference? (e : Entity) (i : Nat) : Option EntityId :=
  e.attribute? i >>= Parameter.asReference?

/-- The string at a position. -/
def text? (e : Entity) (i : Nat) : Option String :=
  e.attribute? i >>= Parameter.asText?

/-- The real number at a position. -/
def real? (e : Entity) (i : Nat) : Option Float :=
  e.attribute? i >>= Parameter.asReal?

/-- The list at a position. -/
def list? (e : Entity) (i : Nat) : Option (List Parameter) :=
  e.attribute? i >>= Parameter.asList?

/-- The truth value at a position. -/
def bool? (e : Entity) (i : Nat) : Option Bool :=
  e.attribute? i >>= Parameter.asBool?

/-- The enumeration item at a position. -/
def enumeration? (e : Entity) (i : Nat) : Option String :=
  e.attribute? i >>= Parameter.asEnumeration?

/-- The instances that the items of the list at a position refer to. -/
def references (e : Entity) (i : Nat) : List EntityId :=
  ((e.list? i).getD []).filterMap Parameter.asReference?

/-- The global identifier of an entity that has one. -/
def globalId? (e : Entity) : Option String :=
  e.text? 0

/-- The name of an entity that has one. -/
def name? (e : Entity) : Option String :=
  e.text? 2

/-- The description of an entity that has one. -/
def description? (e : Entity) : Option String :=
  e.text? 3

end Entity

end BuildingModel
