import BuildingModel.Model.Units

/-!
# Properties and quantities

Property sets and quantity sets are attached to objects by relationships. They are read in the
order of the relationships; a set that holds nothing readable is left out.
-/

namespace BuildingModel

/-- The value of a property. -/
inductive PropertyValue where
  /-- No value. -/
  | null
  /-- A truth value. -/
  | bool (b : Bool)
  /-- A whole number. -/
  | integer (n : Int)
  /-- A real number. -/
  | real (x : Float)
  /-- A text. -/
  | text (s : String)
  /-- A list of values. -/
  | list (items : List PropertyValue)
deriving Repr

/-- A property. -/
structure Property where
  /-- The name. -/
  name : String
  /-- The value. -/
  value : PropertyValue
  /-- The label of the unit. -/
  unit : Option String
deriving Repr

/-- A set of properties. -/
structure PropertySet where
  /-- The name. -/
  name : String
  /-- The properties in the order of the file. -/
  properties : List Property
deriving Repr

/-- What a quantity measures. -/
inductive QuantityKind where
  /-- A length. -/
  | length
  /-- An area. -/
  | area
  /-- A volume. -/
  | volume
  /-- A number of things. -/
  | count
  /-- A mass. -/
  | weight
  /-- A duration. -/
  | time
deriving DecidableEq, Repr

/-- A quantity. -/
structure Quantity where
  /-- The name. -/
  name : String
  /-- The measured value. -/
  value : Float
  /-- The label of the unit. -/
  unit : String
  /-- What is measured. -/
  kind : QuantityKind
deriving Repr

/-- A set of quantities. -/
structure QuantitySet where
  /-- The name. -/
  name : String
  /-- The quantities in the order of the file. -/
  quantities : List Quantity
deriving Repr

/-- That an object has a set of properties or quantities. -/
structure DefinitionLink where
  /-- The object. -/
  object : EntityId
  /-- The set. -/
  definition : EntityId
deriving DecidableEq, Repr

/-- The unit of a quantity that names none. -/
def QuantityKind.defaultUnit : QuantityKind → String
  | .length => "m"
  | .area => "m²"
  | .volume => "m³"
  | .count => ""
  | .weight => "kg"
  | .time => "s"

/-- The kind of quantity that entities of a type are. -/
def QuantityKind.ofType? : EntityType → Option QuantityKind
  | .known .quantityLength => some .length
  | .known .quantityArea => some .area
  | .known .quantityVolume => some .volume
  | .known .quantityCount => some .count
  | .known .quantityWeight => some .weight
  | .known .quantityTime => some .time
  | _ => none

/-- The first property of a name in a set. -/
def PropertySet.get? (set : PropertySet) (name : String) : Option Property :=
  set.properties.find? (·.name == name)

/-- Whether the values of a type are truth values. -/
def isTruthType (type : String) : Bool :=
  type.toUpper == "IFCBOOLEAN" || type.toUpper == "IFCLOGICAL"

mutual

/-- The value that a parameter gives a property: a typed value is read as its first argument, an
enumeration item as its text or, under a type of truth values, as a truth value. -/
def PropertyValue.ofParameter : Parameter → PropertyValue
  | .typed _ [] => .null
  | .typed type (.enumeration item :: _) =>
    if isTruthType type then ((Parameter.truth? item).map .bool).getD (.text item)
    else .text item
  | .typed _ (p :: _) => ofParameter p
  | .text s => .text s
  | .integer n => .integer n
  | .real x => .real x
  | .enumeration item => .text item
  | .list items => .list (ofParameters items)
  | .reference id => .text id.text
  | .null => .null
  | .derived => .null

/-- The values that the items of a list give. -/
def PropertyValue.ofParameters : List Parameter → List PropertyValue
  | [] => []
  | p :: ps => ofParameter p :: ofParameters ps

end

namespace Properties

/-- The label of the unit that an attribute refers to. -/
def unitAt? (x : EntityIndex) (e : Entity) (i : Nat) : Option String :=
  (x.follow? e i).bind Units.label?

/-- The property that an entity describes. -/
def property? (x : EntityIndex) (e : Entity) : Option Property :=
  (e.text? 0).bind fun name =>
    match e.type with
    | .known .propertySingleValue | .known .propertyListValue =>
      (e.attribute? 2).map fun p => ⟨name, .ofParameter p, unitAt? x e 3⟩
    | .known .propertyEnumeratedValue =>
      (e.attribute? 2).map fun p => ⟨name, .ofParameter p, none⟩
    | .known .propertyBoundedValue =>
      let bound (i : Nat) : PropertyValue := ((e.attribute? i).map .ofParameter).getD .null
      some ⟨name, .list [bound 3, bound 2], unitAt? x e 4⟩
    | _ => none

/-- The quantity that an entity describes. -/
def quantity? (x : EntityIndex) (e : Entity) : Option Quantity :=
  match e.text? 0, QuantityKind.ofType? e.type, e.real? 3 with
  | some name, some kind, some value =>
    some ⟨name, value, (unitAt? x e 2).getD kind.defaultUnit, kind⟩
  | _, _, _ => none

/-- The links of a model from objects to their sets, in the order of the relationships. -/
def links (x : EntityIndex) : List DefinitionLink :=
  (x.entitiesOf (.known .relDefinesByProperties)).flatMap fun relation =>
    match relation.reference? 5 with
    | none => []
    | some definition => (relation.references 4).map fun object => ⟨object, definition⟩

/-- The sets of a type that an object is linked to. -/
def definitionsOf (x : EntityIndex) (ls : List DefinitionLink) (t : EntityType) (id : EntityId) :
    List Entity :=
  ((ls.filter fun l => l.object == id && x.typeOf? l.definition = some t).map
    (·.definition)).filterMap x.get?

/-- The property set that an entity describes. -/
def propertySet (x : EntityIndex) (e : Entity) : PropertySet :=
  ⟨(e.text? 2).getD "Unknown", (x.followAll e 4).filterMap (property? x)⟩

/-- The quantity set that an entity describes. -/
def quantitySet (x : EntityIndex) (e : Entity) : QuantitySet :=
  ⟨(e.text? 2).getD "Unknown", (x.followAll e 5).filterMap (quantity? x)⟩

/-- The property sets of an object. -/
def propertySets (x : EntityIndex) (ls : List DefinitionLink) (id : EntityId) :
    List PropertySet :=
  ((definitionsOf x ls (.known .propertySet) id).map (propertySet x)).filter
    (!·.properties.isEmpty)

/-- The quantity sets of an object. -/
def quantitySets (x : EntityIndex) (ls : List DefinitionLink) (id : EntityId) :
    List QuantitySet :=
  ((definitionsOf x ls (.known .elementQuantity) id).map (quantitySet x)).filter
    (!·.quantities.isEmpty)

end Properties

end BuildingModel
