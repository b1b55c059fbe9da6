import BuildingModel.Files.Error
import BuildingModel.Model.Properties
import BuildingModel.Model.Spatial
import BuildingModel.Step.Header

/-!
# Models

A model is what an exchange file holds: its header, its instances, the links between them and the
scale of its lengths. A file loads if it bears the signature of exchange files, has a data section
and names no schema of another domain; malformed instances are kept out of reach, not refused.
-/

namespace BuildingModel

/-- A loaded exchange file. -/
structure Model where
  /-- What the header tells. -/
  header : Step.Header
  /-- The instances. -/
  index : EntityIndex
  /-- The metres in the length unit of the file. -/
  lengthScale : Float
  /-- The links to property and quantity sets; none when properties are not read. -/
  definitionLinks : List DefinitionLink
  /-- The links of the spatial structure. -/
  spatialLinks : List SpatialLink

/-- Why a model cannot be had, or an entity of it. -/
inductive LoadError where
  /-- The signature of exchange files is missing. -/
  | missingSignature
  /-- There is no data section. -/
  | missingData
  /-- The schema is not one of building data. -/
  | unsupportedSchema (schema : String)
  /-- There is no such entity. -/
  | entityNotFound (id : EntityId)
  /-- The file cannot be read. -/
  | file (error : FileError)
deriving DecidableEq, Repr

/-- The text of a load error. -/
def LoadError.message : LoadError → String
  | .missingSignature => "Invalid IFC format: missing ISO-10303-21 signature"
  | .missingData => "Invalid IFC format: missing DATA section"
  | .unsupportedSchema schema => "Unsupported schema version: " ++ schema
  | .entityNotFound id => "Entity " ++ id.text ++ " not found"
  | .file error => "IO error: " ++ error.message

namespace Model

open Text

/-- Whether a content starts with the signature of exchange files, after byte order marks and then
white space. -/
def hasSignature (content : String) : Bool :=
  (afterWord? "ISO-10303-21".toList
    (trimLeft (content.toList.dropWhile (· == '\uFEFF')))).isSome

/-- Whether a content has a data section. -/
def hasData (content : String) : Bool :=
  (afterFirst? Step.Statement.sectionStart content.toList).isSome

/-- Whether data under a schema can be read. A file may leave its schema out. -/
def supports (schema : String) : Bool :=
  schema.isEmpty || schema.toUpper.startsWith "IFC"

/-- The model of the instances and the header of a file. -/
def ofParts (header : Step.Header) (index : EntityIndex) (withProperties : Bool) : Model where
  header := header
  index := index
  lengthScale := Units.lengthScale index
  definitionLinks := if withProperties then Properties.links index else []
  spatialLinks := Spatial.links index

/-- The model of a content. -/
def load (content : String) (withProperties : Bool := true) : Except LoadError Model :=
  if !hasSignature content then .error .missingSignature
  else if !hasData content then .error .missingData
  else
    let header := Step.Header.ofContent content
    if supports header.schemaVersion then
      .ok (ofParts header (.ofContent content) withProperties)
    else .error (.unsupportedSchema header.schemaVersion)

/-- The entity of an instance name. -/
def get? (m : Model) (id : EntityId) : Option Entity :=
  m.index.get? id

/-- The entity of an instance name, or the error that there is none. -/
def get (m : Model) (id : EntityId) : Except LoadError Entity :=
  match m.get? id with
  | some e => .ok e
  | none => .error (.entityNotFound id)

/-- The project: the first instance name with a statement of a project. -/
def project? (m : Model) : Option EntityId :=
  (m.index.idsOf (.known .project)).head?

/-- The objects attached to an object: its parts, then its elements. -/
def children (m : Model) (id : EntityId) : List EntityId :=
  Spatial.children m.spatialLinks id

/-- The object that an object is first attached to. -/
def container? (m : Model) (id : EntityId) : Option EntityId :=
  (Spatial.parent? m.spatialLinks id).map (·.parent)

/-- The property sets of an object. -/
def propertySets (m : Model) (id : EntityId) : List PropertySet :=
  Properties.propertySets m.index m.definitionLinks id

/-- The quantity sets of an object. -/
def quantitySets (m : Model) (id : EntityId) : List QuantitySet :=
  Properties.quantitySets m.index m.definitionLinks id

/-- The quantities of all sets of an object. -/
def quantities (m : Model) (id : EntityId) : List Quantity :=
  (m.quantitySets id).flatMap (·.quantities)

/-- The first property of a name in the sets of an object. -/
def property? (m : Model) (id : EntityId) (name : String) : Option Property :=
  ((m.propertySets id).flatMap (·.properties)).find? (·.name == name)

/-- The object type that an object names. -/
def objectType? (m : Model) (id : EntityId) : Option String :=
  (m.get? id).bind fun e => if e.type.isObject then e.text? 4 else none

/-- The tag of an element. -/
def tag? (m : Model) (id : EntityId) : Option String :=
  (m.get? id).bind fun e => if e.type.kind = .element then e.text? 7 else none

end Model

end BuildingModel
