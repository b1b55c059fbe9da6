import BuildingModel.Schema.EntityClass
import BuildingModel.Text.Blank

/-!
# Entity types

The type of an entity is a class of the table, or a tag that the table does not have.
-/

namespace BuildingModel

/-- The type of an entity. -/
inductive EntityType where
  /-- A class of the table. -/
  | known (c : EntityClass)
  /-- A tag that is not in the table, as it is written. -/
  | unknown (tag : String)
deriving DecidableEq, Repr

namespace EntityType

/-- The type of a tag, whose letters may be of either case. -/
def ofTag (tag : String) : EntityType :=
  match EntityClass.ofTag? tag with
  | some c => .known c
  | none => .unknown tag

/-- The text without the letters `ifc`, of either case, at its front. -/
def withoutSchemaName (s : List Char) : List Char :=
  match s with
  | a :: b :: c :: r => if [a, b, c].map Char.toLower == ['i', 'f', 'c'] then r else s
  | _ => s

/-- The type a reader names: the label, the name or the tag of a class, in letters of either case
and between any white space. -/
def ofLabel (s : String) : EntityType :=
  let bare := Text.trim s.toList
  match EntityClass.ofTag? ("IFC" ++ String.ofList (withoutSchemaName bare)) with
  | some c => .known c
  | none => .unknown (String.ofList bare)

/-- The tag in exchange files. -/
def tag : EntityType → String
  | .known c => c.tag
  | .unknown tag => tag

/-- The name of the class, or the unknown tag. -/
def name : EntityType → String
  | .known c => c.name
  | .unknown tag => tag

/-- The label in documents, or the unknown tag. -/
def label : EntityType → String
  | .known c => c.label
  | .unknown tag => tag

/-- The kind of the type. -/
def kind : EntityType → EntityKind
  | .known c => c.kind
  | .unknown _ => .other

/-- Whether entities of the type are objects: the project, spatial structures, elements and types
that elements share. -/
def isObject (t : EntityType) : Bool :=
  match t.kind with
  | .project | .spatial | .element | .typeObject => true
  | _ => false

/-- Whether entities of the type are spatial structures, the project included. -/
def isSpatial (t : EntityType) : Bool :=
  match t.kind with
  | .project | .spatial => true
  | _ => false

/-- Whether entities of the type are products, which may have a shape. -/
def isProduct (t : EntityType) : Bool :=
  match t.kind with
  | .spatial | .element => true
  | _ => false

/-- Whether the type is a class of the table. -/
def isKnown : EntityType → Bool
  | .known _ => true
  | .unknown _ => false

end EntityType

end BuildingModel
