import BuildingModel.Model.Entity
import BuildingModel.Step.Statement
import Std.Data.TreeMap
import Std.Data.TreeSet

/-!
# The index of a model

The index keeps what the data section says under each instance name. Of several statements under
one name the last one counts, but the list of a type has every name under which a statement of
that type was ever written.
-/

namespace BuildingModel

/-- What the index knows of an instance. -/
structure IndexEntry where
  /-- Where the statement starts, in bytes. -/
  start : Nat
  /-- Where the statement ends, in bytes. -/
  stop : Nat
  /-- The type. -/
  type : EntityType
  /-- The entity, unless the statement is malformed. -/
  entity? : Option Entity

/-- The instances of a model. -/
structure EntityIndex where
  /-- Every statement as its instance name and type, in the order of the file. -/
  written : List (EntityId × EntityType) := []
  /-- The last statement under each instance name. -/
  entries : Std.TreeMap EntityId IndexEntry compare := {}

/-- The entry of a statement. -/
def IndexEntry.ofStatement (s : Step.Statement) : IndexEntry where
  start := s.start
  stop := s.stop
  type := .ofTag s.tag
  entity? := (Entity.parse s.text).toOption

namespace EntityIndex

/-- The index of the statements of a data section. -/
def ofStatements (statements : List Step.Statement) : EntityIndex where
  written := statements.map fun s => (s.id, .ofTag s.tag)
  entries := statements.foldl (fun m s => m.insert s.id (.ofStatement s)) {}

/-- The index of a content. -/
def ofContent (content : String) : EntityIndex :=
  ofStatements (Step.Statement.ofContent content)

/-- The entry of an instance name. -/
def entry? (x : EntityIndex) (id : EntityId) : Option IndexEntry :=
  x.entries.get? id

/-- The type that the index has for an instance name. -/
def typeOf? (x : EntityIndex) (id : EntityId) : Option EntityType :=
  (x.entry? id).map IndexEntry.type

/-- The entity of an instance name. -/
def get? (x : EntityIndex) (id : EntityId) : Option Entity :=
  (x.entry? id).bind IndexEntry.entity?

/-- How many instance names there are. -/
def size (x : EntityIndex) : Nat :=
  x.entries.size

/-- The instance names in ascending order. -/
def ids (x : EntityIndex) : List EntityId :=
  x.entries.keys

theorem mem_ids {x : EntityIndex} {id : EntityId} : id ∈ x.ids ↔ (x.entry? id).isSome := by
  rw [ids, Std.TreeMap.mem_keys, Std.TreeMap.mem_iff_isSome_getElem?]
  rfl

/-- What has an entity has an entry. -/
theorem mem_ids_of_get? {x : EntityIndex} {id : EntityId} {e : Entity} (h : x.get? id = some e) :
    id ∈ x.ids := by
  obtain ⟨entry, hentry, -⟩ := Option.bind_eq_some_iff.1 h
  exact mem_ids.2 (Option.isSome_of_eq_some hentry)

/-- The instance names with a statement of the type, in ascending order. -/
def idsOf (x : EntityIndex) (t : EntityType) : List EntityId :=
  let found := x.written.filterMap fun (id, type) => if type = t then some id else none
  (Std.TreeSet.ofList found compare).toList

/-- The entities under the instance names with a statement of the type. -/
def entitiesOf (x : EntityIndex) (t : EntityType) : List Entity :=
  (x.idsOf t).filterMap x.get?

/-- The entity a parameter refers to. -/
def resolve? (x : EntityIndex) (p : Parameter) : Option Entity :=
  p.asReference?.bind x.get?

/-- The entities that the items of a list refer to. -/
def resolveAll (x : EntityIndex) (p : Parameter) : List Entity :=
  (p.asList?.getD []).filterMap x.resolve?

/-- The entity that an attribute refers to. -/
def follow? (x : EntityIndex) (e : Entity) (i : Nat) : Option Entity :=
  (e.attribute? i).bind x.resolve?

/-- The entities that the items of an attribute refer to. -/
def followAll (x : EntityIndex) (e : Entity) (i : Nat) : List Entity :=
  ((e.attribute? i).map x.resolveAll).getD []

end EntityIndex

end BuildingModel
