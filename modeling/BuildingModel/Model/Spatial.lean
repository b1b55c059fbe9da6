import BuildingModel.Model.Index

/-!
# The spatial structure

Wholes aggregate parts, and spatial structures contain elements. The links are those the file
writes, so they need not form a tree: an object may hang under several others, or under itself.
-/

namespace BuildingModel

/-- How a child is attached to its parent. -/
inductive Containment where
  /-- As a part of a whole. -/
  | aggregates
  /-- As an element in a spatial structure. -/
  | contains
deriving DecidableEq, Repr

/-- That an object is attached to another. -/
structure SpatialLink where
  /-- The whole or the structure. -/
  parent : EntityId
  /-- The part or the element. -/
  child : EntityId
  /-- How they are attached. -/
  kind : Containment
deriving DecidableEq, Repr

namespace Spatial

/-- The links of the relationships of a type, whose parent is the attribute at one position and
whose children are the list at another. -/
def linksOf (x : EntityIndex) (t : EntityType) (parentAt childrenAt : Nat) (kind : Containment) :
    List SpatialLink :=
  (x.entitiesOf t).flatMap fun relation =>
    match relation.reference? parentAt with
    | none => []
    | some parent => (relation.references childrenAt).map fun child => ⟨parent, child, kind⟩

/-- The links of a model: those of aggregation, then those of containment. -/
def links (x : EntityIndex) : List SpatialLink :=
  linksOf x (.known .relAggregates) 4 5 .aggregates
    ++ linksOf x (.known .relContainedInSpatialStructure) 5 4 .contains

/-- The children attached to a parent in one way. -/
def attached (ls : List SpatialLink) (kind : Containment) (id : EntityId) : List EntityId :=
  (ls.filter fun l => l.parent == id && l.kind == kind).map (·.child)

/-- The children of a parent: its parts, then its elements. -/
def children (ls : List SpatialLink) (id : EntityId) : List EntityId :=
  attached ls .aggregates id ++ attached ls .contains id

/-- The first link to a child. -/
def parent? (ls : List SpatialLink) (id : EntityId) : Option SpatialLink :=
  ls.find? (·.child == id)

end Spatial

end BuildingModel
