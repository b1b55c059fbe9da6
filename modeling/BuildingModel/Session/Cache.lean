import BuildingModel.Json.Basic

/-!
# The document cache

The cache keeps the last document of every source, and which source was stored last.
-/

namespace BuildingModel

/-- A document in the cache. -/
structure CachedDocument where
  /-- The document. -/
  document : Json
  /-- How many instances its model has. -/
  entityCount : Nat
deriving Repr

/-- Documents by their sources. -/
structure Cache where
  /-- The documents. -/
  entries : Std.TreeMap String CachedDocument compare := {}
  /-- The source that was stored last. -/
  latestSource : Option String := none

namespace Cache

/-- The cache with a document stored. -/
def insert (c : Cache) (source : String) (document : Json) (entityCount : Nat) : Cache where
  entries := c.entries.insert source ⟨document, entityCount⟩
  latestSource := some source

/-- The document of a source. -/
def get? (c : Cache) (source : String) : Option Json :=
  (c.entries.get? source).map (·.document)

/-- The document that was stored last. -/
def latest? (c : Cache) : Option Json :=
  c.latestSource.bind c.get?

/-- The sources in ascending order, with the instance counts of their models. -/
def sources (c : Cache) : List (String × Nat) :=
  c.entries.toList.map fun (source, d) => (source, d.entityCount)

/-- How many sources there are. -/
def size (c : Cache) : Nat :=
  c.entries.size

end Cache

end BuildingModel
