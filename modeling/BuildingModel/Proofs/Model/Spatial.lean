import BuildingModel.Model.Spatial
import BuildingModel.Proofs.Model.Types

/-!
# Links of the spatial structure

Links are found in relations, first all of those of aggregation, then all of those of containment,
each in ascending order of their names (`Spatial.Precedes`).

* `Spatial.mem_attached_iff`, `Spatial.isSome_parent?_iff`: objects are attached to others exactly
  by their links, and what is attached has a first link;
* `Spatial.parent?_eq_some_iff`: the first link to an object comes from the first relation that
  attaches it.
-/

namespace BuildingModel

/-- The type of the relations that attach in a way. -/
def Containment.relation : Containment → EntityType
  | .aggregates => .known .relAggregates
  | .contains => .known .relContainedInSpatialStructure

/-- The attribute of such a relation that is its parent. -/
def Containment.parentAt : Containment → Nat
  | .aggregates => 4
  | .contains => 5

/-- The attribute of such a relation that lists its children. -/
def Containment.childrenAt : Containment → Nat
  | .aggregates => 5
  | .contains => 4

namespace Spatial

variable {content : String} {ls : List SpatialLink} {link : SpatialLink} {kind : Containment}
  {id parent : EntityId}

/-! ## Links and what is attached -/

theorem mem_attached_iff : id ∈ attached ls kind parent ↔ ⟨parent, id, kind⟩ ∈ ls := by
  rw [attached, List.mem_map]
  constructor
  · rintro ⟨⟨p, c, k⟩, hlink, rfl⟩
    obtain ⟨hmem, hlink⟩ := List.mem_filter.1 hlink
    obtain ⟨rfl, rfl⟩ : p = parent ∧ k = kind := by simpa using hlink
    exact hmem
  · exact fun h => ⟨_, List.mem_filter.2 ⟨h, by simp⟩, rfl⟩

theorem mem_children_iff : id ∈ children ls parent ↔ ∃ kind, ⟨parent, id, kind⟩ ∈ ls := by
  rw [children, List.mem_append, mem_attached_iff, mem_attached_iff]
  constructor
  · rintro (h | h)
    · exact ⟨_, h⟩
    · exact ⟨_, h⟩
  · rintro ⟨kind, h⟩
    cases kind with
    | aggregates => exact .inl h
    | contains => exact .inr h

/-- A first link is a link to its child. -/
theorem of_parent? (h : parent? ls id = some link) : link ∈ ls ∧ link.child = id :=
  ⟨List.mem_of_find?_eq_some h, by simpa using List.find?_some h⟩

/-- What is attached to something has a first link. -/
theorem isSome_parent?_iff : (parent? ls id).isSome ↔ ∃ parent, id ∈ children ls parent := by
  rw [parent?, List.find?_isSome]
  simp only [mem_children_iff, beq_iff_eq]
  constructor
  · rintro ⟨⟨p, c, k⟩, hlink, rfl⟩
    exact ⟨p, k, hlink⟩
  · rintro ⟨p, k, hlink⟩
    exact ⟨_, hlink, rfl⟩

/-! ## Relations -/

/-- A relation makes a link. -/
def Attaches (r : Entity) (link : SpatialLink) : Prop :=
  r.reference? link.kind.parentAt = some link.parent ∧
    link.child ∈ r.references link.kind.childrenAt

/-- The links of a relation. -/
def linksOfRelation (r : Containment × Entity) : List SpatialLink :=
  match r.2.reference? r.1.parentAt with
  | none => []
  | some parent => (r.2.references r.1.childrenAt).map fun child => ⟨parent, child, r.1⟩

theorem mem_linksOfRelation_iff {r : Containment × Entity} :
    link ∈ linksOfRelation r ↔ link.kind = r.1 ∧ Attaches r.2 link := by
  obtain ⟨p, c, k⟩ := link
  obtain ⟨kind, r⟩ := r
  rw [linksOfRelation, Attaches]
  split
  next h =>
    simp only [List.not_mem_nil, false_iff]
    rintro ⟨rfl, hp, -⟩
    rw [h] at hp
    cases hp
  next parent h =>
    simp only [List.mem_map, SpatialLink.mk.injEq]
    constructor
    · rintro ⟨c, hc, rfl, rfl, rfl⟩
      exact ⟨rfl, h, hc⟩
    · rintro ⟨rfl, hp, hc⟩
      exact ⟨c, hc, Option.some.inj (h.symm.trans hp), rfl, rfl⟩

/-- The relations of a model in the order in which their links are found. -/
def relations (x : EntityIndex) : List (Containment × Entity) :=
  (x.entitiesOf Containment.aggregates.relation).map (.aggregates, ·)
    ++ (x.entitiesOf Containment.contains.relation).map (.contains, ·)

theorem mem_relations_iff {x : EntityIndex} {r : Entity} :
    (kind, r) ∈ relations x ↔ r ∈ x.entitiesOf kind.relation := by
  cases kind <;> simp [relations]

theorem links_eq (x : EntityIndex) : links x = (relations x).flatMap linksOfRelation := by
  rw [relations, List.flatMap_append, List.flatMap_map, List.flatMap_map]
  rfl

/-- Links are those of the relations. -/
theorem mem_links_iff {x : EntityIndex} :
    link ∈ links x ↔ ∃ r ∈ x.entitiesOf link.kind.relation, Attaches r link := by
  rw [links_eq, List.mem_flatMap]
  constructor
  · rintro ⟨⟨kind, r⟩, hr, hlink⟩
    obtain ⟨rfl, hattaches⟩ := mem_linksOfRelation_iff.1 hlink
    exact ⟨r, mem_relations_iff.1 hr, hattaches⟩
  · rintro ⟨r, hr, hattaches⟩
    exact ⟨_, mem_relations_iff.2 hr, mem_linksOfRelation_iff.2 ⟨rfl, hattaches⟩⟩

/-- A relation comes before another: aggregation comes before containment, and lower names come
before higher ones. -/
def Precedes (r r' : Containment × Entity) : Prop :=
  (r.1 = .aggregates ∧ r'.1 = .contains) ∨ (r.1 = r'.1 ∧ r.2.id < r'.2.id)

theorem relations_pairwise : (relations (.ofContent content)).Pairwise Precedes := by
  refine List.pairwise_append.2 ⟨?_, ?_, ?_⟩
  · exact List.pairwise_map.2 (EntityIndex.entitiesOf_pairwise.imp fun h => .inr ⟨rfl, h⟩)
  · exact List.pairwise_map.2 (EntityIndex.entitiesOf_pairwise.imp fun h => .inr ⟨rfl, h⟩)
  · intro r hr r' hr'
    obtain ⟨_, -, rfl⟩ := List.mem_map.1 hr
    obtain ⟨_, -, rfl⟩ := List.mem_map.1 hr'
    exact .inl ⟨rfl, rfl⟩

theorem Precedes.asymm {r r' : Containment × Entity} (h : Precedes r r') : ¬ Precedes r' r := by
  obtain ⟨kind, r⟩ := r
  obtain ⟨kind', r'⟩ := r'
  rintro (⟨rfl, rfl⟩ | ⟨rfl, h'⟩)
  · rcases h with ⟨h, -⟩ | ⟨h, -⟩ <;> cases h
  · rcases h with ⟨rfl, h⟩ | ⟨-, h⟩
    · cases h
    · exact absurd h (UInt32.lt_asymm h')

/-- Of two relations one comes before the other. -/
theorem precedes_trichotomy {r r' : Containment × Entity} (hr : r ∈ relations (.ofContent content))
    (hr' : r' ∈ relations (.ofContent content)) : Precedes r r' ∨ r = r' ∨ Precedes r' r := by
  have hpairwise : (relations (.ofContent content)).Pairwise Precedes := relations_pairwise
  have h := List.pairwise_iff_getElem.1 hpairwise
  obtain ⟨i, hi, rfl⟩ := List.getElem_of_mem hr
  obtain ⟨j, hj, rfl⟩ := List.getElem_of_mem hr'
  rcases Nat.lt_trichotomy i j with hlt | rfl | hlt
  · exact .inl (h i j hi hj hlt)
  · exact .inr (.inl rfl)
  · exact .inr (.inr (h j i hj hi hlt))

/-- A relation makes a link, and no relation before it makes a link to the same child. -/
def MakesFirst (x : EntityIndex) (r : Entity) (link : SpatialLink) : Prop :=
  r ∈ x.entitiesOf link.kind.relation ∧ Attaches r link ∧
    ∀ r' link', r' ∈ x.entitiesOf link'.kind.relation → Attaches r' link' →
      link'.child = link.child → ¬ Precedes (link'.kind, r') (link.kind, r)

/-- The first link to a child is made by a relation, and none before it makes one. -/
theorem exists_makesFirst (h : parent? (links (.ofContent content)) id = some link) :
    ∃ r, MakesFirst (.ofContent content) r link := by
  have hid := (of_parent? h).2
  rw [parent?, links_eq, List.find?_flatMap, List.findSome?_eq_some_iff] at h
  obtain ⟨before, ⟨kind, r⟩, after, hsplit, hfound, hbefore⟩ := h
  obtain ⟨rfl, hattaches⟩ := mem_linksOfRelation_iff.1 (List.mem_of_find?_eq_some hfound)
  have hpairwise : (relations (.ofContent content)).Pairwise Precedes := relations_pairwise
  rw [hsplit, List.pairwise_append] at hpairwise
  refine ⟨r, mem_relations_iff.1 (by rw [hsplit]; simp), hattaches, ?_⟩
  intro r' link' hr' hattaches' hchild hprecedes
  have hmem := mem_relations_iff.2 hr'
  rw [hsplit, List.mem_append, List.mem_cons] at hmem
  rcases hmem with hmem | heq | hmem
  · -- What is before the split makes no link to the child.
    have hnone := List.find?_eq_none.1 (hbefore _ hmem) link'
      (mem_linksOfRelation_iff.2 ⟨rfl, hattaches'⟩)
    simp [hchild, hid] at hnone
  · rw [heq] at hprecedes
    exact hprecedes.asymm hprecedes
  · exact hprecedes.asymm ((List.pairwise_cons.1 hpairwise.2.1).1 _ hmem)

/-- At most one link to a child is the first one. -/
theorem eq_of_makesFirst {r r' : Entity} {link' : SpatialLink}
    (h : MakesFirst (.ofContent content) r link) (h' : MakesFirst (.ofContent content) r' link')
    (hchild : link.child = link'.child) : link = link' := by
  obtain ⟨p, c, k⟩ := link
  obtain ⟨p', c', k'⟩ := link'
  obtain rfl : c = c' := hchild
  obtain ⟨hr, hattaches, hfirst⟩ := h
  obtain ⟨hr', hattaches', hfirst'⟩ := h'
  rcases precedes_trichotomy (mem_relations_iff.2 hr) (mem_relations_iff.2 hr') with hlt | heq | hlt
  · exact absurd hlt (hfirst' _ _ hr hattaches rfl)
  · obtain ⟨rfl, rfl⟩ : k = k' ∧ r = r' := by simpa using heq
    have hp : some p = some p' := hattaches.1.symm.trans hattaches'.1
    rw [Option.some.inj hp]
  · exact absurd hlt (hfirst _ _ hr' hattaches' rfl)

/-- The first link to a child is the one that is made by the first relation that attaches it. -/
theorem parent?_eq_some_iff : parent? (links (.ofContent content)) id = some link ↔
    link.child = id ∧ ∃ r, MakesFirst (.ofContent content) r link := by
  constructor
  · exact fun h => ⟨(of_parent? h).2, exists_makesFirst h⟩
  · rintro ⟨rfl, r, hr⟩
    have hlink : link ∈ links (.ofContent content) := mem_links_iff.2 ⟨r, hr.1, hr.2.1⟩
    obtain ⟨found, hfound⟩ := Option.isSome_iff_exists.1
      (isSome_parent?_iff.2 ⟨link.parent, mem_children_iff.2 ⟨link.kind, hlink⟩⟩)
    obtain ⟨r', hr'⟩ := exists_makesFirst hfound
    rw [hfound, eq_of_makesFirst hr' hr (of_parent? hfound).2]

end Spatial

end BuildingModel
