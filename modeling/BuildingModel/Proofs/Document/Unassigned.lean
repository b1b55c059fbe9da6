import BuildingModel.Proofs.Document.Containment
import BuildingModel.Proofs.Document.Order

/-!
# Objects without a place

The list of a document starts with what its tree has. The objects that follow, and what they reach,
have no place in the tree. They are in ascending order exactly if no link leads ahead: each of them
can be reached from an object that does not follow it, and the children of each of them are timely
(`unassigned_ascending_iff`). A storey that holds a wall, both of them without a place, brings it
before another wall whose name lies between theirs (`not_pairwise_storeyHolding`).
-/

namespace BuildingModel.Document

open BuildingModel.Step (Definition file)

namespace LoadedModel

/-! ## The list beside the tree -/

/-- The names in the tree of a document. -/
def assigned (l : LoadedModel) : List EntityId :=
  (Tree.labelsOfAll l.document.hierarchy.toList).map Node.id

/-- The nodes of a document that are not in its tree. -/
def unassigned (l : LoadedModel) : List Node :=
  l.document.entities.filter (·.id ∉ l.assigned)

/-- The instance is listed, but is not in the tree. -/
def Unassigned (l : LoadedModel) (id : EntityId) : Prop :=
  id ∈ l.unassigned.map Node.id

/-- The objects but for the project, in ascending order. -/
def objects (l : LoadedModel) : List EntityId :=
  l.model.index.ids.filter fun id => some id != l.model.project?
    && ((l.model.index.typeOf? id).map EntityType.isObject).getD false

/-- The instances that were converted when the list turns to the objects. -/
def placed (l : LoadedModel) : InstanceSet :=
  (l.nodes.search {} l.model.project?.toList).2

variable {l : LoadedModel}

theorem mem_objects {id : EntityId} :
    id ∈ l.objects ↔ some id ≠ l.model.project? ∧ l.IsObject id := by
  rw [objects, List.mem_filter, Bool.and_eq_true, bne_iff_ne, EntityIndex.getD_map_typeOf?]
  exact and_iff_right_of_imp fun ⟨_, _, ht, _⟩ => EntityIndex.mem_ids_of_typeOf? ht

theorem objects_pairwise : l.objects.Pairwise (· < ·) :=
  (EntityIndex.ids_pairwise _).filter _

section

variable (hs : l.model.Named)
include hs

/-- The tree has what is found from the project. -/
theorem assigned_eq_found : l.assigned = l.nodes.found {} l.model.project?.toList := by
  rw [assigned, document, hierarchy?, NodeSource.found]
  cases l.model.project? with
  | none =>
    rw [Option.toList_none, NodeSource.search_nil]
    rfl
  | some p =>
    rw [Option.bind_some, Option.toList_some, NodeSource.search_eq_toList (s := l.nodes) hs]
    exact NodeSource.map_id_tree?_congr (s := l.nodes) hs l.treeNodes_model p

theorem mem_placed_iff {id : EntityId} : id ∈ l.placed ↔ id ∈ l.assigned := by
  rw [placed, NodeSource.mem_search_iff (s := l.nodes) hs, assigned_eq_found hs]
  exact or_iff_right Std.TreeSet.not_mem_emptyc

/-- The list has what is in the tree, and then what is found from the objects. -/
theorem map_id_entities :
    l.document.entities.map Node.id = l.assigned ++ l.nodes.found l.placed l.objects := by
  have h := NodeSource.walk_append (s := l.nodes) hs {} l.model.project?.toList {}
    (fun _ hi => hi) l.objects
  rw [NodeSource.without_empty, ← placed] at h
  rw [assigned_eq_found hs, NodeSource.found, NodeSource.found,
    ← NodeSource.walk_eq_labels (s := l.nodes) hs l.placed, ← List.map_append, ← h]
  rfl

theorem map_id_unassigned :
    l.unassigned.map Node.id = l.nodes.found l.placed l.objects := by
  have hfilter : l.unassigned.map Node.id =
      (l.document.entities.map Node.id).filter (· ∉ l.assigned) := by
    rw [unassigned, List.filter_map]
    rfl
  have hnone : l.assigned.filter (· ∉ l.assigned) = [] :=
    List.filter_eq_nil_iff.2 fun i hi => by simpa using hi
  rw [hfilter, map_id_entities hs, List.filter_append, hnone, List.nil_append]
  refine List.filter_eq_self.2 fun i hi => decide_eq_true fun hplaced => ?_
  exact ((NodeSource.mem_found_iff (s := l.nodes) hs).1 hi).allowed_end.2
    ((mem_placed_iff hs).2 hplaced)

theorem unassigned_iff {id : EntityId} :
    l.Unassigned id ↔ id ∈ l.nodes.found l.placed l.objects := by
  rw [Unassigned, map_id_unassigned hs]

/-- Everything without a place can be reached from an object without a place, or is one. -/
theorem reachable_objects {id : EntityId} (h : l.Unassigned id) :
    Reachable l.model.children l.Unassigned l.objects id := by
  have hreach := NodeSource.reachable_of_mem_found (s := l.nodes) hs ((unassigned_iff hs).1 h)
  simp only [← unassigned_iff hs] at hreach
  exact hreach

/-- Of what has no place, the objects are among those that the list turns to. -/
theorem mem_objects_of_unassigned {id : EntityId} (h : l.Unassigned id) (hobject : l.IsObject id) :
    id ∈ l.objects := by
  have hfresh :=
    ((NodeSource.mem_found_iff (s := l.nodes) hs).1 ((unassigned_iff hs).1 h)).allowed_end
  refine mem_objects.2 ⟨fun hproject => hfresh.2 ?_, hobject⟩
  -- The project is in the tree.
  rw [mem_placed_iff hs, assigned_eq_found hs, ← hproject,
    NodeSource.mem_found_iff (s := l.nodes) hs, NodeSource.fresh_empty]
  exact .root (by simp) hfresh.1

/-- What has no place is in ascending order exactly if each such instance can be reached from an
object that does not follow it, and its children are timely. -/
theorem pairwise_unassigned_iff :
    (l.unassigned.map Node.id).Pairwise (· < ·) ↔
      (∀ i, l.Unassigned i →
        ∃ o, l.IsObject o ∧ o ≤ i ∧ Reachable l.model.children l.Unassigned [o] i) ∧
      ∀ p, l.Unassigned p →
        Timely l.model.children (fun i => l.Unassigned i ∧ p < i) (l.model.children p) := by
  rw [map_id_unassigned hs, NodeSource.pairwise_found_iff (s := l.nodes) hs]
  simp only [← unassigned_iff hs]
  refine and_congr_left' ((timely_iff_of_pairwise objects_pairwise
    fun i => reachable_objects hs).trans (forall₂_congr fun i hi => exists_congr fun o => ?_))
  constructor
  · exact fun ⟨ho, h⟩ => ⟨(mem_objects.1 ho).2, h⟩
  · exact fun ⟨ho, hle, h⟩ => ⟨mem_objects_of_unassigned hs h.allowed_root ho, hle, h⟩

end

/-- The list has what is in the tree, and then what is not. The latter is in ascending order exactly
if each of its instances can be reached, without a way through the tree, from an object that does
not follow it, and whatever precedes a child of one of them and follows the parent can be reached
from the children before it. -/
theorem unassigned_ascending_iff {content : String} {withProperties : Bool} (l : LoadedModel)
    (h : Model.load content withProperties = .ok l.model) :
    l.document.entities.map Node.id = l.assigned ++ l.unassigned.map Node.id ∧
      ((l.unassigned.map Node.id).Pairwise (· < ·) ↔
        (∀ i, l.Unassigned i →
          ∃ o, l.IsObject o ∧ o ≤ i ∧ Reachable l.model.children l.Unassigned [o] i) ∧
        ∀ p, l.Unassigned p →
          Timely l.model.children (fun i => l.Unassigned i ∧ p < i) (l.model.children p)) := by
  have hs := Model.named_of_load h
  refine ⟨?_, pairwise_unassigned_iff hs⟩
  rw [map_id_entities hs, map_id_unassigned hs]

/-- In a file, the objects are what is defined to be one. -/
theorem isObject_iff_of_file {ds : List Definition} (hids : (ds.map (·.id)).Nodup)
    (hindex : l.model.index = .ofContent (file ds)) {id : EntityId} :
    l.IsObject id ↔ ∃ p ∈ ds.map (fun d => (d.id, d.type)), p.1 = id ∧ p.2.isObject := by
  rw [IsObject, hindex]
  constructor
  · rintro ⟨t, ht, hobject⟩
    obtain ⟨d, hd, rfl⟩ := Model.mem_ids_file.1 (EntityIndex.mem_ids_of_typeOf? ht)
    obtain rfl := Option.some.inj ((Model.typeOf?_file hids hd).symm.trans ht)
    exact ⟨_, List.mem_map_of_mem hd, rfl, hobject⟩
  · rintro ⟨p, hp, rfl, hobject⟩
    obtain ⟨d, hd, rfl⟩ := List.mem_map.1 hp
    exact ⟨d.type, Model.typeOf?_file hids hd, hobject⟩

/-! ## A storey with a wall -/

/-- A project, a storey, two walls, and a relation that puts one of the instances in the storey. -/
def storeyHolding (held : EntityId) : List Definition :=
  [.ofClass 1 .project [], .ofClass 2 .buildingStorey [], .ofClass 3 .wall [],
    .ofClass 4 .wall [],
    .ofClass 5 .relContainedInSpatialStructure
      [.null, .null, .null, .null, .list [.reference held], .reference 2]]

/-- The model of the file. -/
def ofStoreyHolding (held : EntityId) : LoadedModel where
  source := ""
  model := .ofParts { schemaVersion := "IFC4" } (.ofContent (file (storeyHolding held))) true
  shapes := none
  options := {}

section

variable {held : EntityId}

variable (held) in
theorem load_storeyHolding :
    Model.load (file (storeyHolding held)) true = .ok (ofStoreyHolding held).model :=
  Model.load_file_eq (storeyHolding held) true

variable (held) in
theorem index_storeyHolding :
    (ofStoreyHolding held).model.index = .ofContent (file (storeyHolding held)) := rfl

theorem map_type_storeyHolding : (storeyHolding held).map (fun d => (d.id, d.type)) =
    [(1, .known .project), (2, .known .buildingStorey), (3, .known .wall), (4, .known .wall),
      (5, .known .relContainedInSpatialStructure)] := by
  simp only [storeyHolding, List.map_cons, List.map_nil, Definition.id_ofClass,
    Definition.type_ofClass]

theorem nodup_storeyHolding : ((storeyHolding held).map (·.id)).Nodup := by
  simp only [storeyHolding, List.map_cons, List.map_nil, Definition.id_ofClass]
  decide

/-- The relation makes the only link. -/
theorem attaches_storeyHolding {d : Definition} (hd : d ∈ storeyHolding held) {link : SpatialLink}
    (hattaches : Spatial.Attaches d.entity link) : link = ⟨2, held, .contains⟩ := by
  obtain ⟨p, c, kind⟩ := link
  obtain ⟨hp, hc⟩ := hattaches
  simp only [storeyHolding, List.mem_cons, List.not_mem_nil, or_false] at hd
  rcases hd with rfl | rfl | rfl | rfl | rfl <;> cases kind <;> cases hp
  obtain rfl : c = held := List.mem_singleton.1 hc
  rfl

theorem mem_children_storeyHolding {p i : EntityId} :
    i ∈ (ofStoreyHolding held).model.children p ↔ p = 2 ∧ i = held := by
  have hlinks (link : SpatialLink) :
      link ∈ (ofStoreyHolding held).model.spatialLinks ↔ link = ⟨2, held, .contains⟩ := by
    change link ∈ Spatial.links (.ofContent (file (storeyHolding held))) ↔ _
    rw [Spatial.mem_links_iff]
    constructor
    · rintro ⟨r, hr, hattaches⟩
      obtain ⟨d, hd, -, rfl⟩ := (Model.mem_entitiesOf_file nodup_storeyHolding).1 hr
      exact attaches_storeyHolding hd hattaches
    · rintro rfl
      refine ⟨_, (Model.mem_entitiesOf_file nodup_storeyHolding).2
        ⟨_, .tail _ (.tail _ (.tail _ (.tail _ (.head _)))), Definition.type_ofClass _ _ _, rfl⟩,
        rfl, List.mem_singleton_self _⟩
  rw [Model.children, Spatial.mem_children_iff]
  simp [hlinks]

theorem project?_storeyHolding : (ofStoreyHolding held).model.project? = some 1 := by
  refine project?_eq_some fun id => ?_
  rw [index_storeyHolding, Model.mem_idsOf_file_iff_mem_map, map_type_storeyHolding]
  simp

theorem resolves_storeyHolding {id : EntityId} :
    (ofStoreyHolding held).model.Resolves id ↔ id = 1 ∨ id = 2 ∨ id = 3 ∨ id = 4 ∨ id = 5 := by
  rw [Model.resolves_iff_of_load_file nodup_storeyHolding (load_storeyHolding held)]
  simp [storeyHolding, eq_comm]

theorem isObject_storeyHolding {id : EntityId} :
    (ofStoreyHolding held).IsObject id ↔ id = 1 ∨ id = 2 ∨ id = 3 ∨ id = 4 := by
  have hproject : (EntityType.known .project).isObject = true := rfl
  have hstorey : (EntityType.known .buildingStorey).isObject = true := rfl
  have hwall : (EntityType.known .wall).isObject = true := rfl
  have hrelation : (EntityType.known .relContainedInSpatialStructure).isObject = false := rfl
  rw [isObject_iff_of_file nodup_storeyHolding (index_storeyHolding held),
    map_type_storeyHolding]
  simp only [List.mem_cons, List.not_mem_nil, or_false, exists_eq_or_imp, exists_eq_left, hproject,
    hstorey, hwall, hrelation, and_true, Bool.false_eq_true, and_false, eq_comm (b := id)]

/-- Nothing is attached to the project. -/
theorem mem_assigned_storeyHolding {id : EntityId} :
    id ∈ (ofStoreyHolding held).assigned ↔ id = 1 := by
  have hs := Model.named_of_load (load_storeyHolding held)
  rw [assigned_eq_found hs, NodeSource.mem_found_iff (s := (ofStoreyHolding held).nodes) hs,
    NodeSource.fresh_empty, project?_storeyHolding, Option.toList_some]
  constructor
  · intro h
    refine (h.restrict (· = 1) (fun i hi _ => List.mem_singleton.1 hi) ?_).allowed_end.2
    rintro _ rfl i hi
    exact absurd (mem_children_storeyHolding.1 hi).1 (by decide)
  · rintro rfl
    exact .root List.mem_cons_self (resolves_storeyHolding.2 (.inl rfl))

/-- The storey and the walls have no place. -/
theorem unassigned_storeyHolding (hheld : held = 3 ∨ held = 4) {id : EntityId} :
    (ofStoreyHolding held).Unassigned id ↔ id = 2 ∨ id = 3 ∨ id = 4 := by
  have hs := Model.named_of_load (load_storeyHolding held)
  constructor
  · intro h
    refine ((reachable_objects hs h).restrict (fun i => i = 2 ∨ i = 3 ∨ i = 4)
      (fun i hi _ => ?_) fun p _ i hi _ => ?_).allowed_end.2
    · obtain ⟨hne, hobject⟩ := mem_objects.1 hi
      rw [project?_storeyHolding] at hne
      exact (isObject_storeyHolding.1 hobject).resolve_left fun he => hne (congrArg some he)
    · exact .inr ((mem_children_storeyHolding.1 hi).2 ▸ hheld)
  · intro h
    have hne : id ≠ 1 := by
      rintro rfl
      exact absurd h (by decide)
    rw [unassigned_iff hs, NodeSource.mem_found_iff (s := (ofStoreyHolding held).nodes) hs]
    refine .root (mem_objects.2 ⟨?_, isObject_storeyHolding.2 (.inr h)⟩) ⟨?_, ?_⟩
    · rw [project?_storeyHolding]
      exact fun he => hne (Option.some.inj he)
    · exact resolves_storeyHolding.2 (.inr (h.imp_right (.imp_right .inl)))
    · exact fun hplaced => hne (mem_assigned_storeyHolding.1 ((mem_placed_iff hs).1 hplaced))

end

/-- A storey that holds the first wall comes before it, and then comes the other one. -/
theorem unassigned_ascending_storeyHolding :
    ∃ l : LoadedModel, Model.load (file (storeyHolding 3)) = .ok l.model ∧
      l.unassigned.map Node.id = [2, 3, 4] := by
  have hmem {i : EntityId} : (ofStoreyHolding 3).Unassigned i ↔ i = 2 ∨ i = 3 ∨ i = 4 :=
    unassigned_storeyHolding (.inl rfl)
  obtain ⟨-, hiff⟩ := unassigned_ascending_iff (ofStoreyHolding 3) (load_storeyHolding 3)
  have hordered := hiff.2 ⟨fun i hi => ⟨i, ?_, UInt32.le_refl i, .root List.mem_cons_self hi⟩,
    fun p _ front id back hsplit _ i hi hlt => ?_⟩
  · have hperm : ((ofStoreyHolding 3).unassigned.map Node.id).Perm [2, 3, 4] :=
      (List.perm_ext_iff_of_nodup (hordered.imp fun hlt => UInt32.ne_of_lt hlt)
        (by decide)).2 fun _ => hmem.trans (by simp)
    exact ⟨_, load_storeyHolding 3, hperm.eq_of_pairwise
      (fun _ _ _ _ h h' => absurd h' (UInt32.lt_asymm h)) hordered (by decide)⟩
  · exact isObject_storeyHolding.2 (.inr (hmem.1 hi))
  · -- The only child of the storey is the wall, and there is nothing between the two.
    obtain ⟨rfl, rfl⟩ := mem_children_storeyHolding.1
      (hsplit ▸ List.mem_append_right front List.mem_cons_self)
    rcases hmem.1 hi.1 with rfl | rfl | rfl
    · exact absurd hi.2 (by decide)
    · exact absurd hlt (by decide)
    · exact absurd hlt (by decide)

/-- A storey that holds the second wall brings it before the first one. -/
theorem not_pairwise_storeyHolding :
    ∃ l : LoadedModel, Model.load (file (storeyHolding 4)) = .ok l.model ∧
      l.model.project? = some 1 ∧ ¬ (l.unassigned.map Node.id).Pairwise (· < ·) := by
  have hs := Model.named_of_load (load_storeyHolding 4)
  have hmem {i : EntityId} : (ofStoreyHolding 4).Unassigned i ↔ i = 2 ∨ i = 3 ∨ i = 4 :=
    unassigned_storeyHolding (.inr rfl)
  refine ⟨_, load_storeyHolding 4, project?_storeyHolding, fun hordered => ?_⟩
  obtain ⟨-, htimely⟩ := (pairwise_unassigned_iff hs).1 hordered
  obtain ⟨front, back, hsplit⟩ := List.append_of_mem
    (mem_children_storeyHolding.2 ⟨rfl, rfl⟩ : 4 ∈ (ofStoreyHolding 4).model.children 2)
  have hreach := htimely 2 (hmem.2 (.inl rfl)) front 4 back hsplit
    ⟨hmem.2 (.inr (.inr rfl)), by decide⟩ 3 ⟨hmem.2 (.inr (.inl rfl)), by decide⟩ (by decide)
  -- The first wall is not attached to anything.
  have hnot (p : EntityId) : 3 ∉ (ofStoreyHolding 4).model.children p := fun h =>
    absurd (mem_children_storeyHolding.1 h).2 (by decide)
  cases hreach with
  | root hroot _ => exact hnot 2 (hsplit ▸ List.mem_append_left _ hroot)
  | child _ hchild _ => exact hnot _ hchild

end LoadedModel

end BuildingModel.Document
