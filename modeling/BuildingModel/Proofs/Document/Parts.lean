import BuildingModel.Document.Basic
import BuildingModel.Proofs.Document.Search

/-!
# The parts of a document

The project, the list of nodes and the tree of a document come from walks of their own, and they
agree (`LoadedModel.document_parts`): the list begins with the tree in preorder, and the project is
the first of the list and the root of the tree, but for the geometry that nodes of the tree may
lack.
-/

namespace BuildingModel.Document

/-- A node without its geometry. -/
def Node.withoutGeometry (n : Node) : Node :=
  { n with geometry := none }

namespace LoadedModel

variable (l : LoadedModel)

/-! ## Roots -/

/-- An instance whose indexed type is that of an object. -/
def IsObject (id : EntityId) : Prop :=
  ∃ t, l.model.index.typeOf? id = some t ∧ t.isObject

variable {l} in
/-- The roots of the list are the project and the objects. -/
theorem mem_roots {id : EntityId} :
    id ∈ l.roots ↔ l.model.project? = some id ∨ l.IsObject id := by
  have hids (h : l.IsObject id) : id ∈ l.model.index.ids :=
    let ⟨_, ht, _⟩ := h
    EntityIndex.mem_ids_of_typeOf? ht
  rw [roots, List.mem_append, List.mem_filter, Bool.and_eq_true, EntityIndex.getD_map_typeOf?,
    ← IsObject, Option.mem_toList, bne_iff_ne]
  by_cases hp : l.model.project? = some id
  · simp [hp]
  · exact or_congr_right ⟨fun h => h.2.2, fun h => ⟨hids h, fun he => hp he.symm, h⟩⟩

/-! ## Nodes of lists and trees -/

theorem treeNodes_model : l.treeNodes.model = l.model := by
  rw [treeNodes]
  split
  · rfl
  · rfl

/-- Nodes of trees are those of lists, but for their geometry. -/
theorem node?_treeNodes (id : EntityId) :
    (l.treeNodes.node? id).map Node.withoutGeometry =
      (l.nodes.node? id).map Node.withoutGeometry := by
  rw [treeNodes]
  split
  · rfl
  · rw [NodeSource.node?, NodeSource.node?, Option.map_map, Option.map_map]
    rfl

/-- There is a node of what resolves. -/
theorem isSome_node? (id : EntityId) : (l.nodes.node? id).isSome ↔ l.model.Resolves id := by
  rw [NodeSource.node?, Option.isSome_map, Model.Resolves]
  rfl

/-! ## The document -/

variable {l}

/-- The tree in preorder is a front part of the list. -/
theorem prefix_entities (hs : l.model.Named) :
    (Tree.labelsOfAll l.document.hierarchy.toList).map Node.id <+:
      l.document.entities.map Node.id := by
  rw [document, hierarchy?, roots]
  cases l.model.project? with
  | none => exact List.nil_prefix
  | some p =>
    -- The project is the first root, so the list walk does what the tree walk does before it
    -- turns to the objects.
    simp only [Option.bind_some, Option.toList_some, List.singleton_append]
    rw [NodeSource.map_id_tree?_congr (s := l.nodes) hs l.treeNodes_model, NodeSource.list_cons hs,
      List.map_append]
    exact List.prefix_append _ _

/-- The project is there exactly if its instance name resolves. -/
theorem isSome_project : l.document.project.isSome ↔
    ∃ id, l.model.project? = some id ∧ l.model.Resolves id := by
  rw [document, project?]
  cases l.model.project? with
  | none => simp
  | some p => simp [NodeSource.convert_empty, isSome_node?]

/-- The tree has the project at its top, but for its geometry. -/
theorem map_label_hierarchy (hs : l.model.Named) :
    l.document.hierarchy.map (fun t => t.label.withoutGeometry) =
      l.document.project.map Node.withoutGeometry := by
  rw [document, hierarchy?, project?]
  cases l.model.project? with
  | none => rfl
  | some p =>
    have ht : l.treeNodes.model.Named := by rwa [treeNodes_model]
    rw [Option.bind_some, Option.bind_some, NodeSource.convert_empty, ← node?_treeNodes,
      ← NodeSource.map_label_tree? ht, Option.map_map]
    rfl

/-- The project is the first of the list. -/
theorem head?_entities (hs : l.model.Named) {n : Node} (h : l.document.project = some n) :
    l.document.entities.head? = some n := by
  rw [document, project?] at h
  rw [document, roots]
  cases hp : l.model.project? with
  | none => rw [hp] at h; cases h
  | some p =>
    rw [hp, Option.bind_some, NodeSource.convert_empty, ← NodeSource.map_label_tree? hs] at h
    obtain ⟨⟨m, ts⟩, ht, rfl⟩ := Option.map_eq_some_iff.1 h
    simp only [Option.toList_some, List.singleton_append]
    rw [NodeSource.list_cons hs, ht]
    rfl

/-- A document lists no instance twice: it lists what can be reached, through instances that all
have an entity, from the project or an instance whose indexed type is that of an object. The tree
in preorder is a front part of the list. There is a project exactly if there is a tree, and exactly
if the instance name of the project resolves. Then the project is the first of the list and, but
for the geometry, the root of the tree. -/
theorem document_parts {content : String} {withProperties : Bool} (l : LoadedModel)
    (h : Model.load content withProperties = .ok l.model) :
    (l.document.entities.map Node.id).Nodup ∧
      (∀ id, id ∈ l.document.entities.map Node.id ↔
        ∃ root, (l.model.project? = some root ∨ l.IsObject root) ∧
          Reachable l.model.children l.model.Resolves [root] id) ∧
      (Tree.labelsOfAll l.document.hierarchy.toList).map Node.id <+:
        l.document.entities.map Node.id ∧
      (l.document.project.isSome ↔ l.document.hierarchy.isSome) ∧
      (l.document.project.isSome ↔ ∃ id, l.model.project? = some id ∧ l.model.Resolves id) ∧
      ∀ n, l.document.project = some n → l.document.entities.head? = some n ∧
        ∃ t, l.document.hierarchy = some t ∧ t.label.withoutGeometry = n.withoutGeometry := by
  have hs := Model.named_of_load h
  have htop := map_label_hierarchy hs
  refine ⟨NodeSource.nodup_walk hs {} l.roots, fun id => ?_, prefix_entities hs, ?_,
    isSome_project, fun n hn => ⟨head?_entities hs hn, ?_⟩⟩
  · rw [document, NodeSource.list, NodeSource.mem_walk_iff hs, NodeSource.fresh_empty,
      reachable_iff_exists_root]
    exact exists_congr fun root => and_congr_left' mem_roots
  · have := congrArg Option.isSome htop
    rw [Option.isSome_map, Option.isSome_map] at this
    rw [this]
  · rw [hn] at htop
    exact Option.map_eq_some_iff.1 htop

/-- If no other instance name has a statement of a project, it is the project. -/
theorem project?_eq_some {m : Model} {p : EntityId}
    (h : ∀ id, id ∈ m.index.idsOf (.known .project) ↔ id = p) : m.project? = some p := by
  rw [Model.project?]
  cases hids : m.index.idsOf (.known .project) with
  | nil =>
    have hp := (h p).2 rfl
    rw [hids] at hp
    cases hp
  | cons id ids => rw [List.head?_cons, (h id).1 (hids ▸ List.mem_cons_self)]

/-- A project without attributes. -/
def bareProject : Step.Definition where
  id := 3
  tag := ⟨"IFCPROJECT".toList, by decide, List.all_eq_true.1 (by decide)⟩
  attributes := []

theorem project?_bareProject {m : Model} (h : m.index = .ofContent (Step.file [bareProject])) :
    m.project? = some 3 := by
  have htype : bareProject.type = .known .project := by decide +kernel
  refine project?_eq_some fun id => ?_
  rw [h, Model.mem_idsOf_file]
  simp only [List.mem_singleton, exists_eq_left, htype, and_true]
  exact eq_comm

theorem document_bareProject :
    ∃ l : LoadedModel, Model.load (Step.file [bareProject]) = .ok l.model ∧
      l.document.hierarchy.isSome ∧ l.document.entities.map Node.id = [3] := by
  obtain ⟨m, hm, hindex, hresolves⟩ := Model.exists_load_singleton bareProject
  have hproject := project?_bareProject hindex
  obtain ⟨hnodup, hmem, -, htree, hpresent, -⟩ := document_parts ⟨"", m, none, {}⟩ hm
  refine ⟨_, hm, htree.1 (hpresent.2 ⟨3, hproject, (hresolves 3).2 rfl⟩),
    List.perm_singleton.1 ((List.perm_ext_iff_of_nodup hnodup (by decide)).2 fun id => ?_)⟩
  rw [hmem, List.mem_singleton]
  constructor
  · rintro ⟨_, -, hid⟩
    exact (hresolves id).1 hid.allowed_end
  · rintro rfl
    exact ⟨3, .inl hproject, .root List.mem_cons_self ((hresolves 3).2 rfl)⟩

end LoadedModel

end BuildingModel.Document
