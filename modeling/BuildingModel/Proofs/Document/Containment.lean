import BuildingModel.Proofs.Document.Parts
import BuildingModel.Proofs.Model.Spatial

/-!
# Trees and containment

The structure that contains an object is the parent of the first link to it. In a tree the object
hangs under the node that it is first met from, which may be another one.

* `NodeSource.edge_of_search`: what hangs under a node in a tree is attached to it by some link;
* `LoadedModel.containerOf?_of_edge`: if nothing else lists an object, the node that it hangs under
  is the structure that contains it;
* `LoadedModel.containment_agree`: links, what is attached and trees agree, and first links are made
  by the first relations.
-/

namespace BuildingModel

/-! ## Edges of trees -/

namespace Tree

variable {α : Type}

mutual

/-- The labels that hang directly under another one, with the one they hang under. -/
def edges : Tree α → List (α × α)
  | node a ts => ts.map (fun t => (a, t.label)) ++ edgesOfAll ts

/-- The edges of several trees. -/
def edgesOfAll : List (Tree α) → List (α × α)
  | [] => []
  | t :: ts => edges t ++ edgesOfAll ts

end

mutual

/-- A label is the root, or hangs under another label. -/
theorem mem_labels_iff {a : α} : ∀ t : Tree α, a ∈ t.labels ↔ a = t.label ∨ ∃ p, (p, a) ∈ t.edges
  | node b ts => by
    rw [labels, List.mem_cons, label, mem_labelsOfAll_iff ts]
    simp [edges, exists_or]

theorem mem_labelsOfAll_iff {a : α} : ∀ ts : List (Tree α), a ∈ labelsOfAll ts ↔
    a ∈ ts.map label ∨ ∃ p, (p, a) ∈ edgesOfAll ts
  | [] => by simp [labelsOfAll, edgesOfAll]
  | t :: ts => by
    rw [labelsOfAll, List.mem_append, mem_labels_iff t, mem_labelsOfAll_iff ts]
    simp only [edgesOfAll, List.mem_append, List.map_cons, List.mem_cons, exists_or]
    tauto

end

/-- Every label below the root hangs under another one. -/
theorem exists_edge_of_mem {t : Tree α} {a : α} (h : a ∈ labelsOfAll t.children) :
    ∃ p, (p, a) ∈ t.edges := by
  obtain ⟨b, ts⟩ := t
  rcases (mem_labelsOfAll_iff ts).1 h with h | ⟨p, h⟩
  · obtain ⟨t, ht, rfl⟩ := List.mem_map.1 h
    exact ⟨b, List.mem_append_left _ (List.mem_map.2 ⟨t, ht, rfl⟩)⟩
  · exact ⟨p, List.mem_append_right _ h⟩

mutual

/-- What a label hangs under is a label. -/
theorem mem_labels_of_edge {p a : α} : ∀ t : Tree α, (p, a) ∈ t.edges → p ∈ t.labels
  | node b ts => by
    rw [edges, labels, List.mem_append, List.mem_cons]
    rintro (h | h)
    · obtain ⟨_, -, heq⟩ := List.mem_map.1 h
      exact .inl (congrArg Prod.fst heq).symm
    · exact .inr (mem_labelsOfAll_of_edge ts h)

theorem mem_labelsOfAll_of_edge {p a : α} :
    ∀ ts : List (Tree α), (p, a) ∈ edgesOfAll ts → p ∈ labelsOfAll ts
  | [] => fun h => by cases h
  | t :: ts => by
    rw [edgesOfAll, labelsOfAll, List.mem_append, List.mem_append]
    rintro (h | h)
    · exact .inl (mem_labels_of_edge t h)
    · exact .inr (mem_labelsOfAll_of_edge ts h)

end

end Tree

/-! ## First links -/

namespace Model

variable {m : Model} {id q : EntityId}

theorem isSome_container?_iff : (m.container? id).isSome ↔ ∃ q, id ∈ m.children q := by
  rw [container?, Option.isSome_map]
  exact Spatial.isSome_parent?_iff

/-- An object is attached to the parent of its first link. -/
theorem mem_children_of_container? (h : m.container? id = some q) : id ∈ m.children q := by
  obtain ⟨link, hlink, rfl⟩ := Option.map_eq_some_iff.1 h
  obtain ⟨hmem, rfl⟩ := Spatial.of_parent? hlink
  exact Spatial.mem_children_iff.2 ⟨link.kind, hmem⟩

end Model

namespace Document

open BuildingModel.Step (Definition file)

/-! ## What hangs under a node -/

namespace NodeSource

variable {s : NodeSource} {p n : Node}

/-- The search finds trees of the instances it starts from, and what hangs under a node in them is
attached to it. -/
theorem edge_of_search (hs : s.model.Named) (visited : InstanceSet) (ids : List EntityId) :
    (∀ t ∈ (s.search visited ids).1, t.label.id ∈ ids) ∧
      ∀ p n, (p, n) ∈ Tree.edgesOfAll (s.search visited ids).1 → n.id ∈ s.model.children p.id := by
  induction visited, ids using search_induction (s := s) with
  | nil v =>
    rw [search_nil]
    exact ⟨fun t ht => absurd ht List.not_mem_nil, fun p n h => absurd h List.not_mem_nil⟩
  | skip v id ids h ih =>
    rw [search_of_not_fresh h]
    exact ⟨fun t ht => List.mem_cons_of_mem _ (ih.1 t ht), ih.2⟩
  | visit v id ids h below beside =>
    obtain ⟨m, hm, hid, -⟩ := convert_of_fresh hs h
    rw [search_of_fresh h hm]
    constructor
    · intro t ht
      rcases List.mem_cons.1 ht with rfl | ht
      · exact hid ▸ List.mem_cons_self
      · exact List.mem_cons_of_mem _ (beside.1 t ht)
    · intro p n hedge
      rw [Tree.edgesOfAll, Tree.edges, List.mem_append, List.mem_append] at hedge
      rcases hedge with (hroot | hbelow) | hbeside
      · -- The trees right below the instance are those of its children.
        obtain ⟨t, ht, heq⟩ := List.mem_map.1 hroot
        obtain ⟨rfl, rfl⟩ : m = p ∧ t.label = n := by simpa using heq
        exact hid ▸ below.1 t ht
      · exact below.2 p n hbelow
      · exact beside.2 p n hbeside

variable {root : EntityId} {t : Tree Node}

/-- What hangs under a node of a tree is attached to it. -/
theorem edge_of_tree? (hs : s.model.Named) (ht : s.tree? root = some t) (h : (p, n) ∈ t.edges) :
    n.id ∈ s.model.children p.id ∧ s.node? p.id = some p := by
  have hsearch : (s.search {} [root]).1 = [t] := by rw [search_eq_toList hs, ht]; rfl
  have hedge : (p, n) ∈ Tree.edgesOfAll (s.search {} [root]).1 := by
    rw [hsearch, Tree.edgesOfAll, Tree.edgesOfAll, List.append_nil]
    exact h
  refine ⟨(edge_of_search hs {} [root]).2 p n hedge, node?_of_mem_search hs {} [root] p ?_⟩
  exact Tree.mem_labelsOfAll_of_edge _ hedge

end NodeSource

namespace LoadedModel

variable {l : LoadedModel} {root : EntityId} {t : Tree Node} {p n : Node}

/-- If nothing with an entity but one node lists an object, and the parent of the first link to the
object has an entity, then that node is the structure that contains the object. -/
theorem containerOf?_of_edge (hs : l.model.Named) (ht : l.treeNodes.tree? root = some t)
    (h : (p, n) ∈ t.edges)
    (honly : ∀ q, l.model.Resolves q → n.id ∈ l.model.children q → q = p.id)
    (hfirst : ∀ q, l.model.container? n.id = some q → l.model.Resolves q) :
    ∃ m, l.containerOf? n.id = some m ∧ m.withoutGeometry = p.withoutGeometry ∧
      (l.options.hierarchyGeometry = true → m = p) := by
  have hnamed : l.treeNodes.model.Named := by rwa [treeNodes_model]
  obtain ⟨hchild, hp⟩ := NodeSource.edge_of_tree? hnamed ht h
  rw [treeNodes_model] at hchild
  obtain ⟨q, hcontainer⟩ := Option.isSome_iff_exists.1
    (Model.isSome_container?_iff.2 ⟨p.id, hchild⟩)
  have hq : q = p.id := honly q (hfirst q hcontainer) (Model.mem_children_of_container? hcontainer)
  have hnode := node?_treeNodes (l := l) p.id
  rw [hp, Option.map_some, eq_comm] at hnode
  obtain ⟨m, hm, hgeometry⟩ := Option.map_eq_some_iff.1 hnode
  refine ⟨m, ?_, hgeometry, fun hoption => ?_⟩
  · rw [containerOf?, hcontainer, Option.bind_some, NodeSource.convert_empty, hq, hm]
  · rw [treeNodes, if_pos hoption, hm] at hp
    exact Option.some.inj hp

/-- An object has a first link exactly if it is attached to something, and then it is attached by
that link. The first link is made by the first of the relations that are listed under the types of
relations. These are the entities of the types, if no name is defined again under another type and
keywords are plain. In a tree, every node but the root hangs under a node, every node is attached
to the one it hangs under, and if nothing else lists it, that one is the structure that contains
it, but for the geometry that nodes of trees may lack. -/
theorem containment_agree {content : String} {withProperties : Bool} (l : LoadedModel)
    (h : Model.load content withProperties = .ok l.model) :
    (∀ id, (Spatial.parent? l.model.spatialLinks id).isSome ↔
      ∃ p, id ∈ Spatial.attached l.model.spatialLinks .aggregates p ∨
        id ∈ Spatial.attached l.model.spatialLinks .contains p) ∧
      (∀ id link, Spatial.parent? l.model.spatialLinks id = some link →
        link.child = id ∧ id ∈ Spatial.attached l.model.spatialLinks link.kind link.parent) ∧
      (∀ id link, Spatial.parent? l.model.spatialLinks id = some link ↔
        link.child = id ∧ ∃ r, Spatial.MakesFirst l.model.index r link) ∧
      (EntityIndex.OneType content → EntityIndex.PlainKeywords content →
        ∀ (kind : Containment) r, r ∈ l.model.index.entitiesOf kind.relation ↔
          l.model.get? r.id = some r ∧ r.type = kind.relation) ∧
      ∀ root t, l.treeNodes.tree? root = some t →
        (∀ n ∈ Tree.labelsOfAll t.children, ∃ p, (p, n) ∈ t.edges) ∧
          ∀ p n, (p, n) ∈ t.edges → n.id ∈ l.model.children p.id ∧
            ((∀ q, n.id ∈ l.model.children q → q = p.id) →
              ∃ m, l.containerOf? n.id = some m ∧ m.withoutGeometry = p.withoutGeometry ∧
                (l.options.hierarchyGeometry = true → m = p)) := by
  have hs := Model.named_of_load h
  have hindex := Model.index_of_load h
  have hlinks : l.model.spatialLinks = Spatial.links (.ofContent content) := by
    obtain ⟨header, hm⟩ := Model.exists_of_load h
    rw [hm]
    rfl
  refine ⟨fun id => ?_, fun id link hlink => ?_, fun id link => ?_, fun htypes hplain kind r => ?_,
    fun root t ht => ⟨fun n hn => ?_, fun p n hedge => ?_⟩⟩
  · rw [Spatial.isSome_parent?_iff]
    exact exists_congr fun p => List.mem_append
  · obtain ⟨hmem, rfl⟩ := Spatial.of_parent? hlink
    exact ⟨rfl, Spatial.mem_attached_iff.2 hmem⟩
  · rw [hlinks, hindex]
    exact Spatial.parent?_eq_some_iff
  · rw [Model.get?, hindex]
    exact EntityIndex.mem_entitiesOf_iff htypes hplain
  · exact Tree.exists_edge_of_mem hn
  · have hnamed : l.treeNodes.model.Named := by rwa [treeNodes_model]
    obtain ⟨hchild, hp⟩ := NodeSource.edge_of_tree? hnamed ht hedge
    rw [treeNodes_model] at hchild
    refine ⟨hchild, fun honly =>
      containerOf?_of_edge hs ht hedge (fun q _ => honly q) fun q hq => ?_⟩
    -- The parent of the first link lists the object, so it is the node, which has an entity.
    rw [honly q (Model.mem_children_of_container? hq), ← isSome_node?]
    have hnode := congrArg Option.isSome (node?_treeNodes (l := l) p.id)
    rwa [hp, Option.isSome_map, Option.isSome_map, eq_comm] at hnode

/-! ## A project with a site -/

/-- A project, a site, and a relation that makes the site a part of the project. -/
def projectSite : List Definition :=
  [⟨1, ⟨(EntityClass.name .project).toList, by decide, List.all_eq_true.1 (by decide)⟩, []⟩,
    ⟨2, ⟨(EntityClass.name .site).toList, by decide, List.all_eq_true.1 (by decide)⟩, []⟩,
    ⟨3, ⟨(EntityClass.name .relAggregates).toList, by decide, List.all_eq_true.1 (by decide)⟩,
      [.null, .null, .null, .null, .reference 1, .list [.reference 2]]⟩]

/-- The relation makes the only link. -/
theorem attaches_projectSite {d : Definition} (hd : d ∈ projectSite) {link : SpatialLink}
    (h : Spatial.Attaches d.entity link) : link = ⟨1, 2, .aggregates⟩ := by
  obtain ⟨p, c, kind⟩ := link
  obtain ⟨hp, hc⟩ := h
  simp only [projectSite, List.mem_cons, List.not_mem_nil, or_false] at hd
  rcases hd with rfl | rfl | rfl <;> cases kind
  · cases hp
  · cases hp
  · cases hp
  · cases hp
  · obtain rfl : 1 = p := Option.some.inj hp
    obtain rfl : c = 2 := List.mem_singleton.1 hc
    rfl
  · cases hp

theorem mem_links_projectSite {link : SpatialLink} :
    link ∈ Spatial.links (.ofContent (file projectSite)) ↔ link = ⟨1, 2, .aggregates⟩ := by
  have hids : (projectSite.map (·.id)).Nodup := by decide
  rw [Spatial.mem_links_iff]
  constructor
  · rintro ⟨r, hr, hattaches⟩
    obtain ⟨d, hd, -, rfl⟩ := (Model.mem_entitiesOf_file hids).1 hr
    exact attaches_projectSite hd hattaches
  · rintro rfl
    refine ⟨_, (Model.mem_entitiesOf_file hids).2
      ⟨_, .tail _ (.tail _ (.head _)), EntityIndex.type_eq_known rfl, rfl⟩, rfl, ?_⟩
    exact List.mem_singleton_self _

theorem containment_agree_projectSite :
    ∃ l : LoadedModel, Model.load (file projectSite) = .ok l.model ∧
      (∃ r, l.model.get? r.id = some r ∧ r.type = .known .relAggregates ∧
        Spatial.MakesFirst l.model.index r ⟨1, 2, .aggregates⟩) ∧
      ∃ t p n, l.treeNodes.tree? 1 = some t ∧ (p, n) ∈ t.edges ∧ p.id = 1 ∧ n.id = 2 ∧
        l.containerOf? 2 = some p := by
  have hids : (projectSite.map (·.id)).Nodup := by decide
  have hload := Model.load_file_eq projectSite true
  let l : LoadedModel :=
    ⟨"", .ofParts { schemaVersion := "IFC4" } (.ofContent (file projectSite)) true, none, {}⟩
  have hs : l.model.Named := Model.named_of_load hload
  have hlinks (link : SpatialLink) : link ∈ l.model.spatialLinks ↔ link = ⟨1, 2, .aggregates⟩ :=
    mem_links_projectSite
  have hchildren (q id : EntityId) : id ∈ l.model.children q ↔ q = 1 ∧ id = 2 := by
    rw [Model.children, Spatial.mem_children_iff]
    simp [hlinks]
  obtain ⟨hpresent, hlink, hparent, hrelations, htree⟩ := containment_agree l hload
  refine ⟨l, hload, ?_, ?_⟩
  · have hplain := EntityIndex.plainKeywords_file projectSite
    have htypes : EntityIndex.OneType (file projectSite) :=
      EntityIndex.oneType_of_nodup (by rwa [Model.map_id_file])
    -- The site is a part of the project, so there is a first link, and only one link can be it.
    obtain ⟨link, hfirst⟩ := Option.isSome_iff_exists.1 ((hpresent 2).2
      ⟨1, .inl (Spatial.mem_attached_iff.2 ((hlinks _).2 rfl))⟩)
    obtain rfl := (hlinks link).1 (Spatial.of_parent? hfirst).1
    obtain ⟨-, r, hr⟩ := (hparent 2 _).1 hfirst
    obtain ⟨hget, htype⟩ := (hrelations htypes hplain _ r).1 hr.1
    exact ⟨r, hget, htype, hr⟩
  · have hresolves (id : EntityId) : l.model.Resolves id ↔ ∃ d ∈ projectSite, d.id = id :=
      Model.resolves_iff_of_load_file hids hload
    have hproject : l.model.Resolves 1 := (hresolves 1).2 ⟨_, .head _, rfl⟩
    have hsite : l.model.Resolves 2 := (hresolves 2).2 ⟨_, .tail _ (.head _), rfl⟩
    have hreach : Reachable l.model.children l.model.Resolves [1] 2 :=
      .child (.root List.mem_cons_self hproject) ((hchildren 1 2).2 ⟨rfl, rfl⟩) hsite
    obtain ⟨t, ht⟩ : ∃ t, l.treeNodes.tree? 1 = some t := by
      have h := congrArg Option.isSome (NodeSource.map_label_tree? (s := l.treeNodes) hs 1)
      rw [Option.isSome_map] at h
      rw [← Option.isSome_iff_exists, h]
      exact (isSome_node? l 1).2 hproject
    have hsearch : (l.treeNodes.search {} [1]).1 = [t] := by
      rw [NodeSource.search_eq_toList (s := l.treeNodes) hs, ht, Option.toList_some]
    have hroot := (NodeSource.edge_of_search (s := l.treeNodes) hs {} [1]).1 t (by simp [hsearch])
    have hmem : 2 ∈ (Tree.labelsOfAll [t]).map Node.id := by
      rw [← hsearch, ← NodeSource.list_eq_labels (s := l.treeNodes) hs, NodeSource.list,
        NodeSource.mem_walk_iff (s := l.treeNodes) hs, NodeSource.fresh_empty]
      exact hreach
    obtain ⟨n, hn, hid⟩ := List.mem_map.1 hmem
    rw [Tree.labelsOfAll, Tree.labelsOfAll, List.append_nil, Tree.mem_labels_iff] at hn
    rcases hn with rfl | ⟨p, hedge⟩
    · rw [hid] at hroot
      exact absurd hroot (by decide)
    · obtain ⟨hchild, hcontainer⟩ := (htree 1 t ht).2 p n hedge
      have hp := ((hchildren _ _).1 hchild).1
      obtain ⟨m, hm, -, hmp⟩ := hcontainer fun q hq => ((hchildren _ _).1 hq).1.trans hp.symm
      rw [hid, hmp rfl] at hm
      exact ⟨t, p, n, ht, hedge, hp, hid, hm⟩

/-! ## A relation that is defined again -/

/-- The relation between a type and its slab. -/
def typing : Definition where
  id := 3
  tag := ⟨(EntityClass.name .relDefinesByType).toList, by decide, List.all_eq_true.1 (by decide)⟩
  attributes := [.null, .null, .null, .null, .list [.reference 2], .reference 1]

/-- A slab and its type. The relation between them was first written as one of containment. -/
def retyped : List Definition :=
  [⟨1, ⟨(EntityClass.name .slabType).toList, by decide, List.all_eq_true.1 (by decide)⟩, []⟩,
    ⟨2, ⟨(EntityClass.name .slab).toList, by decide, List.all_eq_true.1 (by decide)⟩, []⟩,
    ⟨3, ⟨(EntityClass.name .relContainedInSpatialStructure).toList, by decide,
      List.all_eq_true.1 (by decide)⟩, typing.attributes⟩,
    typing]

theorem map_type_retyped : (retyped.map fun d => (d.id, d.type)) =
    [(1, .known .slabType), (2, .known .slab), (3, .known .relContainedInSpatialStructure),
      (3, .known .relDefinesByType)] := by
  simp only [retyped, List.map_cons, List.map_nil, List.cons.injEq, Prod.mk.injEq, true_and,
    and_true]
  exact ⟨EntityIndex.type_eq_known rfl, EntityIndex.type_eq_known rfl,
    EntityIndex.type_eq_known rfl, rfl, EntityIndex.type_eq_known rfl⟩

/-- The name of the relation stays listed under the type it had first. -/
theorem mem_idsOf_retyped {kind : Containment} {id : EntityId} :
    id ∈ (EntityIndex.ofContent (file retyped)).idsOf kind.relation ↔
      kind = .contains ∧ id = 3 := by
  rw [Model.mem_idsOf_file_iff_mem_map, map_type_retyped]
  cases kind <;> simp [Containment.relation]

theorem get?_retyped : (EntityIndex.ofContent (file retyped)).get? 3 = some typing.entity := by
  rw [Model.get?_file_eq]
  rfl

/-- There is a link, although no entity is of the type of a relation. -/
theorem parent?_retyped :
    ∃ m, Model.load (file retyped) = .ok m ∧
      Spatial.parent? m.spatialLinks 2 = some ⟨1, 2, .contains⟩ ∧
      ∀ id r, m.get? id = some r → ∀ kind : Containment, r.type ≠ kind.relation := by
  refine ⟨_, Model.load_file_eq retyped true,
    Spatial.parent?_eq_some_iff.2 ⟨rfl, typing.entity, ?_⟩, fun id r hr kind => ?_⟩
  · refine ⟨List.mem_filterMap.2 ⟨3, mem_idsOf_retyped.2 ⟨rfl, rfl⟩, get?_retyped⟩,
      ⟨rfl, List.mem_singleton_self _⟩, fun r' link' hr' _ _ hprecedes => ?_⟩
    obtain ⟨id, hid, hget⟩ := List.mem_filterMap.1 hr'
    obtain ⟨hkind, rfl⟩ := mem_idsOf_retyped.1 hid
    -- All relations are listed for containment, under the same name.
    rcases hprecedes with ⟨hkind', -⟩ | ⟨-, hlt⟩
    · cases hkind.symm.trans hkind'
    · rw [EntityIndex.id_of_get?_ofContent hget] at hlt
      exact absurd hlt (by decide)
  · have hget : (EntityIndex.ofContent (file retyped)).get? id = some r := hr
    by_cases hid : id = 3
    · rw [hid, get?_retyped] at hget
      obtain rfl := Option.some.inj hget
      have htype : typing.entity.type = .known .relDefinesByType := EntityIndex.type_eq_known rfl
      rw [htype]
      cases kind <;> simp [Containment.relation]
    · rw [Model.get?_file_eq] at hget
      obtain ⟨d, hd, rfl⟩ := Option.map_eq_some_iff.1 hget
      have hmem : (d.id, d.type) ∈ retyped.map (fun d => (d.id, d.type)) :=
        List.mem_map_of_mem (List.mem_reverse.1 (List.mem_of_find?_eq_some hd))
      have hdid : d.id = id := by simpa using List.find?_some hd
      have htype : d.type = .known .slabType ∨ d.type = .known .slab := by
        rw [map_type_retyped, hdid] at hmem
        simp only [List.mem_cons, Prod.mk.injEq, hid, false_and, List.not_mem_nil, or_false] at hmem
        exact hmem.imp And.right And.right
      change d.type ≠ kind.relation
      rcases htype with htype | htype <;> rw [htype] <;> cases kind <;> simp [Containment.relation]

end LoadedModel

end Document

end BuildingModel
