import BuildingModel.Proofs.Document.Fragment
import BuildingModel.Proofs.Model.Types
import BuildingModel.Proofs.Schema.Spelling
import Mathlib.Data.List.Sort

/-!
# Queries and documents

What queries answer is what the document shows. The objects of a type are the nodes of the document
with the name of the class, sorted, if no name is defined again and no keyword has characters that
tags have not. The geometry under a key is that of the node whose number the key is
(`queries_agree`).

A query for the objects of a class answers the same for every spelling of the class. Texts that
spell no class of objects find nothing (`entitiesOf_spelled`).
-/

namespace BuildingModel.Document

open BuildingModel.Geometry
open BuildingModel.Step (Definition file)

/-! ## Sorted nodes -/

/-- Nodes in ascending order are the others in ascending order, if they are the same and have
different names. -/
theorem eq_mergeSort {ns ms : List Node} (hns : ns.Pairwise (·.id < ·.id))
    (hms : (ms.map Node.id).Nodup) (hmem : ∀ n, n ∈ ns ↔ n ∈ ms) :
    ns = ms.mergeSort fun a b => a.id ≤ b.id := by
  have hperm : ns.Perm (ms.mergeSort fun a b => a.id ≤ b.id) :=
    ((List.perm_ext_iff_of_nodup (hns.imp fun hlt heq => by simp [heq] at hlt)
      (List.Nodup.of_map _ hms)).2 hmem).trans (List.mergeSort_perm _ _).symm
  have hle : ns.Pairwise fun a b => a.id ≤ b.id := hns.imp UInt32.le_of_lt
  have hsorted : (ms.mergeSort fun a b => a.id ≤ b.id).Pairwise fun a b => a.id ≤ b.id := by
    have h : (ms.mergeSort fun a b => a.id ≤ b.id).Pairwise fun a b => decide (a.id ≤ b.id) :=
      List.pairwise_mergeSort (fun a b c => by simpa using UInt32.le_trans)
        (fun a b => by simpa using UInt32.le_total _ _) ms
    simpa using h
  -- The order tells nodes apart only by their names, and no two nodes have the same name.
  refine hperm.eq_of_pairwise (fun a b ha hb hab hba => ?_) hle hsorted
  exact List.inj_on_of_nodup_map hms ((hmem a).1 ha) (List.mem_mergeSort.1 hb)
    (UInt32.le_antisymm hab hba)

namespace LoadedModel

variable {o : Options} {source content : String} {l : LoadedModel} {n : Node}

theorem className_node (s : NodeSource) (e : Entity) :
    (s.node e).properties.className = e.type.name := by
  rw [NodeSource.node, propertySheet]
  split <;> rfl

/-- The list of a document has the nodes of all objects that have an entity. -/
theorem node_mem_entities (hs : l.model.Named) {id : EntityId} {e : Entity}
    (he : l.model.get? id = some e) (hobject : l.IsObject id) :
    l.nodes.node e ∈ l.document.entities := by
  have hmem : id ∈ l.document.entities.map Node.id := by
    rw [document, NodeSource.list, NodeSource.mem_walk_iff hs, NodeSource.fresh_empty]
    exact .root (mem_roots.2 (.inr hobject)) (Option.isSome_of_eq_some he)
  obtain ⟨n, hn, rfl⟩ := List.mem_map.1 hmem
  have hnode := node?_of_mem_document hs (.inr hn)
  rw [NodeSource.node?, show l.nodes.model.get? n.id = some e from he, Option.map_some] at hnode
  rwa [Option.some.inj hnode]

theorem entitiesOf_label {c : EntityClass} (hc : (EntityType.known c).isObject = true) :
    l.entitiesOf c.label = (l.model.index.entitiesOf (.known c)).map l.nodes.node := by
  rw [entitiesOf, EntityType.ofLabel_label]
  simp only [hc, Bool.and_true]
  rfl

/-- The objects of a class are the nodes of the document with the name of the class. -/
theorem mem_entitiesOf_label {withProperties : Bool}
    (hm : Model.load content withProperties = .ok l.model)
    (hids : ((Step.Statement.ofContent content).map (·.id)).Nodup)
    (hplain : EntityIndex.PlainKeywords content) {c : EntityClass}
    (hc : (EntityType.known c).isObject = true) :
    n ∈ l.entitiesOf c.label ↔ n ∈ l.document.entities ∧ n.properties.className = c.name := by
  have hs := Model.named_of_load hm
  have hindex := Model.index_of_load hm
  have htypes := EntityIndex.oneType_of_nodup hids
  have hget (id : EntityId) : l.model.get? id = (EntityIndex.ofContent content).get? id := by
    rw [Model.get?, hindex]
  rw [entitiesOf_label hc, hindex, List.mem_map]
  constructor
  · -- The index has the entity under the type it was read with, so the entity is an object there.
    rintro ⟨e, he, rfl⟩
    obtain ⟨he, htype⟩ := (EntityIndex.mem_entitiesOf_iff htypes hplain).1 he
    have hobject : l.IsObject e.id := by
      rw [IsObject, hindex, EntityIndex.typeOf?_of_get? hplain he, htype]
      exact ⟨_, rfl, hc⟩
    refine ⟨node_mem_entities hs (by rw [hget, he]) hobject, ?_⟩
    rw [className_node, htype]
    rfl
  · -- The node was made from an entity, and only entities of a class have its name.
    rintro ⟨hn, hname⟩
    obtain ⟨e, he, rfl⟩ := Option.map_eq_some_iff.1 (node?_of_mem_document hs (.inr hn))
    have he : (EntityIndex.ofContent content).get? e.id = some e := by
      rw [← hget]
      exact he
    rw [className_node, EntityIndex.name_type_eq_iff he] at hname
    exact ⟨e, (EntityIndex.mem_entitiesOf_iff htypes hplain).2 ⟨he, hname⟩, rfl⟩

/-- The objects of a class are in ascending order of their names. -/
theorem entitiesOf_label_pairwise {withProperties : Bool}
    (hm : Model.load content withProperties = .ok l.model) {c : EntityClass}
    (hc : (EntityType.known c).isObject = true) :
    (l.entitiesOf c.label).Pairwise (·.id < ·.id) := by
  rw [entitiesOf_label hc, Model.index_of_load hm, List.pairwise_map]
  exact EntityIndex.entitiesOf_pairwise

/-- There is geometry under the numbers of the products with a shape. -/
theorem isSome_geometryOf?_ofModel_iff {m : Model} {key : String} :
    ((ofModel o source m).geometryOf? key).isSome ↔ o.geometry = true ∧ ∃ id, IsProduct m id ∧
      key = toString id.toNat ∧ ∃ s, productShape? (kernel o) m id = .ok (some s) := by
  rw [Option.isSome_iff_exists]
  simp only [geometryOf?_ofModel_eq_some_iff]
  constructor
  · rintro ⟨_, ho, id, hid, hkey, s, hs, -⟩
    exact ⟨ho, id, hid, hkey, s, hs⟩
  · rintro ⟨ho, id, hid, hkey, s, hs⟩
    exact ⟨_, ho, id, hid, hkey, s, hs, rfl⟩

/-- For every model of a file that defines no name again and has plain keywords: the objects of a
type are the nodes of the document with its name, in ascending order; there is geometry exactly
under the numbers of the products with a shape, if shapes are computed; and the geometry of a node
of the document is what is found under its number. -/
theorem queries_agree (h : load o source content = .ok l)
    (hids : ((Step.Statement.ofContent content).map (·.id)).Nodup)
    (hplain : EntityIndex.PlainKeywords content) :
    (∀ c, (EntityType.known c).isObject = true →
      l.entitiesOf c.label = (l.document.entities.filter
        (·.properties.className == c.name)).mergeSort fun a b => a.id ≤ b.id) ∧
      (∀ key, (l.geometryOf? key).isSome ↔ o.geometry = true ∧ ∃ id, IsProduct l.model id ∧
        key = toString id.toNat ∧ ∃ s, productShape? (kernel o) l.model id = .ok (some s)) ∧
      ∀ n ∈ l.document.entities, n.geometry = l.geometryOf? (toString n.id.toNat) := by
  obtain ⟨hm, hl⟩ := exists_of_load h
  have hs := Model.named_of_load hm
  refine ⟨fun c hc => ?_, fun key => ?_, fun n hn =>
    geometry_of_node?_nodes (node?_of_mem_document hs (.inr hn))⟩
  · have hnodup : (l.document.entities.map Node.id).Nodup := NodeSource.nodup_walk hs {} l.roots
    refine eq_mergeSort (entitiesOf_label_pairwise hm hc)
      (hnodup.sublist (List.filter_sublist.map _)) fun n => ?_
    rw [mem_entitiesOf_label hm hids hplain hc, List.mem_filter, beq_iff_eq]
  · rw [congrArg (geometryOf? · key) hl]
    exact isSome_geometryOf?_ofModel_iff

theorem queries_agree_triangleWall :
    ((Step.Statement.ofContent (file triangleWall)).map (·.id)).Nodup ∧
      EntityIndex.PlainKeywords (file triangleWall) ∧
      ∃ l, load {} "" (file triangleWall) = .ok l ∧ (l.geometryOf? "1").isSome ∧
        ∃ n ∈ l.entitiesOf "Wall", n.id = 1 ∧ n.geometry.isSome := by
  have hids : ((Step.Statement.ofContent (file triangleWall)).map (·.id)).Nodup := by
    rw [Model.map_id_file]
    decide
  have hplain := EntityIndex.plainKeywords_file triangleWall
  have hl := load_triangleWall {} ""
  obtain ⟨hlist, -, hgeometry⟩ := queries_agree hl hids hplain
  obtain ⟨g, hg⟩ := exists_geometryOf?_wall (o := {}) rfl ""
  have hs : (wallModel true).Named := Model.named_of_load (exists_of_load hl).1
  have hwall : (wallModel true).get? 1 = some wall.entity :=
    get?_wallModel true (d := wall) (by simp [triangleWall])
  have hnode := node_mem_entities (l := ofModel {} "" (wallModel true)) hs hwall
    ⟨_, typeOf?_wallModel true, rfl⟩
  have hname : ((ofModel {} "" (wallModel true)).nodes.node wall.entity).properties.className =
      EntityClass.name .wall := by
    rw [className_node, show wall.entity.type = .known .wall from type_wall]
    rfl
  refine ⟨hids, hplain, _, hl, Option.isSome_of_eq_some hg,
    (ofModel {} "" (wallModel true)).nodes.node wall.entity, ?_, rfl, ?_⟩
  · rw [show "Wall" = EntityClass.label .wall from rfl, hlist .wall rfl, List.mem_mergeSort,
      List.mem_filter, beq_iff_eq]
    exact ⟨hnode, hname⟩
  · rw [hgeometry _ hnode]
    exact Option.isSome_of_eq_some hg

/-! ## Spellings -/

open EntityType (Spells ofLabel_eq_known_iff)

/-- A spelling of a class finds the objects of the class. -/
theorem entitiesOf_of_spells {s : String} {c : EntityClass} (h : Spells s c)
    (hc : (EntityType.known c).isObject = true) :
    l.entitiesOf s = (l.model.index.entitiesOf (.known c)).map l.nodes.node := by
  rw [← entitiesOf_label hc, entitiesOf, entitiesOf, ofLabel_eq_known_iff.2 h,
    EntityType.ofLabel_label]

/-- A text is read as a class exactly if it spells the class, and as a tag that is not known if it
spells none. Queries for a class of objects find its objects, and two spellings of a class find the
same. Under a text that spells no class of objects they find nothing. -/
theorem entitiesOf_spelled :
    (∀ s c, EntityType.ofLabel s = .known c ↔ Spells s c) ∧
      (∀ s, (∃ tag, EntityType.ofLabel s = .unknown tag) ↔ ∀ c, ¬ Spells s c) ∧
      ∀ l : LoadedModel,
        (∀ s c, Spells s c → (EntityType.known c).isObject = true →
          l.entitiesOf s = (l.model.index.entitiesOf (.known c)).map l.nodes.node) ∧
        (∀ s t c, Spells s c → Spells t c → l.entitiesOf s = l.entitiesOf t) ∧
        ∀ s, (∀ c, Spells s c → (EntityType.known c).isObject = false) → l.entitiesOf s = [] := by
  refine ⟨fun _ _ => ofLabel_eq_known_iff, fun _ => EntityType.exists_ofLabel_eq_unknown_iff,
    fun l => ⟨fun s c => entitiesOf_of_spells, fun s t c hs ht => ?_, fun s h => ?_⟩⟩
  · rw [entitiesOf, entitiesOf, ofLabel_eq_known_iff.2 hs, ofLabel_eq_known_iff.2 ht]
  · rw [entitiesOf]
    cases hs : EntityType.ofLabel s with
    | known c => simp [h c (ofLabel_eq_known_iff.1 hs)]
    | unknown tag => simp [EntityType.isKnown]

/-- The wall is found under its tag with blanks around it. The name of the schema does not stand
twice in a spelling, and quantities are no objects. -/
theorem entitiesOf_spelled_wall :
    Spells " \u00a0ifcWALL\t" .wall ∧ Spells "Wall" .wall ∧ (∀ c, ¬ Spells "IfcIfcWall" c) ∧
      Spells "quantityAREA" .quantityArea ∧
      ∃ l, load {} "" (file triangleWall) = .ok l ∧
        (∃ n ∈ l.entitiesOf " \u00a0ifcWALL\t", n.id = 1) ∧
        l.entitiesOf " \u00a0ifcWALL\t" = l.entitiesOf "Wall" ∧
        l.entitiesOf "IfcIfcWall" = [] ∧ l.entitiesOf "quantityAREA" = [] := by
  have hblanks : Spells " \u00a0ifcWALL\t" .wall :=
    ⟨[' ', '\u00a0'], "ifcWALL".toList, ['\t'], rfl, List.all_eq_true.1 (by decide),
      List.all_eq_true.1 (by decide), EntityClass.tag .wall, by simp, by decide +kernel⟩
  have hwall : Spells "Wall" .wall := ⟨[], "Wall".toList, [], rfl, nofun, nofun,
    EntityClass.label .wall, by simp, rfl⟩
  have harea : Spells "quantityAREA" .quantityArea := ⟨[], "quantityAREA".toList, [], rfl, nofun,
    nofun, EntityClass.label .quantityArea, by simp, by decide +kernel⟩
  have htwice : ∀ c, ¬ Spells "IfcIfcWall" c := by
    intro c hc
    have hupper : (Text.trim "IfcIfcWall".toList).map Char.toUpper = "IFCIFCWALL".toList := by
      decide +kernel
    rw [EntityType.spells_iff, hupper] at hc
    rcases hc with h | h
    · exact EntityType.letters_ne_schema c _ h.symm
    · exact EntityType.letters_ne_schema c "WALL".toList (by simpa using h.symm)
  obtain ⟨hknown, -, hquery⟩ := entitiesOf_spelled
  obtain ⟨hobjects, hsame, hnone⟩ := hquery (ofModel {} "" (wallModel true))
  refine ⟨hblanks, hwall, htwice, harea, _, load_triangleWall {} "", ?_, hsame _ _ _ hblanks hwall,
    hnone _ fun c hc => absurd hc (htwice c), hnone _ fun c hc => ?_⟩
  · have hmem : wall.entity ∈ (wallModel true).index.entitiesOf (.known .wall) :=
      (Model.mem_entitiesOf_file (by decide)).2 ⟨wall, by simp [triangleWall], type_wall, rfl⟩
    rw [hobjects _ _ hblanks rfl]
    exact ⟨_, List.mem_map_of_mem hmem, rfl⟩
  · have hclass := ((hknown _ _).2 hc).symm.trans ((hknown _ _).2 harea)
    rw [EntityType.known.inj hclass]
    rfl

end LoadedModel

end BuildingModel.Document
