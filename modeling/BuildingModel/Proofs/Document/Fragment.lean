import BuildingModel.Proofs.Document.Emission
import BuildingModel.Proofs.Document.Parts
import BuildingModel.Proofs.Geometry.Shape
import BuildingModel.Proofs.Model.Types

/-!
# Geometry in documents

The fragments that a document shows are those of shapes of products, so they are well-formed
(`wellFormed_geometry`): every mesh has faces, every face has three corners at least, and the faces
list all vertices and nothing else.
-/

namespace BuildingModel.Document

open BuildingModel.Geometry
open BuildingModel.Step (Definition file)

/-- What a mesh of a fragment has to be. -/
structure MeshFragment.WellFormed (shared : Bool) (m : MeshFragment) : Prop where
  /-- There is a face. -/
  faces_ne_nil : m.faces ≠ []
  /-- A face has three corners at least. -/
  three_le : ∀ f ∈ m.faces, 3 ≤ f.length
  /-- Faces list vertices. -/
  lt_size : ∀ f ∈ m.faces, ∀ v ∈ f, v < m.vertices.size
  /-- Every vertex is listed by a face. -/
  exists_face : ∀ v < m.vertices.size, ∃ f ∈ m.faces, v ∈ f
  /-- Without sharing, the faces number the vertices in order. -/
  numbered : shared = false → m.faces.flatten = List.range m.vertices.size
  /-- Where vertices are shared, no two of them have the same bits. -/
  distinct : shared = true → (m.vertices.toList.map bits).Nodup

/-- What a fragment has to be. -/
structure GeometryFragment.WellFormed (shared : Bool) (g : GeometryFragment) : Prop where
  /-- There is a mesh. -/
  meshes_ne_nil : g.meshes ≠ []
  /-- The meshes are well-formed. -/
  mesh : ∀ m ∈ g.meshes, m.WellFormed shared

/-! ## Fragments of shapes -/

/-- An item of well-formed meshes with a face has loops, of three points at least. -/
theorem itemLoops_of_wellFormed {i : ShapeItem} (h : i.WellFormed) :
    itemLoops i ≠ [] ∧ ∀ l ∈ itemLoops i, 3 ≤ l.length := by
  constructor
  · obtain ⟨m, hm, hface⟩ := h.face
    obtain ⟨f, hf⟩ := Array.exists_mem_of_ne_empty _ (Array.isEmpty_eq_false_iff.1 hface)
    exact List.ne_nil_of_mem (List.mem_flatMap.2
      ⟨m, hm, List.mem_map_of_mem (Array.mem_toList_iff.2 hf)⟩)
  · intro l hl
    obtain ⟨m, hm, hl⟩ := List.mem_flatMap.1 hl
    obtain ⟨f, hf, rfl⟩ := List.mem_map.1 hl
    exact (h.mesh m hm).three_le_length_points (Array.mem_toList_iff.1 hf)

theorem wellFormed_itemMesh (shared : Bool) {i : ShapeItem} (h : i.WellFormed) :
    (itemMesh shared i).WellFormed shared := by
  obtain ⟨hne, hthree⟩ := itemLoops_of_wellFormed h
  have hlengths := map_length_faces_itemMesh shared i
  constructor
  case faces_ne_nil =>
    intro hnil
    rw [hnil, List.map_nil, eq_comm, List.map_eq_nil_iff] at hlengths
    exact hne hlengths
  case three_le =>
    intro f hf
    obtain ⟨l, hl, hlf⟩ := List.mem_map.1 (hlengths ▸ List.mem_map_of_mem hf)
    exact hlf ▸ hthree l hl
  case lt_size => exact fun f hf v hv => lt_of_mem_faces_itemMesh shared i hf hv
  case exists_face => exact fun v hv => exists_mem_faces_itemMesh shared i hv
  case numbered =>
    rintro rfl
    exact flatten_faces_itemMesh i
  case distinct =>
    rintro rfl
    exact nodup_bits_itemMesh i

/-- The fragment of the shape of a product is well-formed. -/
theorem wellFormed_fragment (shared : Bool) {k : Kernel} {m : Model} {id : EntityId}
    {s : ProductShape} (h : productShape? k m id = .ok (some s)) :
    (fragment shared s).WellFormed shared := by
  obtain ⟨-, hne, hitems⟩ := of_productShape? h
  refine ⟨mt List.map_eq_nil_iff.1 hne, fun g hg => ?_⟩
  obtain ⟨i, hi, rfl⟩ := List.mem_map.1 hg
  exact wellFormed_itemMesh shared (hitems i hi)

/-! ## Fragments of documents -/

namespace LoadedModel

/-- The kernel that shapes are computed with. -/
def kernel (o : Options) : Kernel :=
  ({} : Kernel).withSegments o.circleSegments

theorem shapes_ofModel (o : Options) (source : String) (m : Model) :
    (ofModel o source m).shapes = if o.geometry then some (Geometry.shapes (kernel o) m) else none :=
  rfl

theorem exists_of_load {o : Options} {source content : String} {l : LoadedModel}
    (h : load o source content = .ok l) :
    Model.load content o.properties = .ok l.model ∧ l = ofModel o source l.model := by
  rw [load] at h
  cases hm : Model.load content o.properties with
  | error e => rw [hm] at h; cases h
  | ok m => rw [hm] at h; cases h; exact ⟨rfl, rfl⟩

/-- Under a key there is geometry exactly if shapes are computed and the key is the number of a
product with a shape. -/
theorem geometryOf?_ofModel_eq_some_iff {o : Options} {source : String} {m : Model} {key : String}
    {g : GeometryFragment} : (ofModel o source m).geometryOf? key = some g ↔
      o.geometry = true ∧ ∃ id, IsProduct m id ∧ key = toString id.toNat ∧
        ∃ s, productShape? (kernel o) m id = .ok (some s) ∧ g = fragment o.sharedVertices s := by
  rw [geometryOf?, shapes_ofModel]
  cases o.geometry with
  | false => simp
  | true =>
    simp only [if_true, Option.bind_some, Option.map_eq_some_iff, true_and]
    constructor
    · rintro ⟨s, hs, rfl⟩
      obtain ⟨id, hid, hkey, hshape⟩ := getKey?_shapes_iff.1 hs
      exact ⟨id, hid, hkey, s, hshape, rfl⟩
    · rintro ⟨id, hid, hkey, s, hshape, rfl⟩
      exact ⟨s, getKey?_shapes_iff.2 ⟨id, hid, hkey, hshape⟩, rfl⟩

theorem wellFormed_of_geometryOf? {o : Options} {source : String} {m : Model} {key : String}
    {g : GeometryFragment} (h : (ofModel o source m).geometryOf? key = some g) :
    g.WellFormed o.sharedVertices := by
  obtain ⟨-, id, -, -, s, hs, rfl⟩ := geometryOf?_ofModel_eq_some_iff.1 h
  exact wellFormed_fragment o.sharedVertices hs

section

variable {l : LoadedModel} {n : Node}

/-- The geometry of a node of a list is what is found under its number. -/
theorem geometry_of_node?_nodes {id : EntityId} (h : l.nodes.node? id = some n) :
    n.geometry = l.geometryOf? (toString n.id.toNat) := by
  obtain ⟨e, -, rfl⟩ := Option.map_eq_some_iff.1 h
  rfl

/-- A node of a tree has the geometry that is found under its number, or none. -/
theorem geometry_of_node?_treeNodes {id : EntityId} (h : l.treeNodes.node? id = some n) :
    n.geometry = none ∨ n.geometry = l.geometryOf? (toString n.id.toNat) := by
  rw [treeNodes] at h
  split at h
  · exact .inr (geometry_of_node?_nodes h)
  · obtain ⟨e, -, rfl⟩ := Option.map_eq_some_iff.1 h
    exact .inl rfl

/-- The nodes of a document are those of their instances. -/
theorem node?_of_mem_document (hs : l.model.Named)
    (hn : l.document.project = some n ∨ n ∈ l.document.entities) :
    l.nodes.node? n.id = some n := by
  rcases hn with hn | hn
  · obtain ⟨id, -, hid⟩ := Option.bind_eq_some_iff.1 hn
    rw [NodeSource.convert_empty] at hid
    obtain ⟨e, he, rfl⟩ := Option.map_eq_some_iff.1 hid
    rwa [show (l.nodes.node e).id = id from hs id e he]
  · exact NodeSource.node?_of_mem_list hs hn

/-- The nodes of the tree of a document are those of their instances. -/
theorem node?_of_mem_hierarchy (hs : l.model.Named)
    (hn : n ∈ Tree.labelsOfAll l.document.hierarchy.toList) :
    l.treeNodes.node? n.id = some n := by
  rw [document, hierarchy?] at hn
  cases hp : l.model.project? with
  | none => rw [hp] at hn; cases hn
  | some p =>
    rw [hp] at hn
    exact NodeSource.node?_of_mem_tree? (by rwa [treeNodes_model]) hn

end

/-- All geometry in the document of a model is well-formed, that of the project, of the list of
nodes and of the tree, and so is what is found under any key. -/
theorem wellFormed_geometry {o : Options} {source content : String} {l : LoadedModel}
    (h : load o source content = .ok l) :
    (∀ n, (l.document.project = some n ∨ n ∈ l.document.entities ∨
        n ∈ Tree.labelsOfAll l.document.hierarchy.toList) →
      ∀ g, n.geometry = some g → g.WellFormed o.sharedVertices) ∧
      ∀ key g, l.geometryOf? key = some g → g.WellFormed o.sharedVertices := by
  obtain ⟨hm, hl⟩ := exists_of_load h
  have hs : l.model.Named := Model.named_of_load hm
  have hkey (key : String) (g : GeometryFragment) (hg : l.geometryOf? key = some g) :
      g.WellFormed o.sharedVertices := by
    rw [hl] at hg
    exact wellFormed_of_geometryOf? hg
  refine ⟨fun n hn g hg => ?_, hkey⟩
  -- Nodes of the list have what is found under their numbers. Nodes of the tree come from a source
  -- of their own, which may be without shapes.
  rw [← or_assoc] at hn
  rcases hn with hn | hn
  · rw [geometry_of_node?_nodes (node?_of_mem_document hs hn)] at hg
    exact hkey _ g hg
  · rcases geometry_of_node?_treeNodes (node?_of_mem_hierarchy hs hn) with hnone | hnode
    · rw [hnone] at hg
      cases hg
    · exact hkey _ g (hnode ▸ hg)

/-! ## A wall with geometry -/

/-- A wall with a shape. -/
def wall : Definition where
  id := 1
  tag := ⟨(EntityClass.name .wall).toList, by decide, List.all_eq_true.1 (by decide)⟩
  attributes := [.null, .null, .null, .null, .null, .null, .reference 2]

/-- The shape of the wall. -/
def wallShape : Definition where
  id := 2
  tag := ⟨"IFCPRODUCTDEFINITIONSHAPE".toList, by decide, List.all_eq_true.1 (by decide)⟩
  attributes := [.null, .null, .list [.reference 3]]

/-- The body of the wall. -/
def wallBody : Definition where
  id := 3
  tag := ⟨"IFCSHAPEREPRESENTATION".toList, by decide, List.all_eq_true.1 (by decide)⟩
  attributes := [.null, .text "Body", .null, .list [.reference 4]]

/-- The triangle that the body consists of. -/
def triangle : Definition where
  id := 4
  tag := ⟨(EntityClass.name .triangulatedFaceSet).toList, by decide,
    List.all_eq_true.1 (by decide)⟩
  attributes := [.reference 5, .null, .null, .list [.list [.integer 1, .integer 2, .integer 3]]]

/-- The corners of the triangle. -/
def trianglePoints : Definition where
  id := 5
  tag := ⟨"IFCCARTESIANPOINTLIST3D".toList, by decide, List.all_eq_true.1 (by decide)⟩
  attributes := [.list [.list [.integer 0, .integer 0, .integer 0],
    .list [.integer 1, .integer 0, .integer 0], .list [.integer 0, .integer 1, .integer 0]]]

/-- A wall whose body is a triangle. -/
def triangleWall : List Definition :=
  [wall, wallShape, wallBody, triangle, trianglePoints]

/-- The loop of the triangle. -/
def triangleLoop : List (Vec3 Float) :=
  [⟨.ofInt 0, .ofInt 0, .ofInt 0⟩, ⟨.ofInt 1, .ofInt 0, .ofInt 0⟩, ⟨.ofInt 0, .ofInt 1, .ofInt 0⟩]

theorem type_wall : wall.type = .known .wall :=
  EntityIndex.type_eq_known rfl

theorem type_triangle : triangle.entity.type = .known .triangulatedFaceSet :=
  EntityIndex.type_eq_known rfl

theorem not_isEmpty_triangle : (!(Mesh.ofLoops [triangleLoop]).isEmpty) = true := by
  decide +kernel

section

variable {x : EntityIndex} (hget : ∀ d ∈ triangleWall, x.get? d.id = some d.entity)
include hget

theorem bodyItems_wall : bodyItems x wall.entity = [triangle.entity] := by
  have hshape : x.follow? wall.entity 6 = some wallShape.entity :=
    hget wallShape (by simp [triangleWall])
  have hbody : x.get? 3 = some wallBody.entity := hget wallBody (by simp [triangleWall])
  have hitem : x.get? 4 = some triangle.entity := hget triangle (by simp [triangleWall])
  have hshapes : wallShape.entity.references 2 = [3] := rfl
  have hitems : wallBody.entity.references 3 = [4] := rfl
  have hname : isBodyName (wallBody.entity.text? 1) = true := by decide
  simp [bodyItems, hshape, hshapes, hbody, hname, hitems, hitem]

theorem faceSetLoops_triangle : faceSetLoops x triangle.entity = .ok [triangleLoop] := by
  have hlist : x.get? 5 = some trianglePoints.entity :=
    hget trianglePoints (by simp [triangleWall])
  have hpoints : pointList x 5 = .ok triangleLoop := by
    rw [pointList, entity, hlist]
    rfl
  have hcoordinates : triangle.entity.reference? 0 = some 5 := rfl
  rw [faceSetLoops, hcoordinates, require, ok_bind, hpoints, ok_bind, if_pos type_triangle]
  rfl

theorem meshes_triangle {k : Kernel} (hk : k.processors.contains .faceSet = true) :
    meshes k x triangle.entity = .ok [Mesh.ofLoops [triangleLoop]] := by
  have hprocessor : k.processor? triangle.entity.type = some .faceSet := by
    rw [type_triangle, Kernel.processor?, Processor.ofType?, Option.filter_some, if_pos hk]
  rw [meshes, itemLimit, meshesWithin]
  simp only [hprocessor]
  rw [faceSetLoops_triangle hget, ok_bind, meshesOfLoops, List.filter_singleton,
    not_isEmpty_triangle]
  rfl

end

/-- The wall has a shape. -/
theorem exists_productShape?_wall {k : Kernel} (hk : k.processors.contains .faceSet = true)
    {m : Model} (hget : ∀ d ∈ triangleWall, m.index.get? d.id = some d.entity) :
    ∃ s, productShape? k m 1 = .ok (some s) := by
  have hwall : entity m.index 1 = .ok wall.entity := by
    rw [entity, show m.index.get? 1 = some wall.entity from hget wall (by simp [triangleWall])]
  obtain ⟨i, hi⟩ : ∃ i, shapeItem? k m triangle.entity = some i := by
    rw [shapeItem?, meshes_triangle hget hk]
    simp only [List.filter_singleton, not_isEmpty_triangle]
    exact ⟨_, rfl⟩
  rw [productShape?, hwall, ok_bind, bodyItems_wall hget, List.filterMap_cons, hi]
  exact ⟨_, rfl⟩

/-- The model of the wall. -/
def wallModel (withProperties : Bool) : Model :=
  .ofParts { schemaVersion := "IFC4" } (.ofContent (file triangleWall)) withProperties

theorem entry?_wallModel (withProperties : Bool) {d : Definition} (hd : d ∈ triangleWall) :
    ∃ start stop, (wallModel withProperties).index.entry? d.id =
      some ⟨start, stop, d.type, some d.entity⟩ :=
  Model.entry?_file (by decide) hd

theorem get?_wallModel (withProperties : Bool) {d : Definition} (hd : d ∈ triangleWall) :
    (wallModel withProperties).index.get? d.id = some d.entity := by
  obtain ⟨start, stop, hentry⟩ := entry?_wallModel withProperties hd
  rw [EntityIndex.get?, hentry, Option.bind_some]

theorem typeOf?_wallModel (withProperties : Bool) :
    (wallModel withProperties).index.typeOf? 1 = some (.known .wall) := by
  obtain ⟨start, stop, hwall⟩ :=
    entry?_wallModel withProperties (d := wall) (by simp [triangleWall])
  rw [EntityIndex.typeOf?, ← type_wall]
  exact congrArg (Option.map IndexEntry.type) hwall

theorem load_triangleWall (o : Options) (source : String) :
    load o source (file triangleWall) = .ok (ofModel o source (wallModel o.properties)) := by
  rw [load, Model.load_file_eq]
  rfl

/-- The model of the wall has geometry under the number of the wall. -/
theorem exists_geometryOf?_wall {o : Options} (ho : o.geometry = true) (source : String) :
    ∃ g, (ofModel o source (wallModel o.properties)).geometryOf? "1" = some g := by
  obtain ⟨s, hs⟩ :=
    exists_productShape?_wall (k := kernel o) rfl fun _ => get?_wallModel o.properties
  exact ⟨_, geometryOf?_ofModel_eq_some_iff.2
    ⟨ho, 1, ⟨_, typeOf?_wallModel o.properties, rfl⟩, rfl, s, hs, rfl⟩⟩

theorem wellFormed_geometry_triangleWall :
    ∃ l, load { sharedVertices := true } "" (file triangleWall) = .ok l ∧
      ∃ g, l.geometryOf? "1" = some g ∧ g.WellFormed true := by
  have hl := load_triangleWall { sharedVertices := true } ""
  obtain ⟨g, hg⟩ := exists_geometryOf?_wall (o := { sharedVertices := true }) rfl ""
  exact ⟨_, hl, g, hg, (wellFormed_geometry hl).2 "1" g hg⟩

end LoadedModel

end BuildingModel.Document
