import BuildingModel.Document.Encoding
import BuildingModel.Proofs.Document.Fragment

/-!
# What options change

Two documents of one content differ only in what their options are about. Walks take the same way
in all sources with the same instances and links, whatever is put into nodes on the way
(`NodeSource.AgreeOn`):

* `NodeSource.AgreeOn.search`: in such sources the search finds trees that look alike, and visits
  the same instances;
* `LoadedModel.agreeOn_bare`, `agreeOn_geometry`, `agreeOn_properties`: such are the sources of two
  loads of one content, in views that leave out what the options differ in;
* `LoadedModel.document_agree`: so the documents look alike in these views.
-/

namespace BuildingModel

/-! ## Views of trees -/

mutual

/-- The labels of a tree are changed where they are. -/
theorem Tree.labels_map {α β : Type} (f : α → β) : ∀ t : Tree α, (t.map f).labels = t.labels.map f
  | .node a ts => by
    rw [Tree.map, Tree.labels, Tree.labels, List.map_cons, Tree.labelsOfAll_mapAll f ts]

theorem Tree.labelsOfAll_mapAll {α β : Type} (f : α → β) :
    ∀ ts : List (Tree α), Tree.labelsOfAll (Tree.mapAll f ts) = (Tree.labelsOfAll ts).map f
  | [] => rfl
  | t :: ts => by
    rw [Tree.mapAll, Tree.labelsOfAll, Tree.labelsOfAll, List.map_append, Tree.labels_map f t,
      Tree.labelsOfAll_mapAll f ts]

end

theorem Tree.head?_mapAll {α β : Type} (f : α → β) (ts : List (Tree α)) :
    (Tree.mapAll f ts).head? = ts.head?.map (Tree.map f) := by
  cases ts with
  | nil => rfl
  | cons t ts => rfl

namespace Document

open BuildingModel.Step (file)

/-! ## Walks in sources that look alike -/

namespace NodeSource

/-- Two sources have the same instances and links, and their nodes look alike in a view. -/
structure AgreeOn {α : Type} (view : Node → α) (s t : NodeSource) : Prop where
  /-- The instances are the same. -/
  index : s.model.index = t.model.index
  /-- The links are the same. -/
  links : s.model.spatialLinks = t.model.spatialLinks
  /-- Nodes look alike. -/
  node : ∀ e, view (s.node e) = view (t.node e)

namespace AgreeOn

variable {α : Type} {view : Node → α} {s t : NodeSource}

theorem symm (h : AgreeOn view s t) : AgreeOn view t s :=
  ⟨h.index.symm, h.links.symm, fun e => (h.node e).symm⟩

theorem trans {u : NodeSource} (h : AgreeOn view s t) (h' : AgreeOn view t u) : AgreeOn view s u :=
  ⟨h.index.trans h'.index, h.links.trans h'.links, fun e => (h.node e).trans (h'.node e)⟩

theorem get? (h : AgreeOn view s t) : s.model.get? = t.model.get? := by
  funext id
  rw [Model.get?, Model.get?, h.index]

theorem children (h : AgreeOn view s t) : s.model.children = t.model.children := by
  funext id
  rw [Model.children, Model.children, h.links]

theorem fresh (h : AgreeOn view s t) (visited : InstanceSet) :
    s.Fresh visited = t.Fresh visited := by
  funext id
  rw [Fresh, Fresh, Model.Resolves, Model.Resolves, h.get?]

theorem named (h : AgreeOn view s t) (hs : s.model.Named) : t.model.Named := by
  rwa [Model.Named, ← h.get?]

theorem map_node? (h : AgreeOn view s t) (id : EntityId) :
    (s.node? id).map view = (t.node? id).map view := by
  rw [node?, node?, h.get?, Option.map_map, Option.map_map]
  exact congrArg (Option.map · _) (funext h.node)

/-- The search finds trees that look alike, and visits the same instances. -/
theorem search (h : AgreeOn view s t) (visited : InstanceSet) (ids : List EntityId) :
    Tree.mapAll view (s.search visited ids).1 = Tree.mapAll view (t.search visited ids).1 ∧
      (s.search visited ids).2 = (t.search visited ids).2 := by
  induction visited, ids using search_induction (s := s) with
  | nil v =>
    rw [search_nil, search_nil]
    exact ⟨rfl, rfl⟩
  | skip v id ids hid ih => rwa [search_of_not_fresh hid, search_of_not_fresh (h.fresh v ▸ hid)]
  | visit v id ids hid below beside =>
    obtain ⟨e, he⟩ := Option.isSome_iff_exists.1 hid.1
    have hn : s.node? id = some (s.node e) := by rw [node?, he]; rfl
    have hn' : t.node? id = some (t.node e) := by rw [node?, ← h.get?, he]; rfl
    rw [search_of_fresh hid hn, search_of_fresh (h.fresh v ▸ hid) hn', ← h.children]
    -- What is visited below is the same, so the search goes on from the same set.
    rw [← below.2]
    refine ⟨?_, beside.2⟩
    rw [Tree.mapAll, Tree.mapAll, Tree.map, Tree.map, h.node e, below.1, beside.1]

theorem map_list (h : AgreeOn view s t) (hs : s.model.Named) (roots : List EntityId) :
    (s.list roots).map view = (t.list roots).map view := by
  rw [list_eq_labels hs, list_eq_labels (h.named hs), ← Tree.labelsOfAll_mapAll,
    ← Tree.labelsOfAll_mapAll, (h.search {} roots).1]

theorem map_tree? (h : AgreeOn view s t) (hs : s.model.Named) (root : EntityId) :
    (s.tree? root).map (Tree.map view) = (t.tree? root).map (Tree.map view) := by
  rw [tree?_eq_head? hs, tree?_eq_head? (h.named hs), ← Tree.head?_mapAll, ← Tree.head?_mapAll,
    (h.search {} [root]).1]

end AgreeOn

end NodeSource

/-! ## What all options have in common -/

/-- Properties without what is only read on demand. -/
def PropertySheet.bare (s : PropertySheet) : PropertySheet where
  entityId := s.entityId
  className := s.className

/-- A node without its geometry and without what is only read on demand. -/
def Node.bare (n : Node) : Node :=
  { n with properties := n.properties.bare, geometry := none }

/-- A document with bare nodes. -/
def ModelDocument.bare (d : ModelDocument) : ModelDocument where
  project := d.project.map Node.bare
  entities := d.entities.map Node.bare
  hierarchy := d.hierarchy.map (Tree.map Node.bare)
  metadata := d.metadata

/-- The fields of properties that are only read on demand. -/
def PropertySheet.onDemand : List String :=
  ["propertySets", "quantities", "objectType", "tag"]

/-- Bare properties are those without the fields that are only read on demand. -/
theorem PropertySheet.toJson_bare (s : PropertySheet) : ∃ fields, s.toJson = .object fields ∧
    s.bare.toJson = .object (fields.filter (·.1 ∉ onDemand)) := by
  refine ⟨_, rfl, congrArg Json.object ?_⟩
  obtain ⟨id, name, sets, quantities, type, tag⟩ := s
  cases sets <;> cases quantities <;> cases type <;> cases tag <;>
    simp [bare, Json.textField, namedField, onDemand]

theorem PropertySheet.bare_propertySheet (m : Model) (withProperties : Bool) (e : Entity) :
    (propertySheet m withProperties e).bare = { entityId := e.id, className := e.type.name } := by
  rw [propertySheet]
  split
  · rfl
  · rfl

/-- A bare node has bare properties, and no geometry. -/
theorem Node.fields_bare (n : Node) : n.bare.fields =
    (n.fields.filter (·.1 ≠ "geometry")).map fun f =>
      if f.1 = "properties" then (f.1, n.properties.bare.toJson) else f := by
  obtain ⟨id, type, globalId, name, description, properties, geometry⟩ := n
  cases globalId <;> cases name <;> cases description <;> cases geometry <;>
    simp [bare, fields, Json.textField, optionalField]

/-! ## Documents of two loads -/

namespace LoadedModel

variable {o o' : Options} {source source' content : String} {l l' : LoadedModel}

/-- Two loads of a content meet the same error, or read the same header. -/
theorem load_cases (o o' : Options) (source source' content : String) :
    (∃ e, load o source content = .error e ∧ load o' source' content = .error e) ∨
      ∃ header, load o source content =
          .ok (ofModel o source (.ofParts header (.ofContent content) o.properties)) ∧
        load o' source' content =
          .ok (ofModel o' source' (.ofParts header (.ofContent content) o'.properties)) := by
  obtain ⟨header, hload⟩ := Model.load_eq_map content
  rw [load, load, hload, hload]
  cases header with
  | error e => exact .inl ⟨e, rfl, rfl⟩
  | ok header => exact .inr ⟨header, rfl, rfl⟩

section

variable {α : Type} {view : Node → α} {header : Step.Header} {x : EntityIndex}

/-- Nodes of trees look like nodes of lists where geometry is not seen. -/
theorem agreeOn_treeNodes (l : LoadedModel) (h : ∀ n, view n.withoutGeometry = view n) :
    l.treeNodes.AgreeOn view l.nodes := by
  rw [treeNodes]
  split
  · exact ⟨rfl, rfl, fun _ => rfl⟩
  · exact ⟨rfl, rfl, fun e => (h _).symm.trans (h (l.nodes.node e))⟩

theorem project?_congr (h : l.nodes.AgreeOn view l'.nodes) :
    l.model.project? = l'.model.project? := by
  have hindex : l.model.index = l'.model.index := h.index
  rw [Model.project?, Model.project?, hindex]

theorem roots_congr (h : l.nodes.AgreeOn view l'.nodes) : l.roots = l'.roots := by
  have hindex : l.model.index = l'.model.index := h.index
  rw [roots, roots, project?_congr h, hindex]

/-- The project is the node of its instance. -/
theorem project?_eq (l : LoadedModel) : l.project? = l.model.project?.bind l.nodes.node? :=
  congrArg (Option.bind _) (funext NodeSource.convert_empty)

/-- Projects look alike if nodes do. -/
theorem map_project?_congr (h : l.nodes.AgreeOn view l'.nodes) :
    l.project?.map view = l'.project?.map view := by
  rw [project?_eq, project?_eq, project?_congr h, Option.map_bind, Option.map_bind]
  exact congrArg (Option.bind _) (funext h.map_node?)

/-- Documents look alike if their nodes do. -/
theorem document_congr (h : l.nodes.AgreeOn view l'.nodes) (hs : l.model.Named) :
    l.document.project.map view = l'.document.project.map view ∧
      l.document.entities.map view = l'.document.entities.map view := by
  refine ⟨map_project?_congr h, ?_⟩
  rw [document, document, roots_congr h]
  exact h.map_list hs l'.roots

/-- Trees look alike if the nodes of lists do, unless geometry is seen. -/
theorem hierarchy_congr (h : l.nodes.AgreeOn view l'.nodes)
    (hview : ∀ n, view n.withoutGeometry = view n) (hs : l.model.Named) :
    l.document.hierarchy.map (Tree.map view) = l'.document.hierarchy.map (Tree.map view) := by
  have htree : l.treeNodes.AgreeOn view l'.treeNodes :=
    ((agreeOn_treeNodes l hview).trans h).trans (agreeOn_treeNodes l' hview).symm
  rw [document, document, hierarchy?, hierarchy?, project?_congr h, Option.map_bind,
    Option.map_bind]
  exact congrArg (Option.bind _) (funext (htree.map_tree? (by rwa [treeNodes_model])))

variable (source source' : String) (header : Step.Header) (x : EntityIndex)

/-- Bare nodes are told by the instances. -/
theorem agreeOn_bare (o o' : Options) :
    (ofModel o source (.ofParts header x o.properties)).nodes.AgreeOn Node.bare
      (ofModel o' source' (.ofParts header x o'.properties)).nodes := by
  refine ⟨rfl, rfl, fun e => ?_⟩
  rw [Node.bare, Node.bare, NodeSource.node, NodeSource.node, PropertySheet.bare_propertySheet,
    PropertySheet.bare_propertySheet]

/-- The geometry of nodes is told by the instances and what the options say about geometry. -/
theorem agreeOn_geometry (hgeometry : o.geometry = o'.geometry)
    (hshared : o.sharedVertices = o'.sharedVertices)
    (hsegments : o.circleSegments = o'.circleSegments) :
    (ofModel o source (.ofParts header x o.properties)).nodes.AgreeOn Node.geometry
      (ofModel o' source' (.ofParts header x o'.properties)).nodes := by
  have hshapes : (ofModel o source (.ofParts header x o.properties)).shapes =
      (ofModel o' source' (.ofParts header x o'.properties)).shapes := by
    rw [shapes_ofModel, shapes_ofModel, kernel, kernel, hgeometry, hsegments,
      Geometry.shapes_congr _ (.ofParts header x o.properties)
        (.ofParts header x o'.properties) rfl rfl]
  refine ⟨rfl, rfl, fun e => ?_⟩
  change NodeSource.geometry? _ e.id = NodeSource.geometry? _ e.id
  rw [NodeSource.geometry?, NodeSource.geometry?, nodes, nodes, hshapes]
  exact congrArg (fun shared => Option.map (fragment shared) _) hshared

/-- The properties of nodes are told by the instances, if they are read. -/
theorem agreeOn_properties (hproperties : o.properties = o'.properties) :
    (ofModel o source (.ofParts header x o.properties)).nodes.AgreeOn Node.properties
      (ofModel o' source' (.ofParts header x o'.properties)).nodes := by
  refine ⟨rfl, rfl, fun e => ?_⟩
  change propertySheet (.ofParts header x o.properties) o.properties e =
    propertySheet (.ofParts header x o'.properties) o'.properties e
  rw [hproperties]

end

/-- Two loads of a content meet the same error, or both succeed. Then their documents are the same
but for the geometry of nodes and the properties that are only read on demand. The geometry of the
project and of the list is the same if the options agree about shapes, shared vertices and circles,
and all properties are the same if they agree about properties. -/
theorem document_agree (o o' : Options) (source source' content : String) :
    (∀ e, load o source content = .error e ↔ load o' source' content = .error e) ∧
      ∀ l l', load o source content = .ok l → load o' source' content = .ok l' →
        l.document.bare = l'.document.bare ∧
          (o.geometry = o'.geometry → o.sharedVertices = o'.sharedVertices →
            o.circleSegments = o'.circleSegments →
              l.document.project.map Node.geometry = l'.document.project.map Node.geometry ∧
              l.document.entities.map Node.geometry = l'.document.entities.map Node.geometry) ∧
          (o.properties = o'.properties →
            l.document.project.map Node.properties = l'.document.project.map Node.properties ∧
            l.document.entities.map Node.properties = l'.document.entities.map Node.properties ∧
            l.document.hierarchy.map (Tree.map Node.properties) =
              l'.document.hierarchy.map (Tree.map Node.properties)) := by
  rcases load_cases o o' source source' content with ⟨e, he, he'⟩ | ⟨header, hl, hl'⟩
  · rw [he, he']
    exact ⟨fun _ => Iff.rfl, fun l l' h => by cases h⟩
  rw [hl, hl']
  refine ⟨fun e => iff_of_false nofun nofun, fun l l' h h' => ?_⟩
  have hs : l.model.Named := Model.named_of_load (exists_of_load (hl.trans h)).1
  cases h
  cases h'
  have hbare := agreeOn_bare source source' header (.ofContent content) o o'
  refine ⟨?_, fun hgeometry hshared hsegments => ?_, fun hproperties => ?_⟩
  · obtain ⟨hproject, hentities⟩ := document_congr hbare hs
    have htree := hierarchy_congr hbare (fun _ => rfl) hs
    rw [ModelDocument.bare, ModelDocument.bare, hproject, hentities, htree]
    rfl
  · exact document_congr (agreeOn_geometry source source' header _ hgeometry hshared hsegments) hs
  · have hview := agreeOn_properties source source' header (.ofContent content) hproperties
    obtain ⟨hproject, hentities⟩ := document_congr hview hs
    exact ⟨hproject, hentities, hierarchy_congr hview (fun _ => rfl) hs⟩


/-- The wall, once with geometry only in lists and without properties, once without geometry. -/
theorem document_agree_triangleWall :
    ∃ l l₁ l₂ : LoadedModel,
      (load {} "" (file triangleWall) = .ok l ∧
        load { properties := false, hierarchyGeometry := false } "" (file triangleWall) = .ok l₁ ∧
        load { geometry := false, circleSegments := 8 } "" (file triangleWall) = .ok l₂) ∧
      l.document.bare = l₁.document.bare ∧ l.document.bare = l₂.document.bare ∧
      l.document.entities.map Node.geometry = l₁.document.entities.map Node.geometry ∧
      l.document.entities.map Node.properties = l₂.document.entities.map Node.properties := by
  have hl := load_triangleWall {} ""
  have hl₁ := load_triangleWall { properties := false, hierarchyGeometry := false } ""
  have hl₂ := load_triangleWall { geometry := false, circleSegments := 8 } ""
  obtain ⟨hbare₁, hgeometry, -⟩ :=
    (document_agree {} { properties := false, hierarchyGeometry := false } "" "" _).2 _ _ hl hl₁
  obtain ⟨hbare₂, -, hproperties⟩ :=
    (document_agree {} { geometry := false, circleSegments := 8 } "" "" _).2 _ _ hl hl₂
  exact ⟨_, _, _, ⟨hl, hl₁, hl₂⟩, hbare₁, hbare₂, (hgeometry rfl rfl rfl).2, (hproperties rfl).2.1⟩

end LoadedModel

end Document

end BuildingModel
