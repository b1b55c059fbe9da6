import BuildingModel.Document.Walk

/-!
# Documents

A document is a whole model: its project, the nodes of all its objects, the project as a tree, and
its header. The list of nodes starts with the project and what it reaches; the remaining objects
follow in ascending order, each with what it reaches.
-/

namespace BuildingModel.Document

open BuildingModel.Geometry

/-- How models are converted. -/
structure Options where
  /-- Whether shapes are computed. -/
  geometry : Bool := true
  /-- Whether properties are read. -/
  properties : Bool := true
  /-- Whether the nodes of the tree have geometry, too. -/
  hierarchyGeometry : Bool := true
  /-- Whether corners at one position share a vertex. -/
  sharedVertices : Bool := false
  /-- How many segments a circle has. -/
  circleSegments : Nat := 24
deriving DecidableEq, Repr

/-- A converted model. -/
structure ModelDocument where
  /-- The project. -/
  project : Option Node
  /-- The objects and what they reach. -/
  entities : List Node
  /-- The project with what it reaches, as a tree. -/
  hierarchy : Option (Tree Node)
  /-- What the header of the file tells. -/
  metadata : Step.Header

/-- A model that is ready to be converted. -/
structure LoadedModel where
  /-- What the model was loaded from. -/
  source : String
  /-- The model. -/
  model : Model
  /-- The shapes of its products, if they are computed. -/
  shapes : Option ShapeIndex
  /-- How it is converted. -/
  options : Options

namespace LoadedModel

/-- A model with its shapes. -/
def ofModel (options : Options) (source : String) (m : Model) : LoadedModel where
  source := source
  model := m
  shapes :=
    if options.geometry then
      some (Geometry.shapes (({} : Kernel).withSegments options.circleSegments) m)
    else none
  options := options

/-- The model of a content. -/
def load (options : Options) (source content : String) : Except LoadError LoadedModel :=
  (Model.load content options.properties).map (ofModel options source)

/-- How many instances the model has. -/
def entityCount (l : LoadedModel) : Nat :=
  l.model.index.size

/-- The source of the nodes of lists. -/
def nodes (l : LoadedModel) : NodeSource where
  model := l.model
  shapes := l.shapes
  sharedVertices := l.options.sharedVertices
  withProperties := l.options.properties

/-- The source of the nodes of trees. -/
def treeNodes (l : LoadedModel) : NodeSource :=
  if l.options.hierarchyGeometry then l.nodes else { l.nodes with shapes := none }

/-- The roots of the list of nodes: the project, and every other object. -/
def roots (l : LoadedModel) : List EntityId :=
  let objects := l.model.index.ids.filter fun id =>
    some id != l.model.project?
      && ((l.model.index.typeOf? id).map EntityType.isObject).getD false
  l.model.project?.toList ++ objects

/-- The node of the project. -/
def project? (l : LoadedModel) : Option Node :=
  l.model.project?.bind fun id => (l.nodes.convert {} id).1

/-- The project with what it reaches, as a tree. -/
def hierarchy? (l : LoadedModel) : Option (Tree Node) :=
  l.model.project?.bind l.treeNodes.tree?

/-- The document of the model. -/
def document (l : LoadedModel) : ModelDocument where
  project := l.project?
  entities := l.nodes.list l.roots
  hierarchy := l.hierarchy?
  metadata := l.model.header

/-! ## Queries -/

/-- The objects of a type that a reader names, in ascending order. Names of other types find
nothing. -/
def entitiesOf (l : LoadedModel) (name : String) : List Node :=
  let type := EntityType.ofLabel name
  if type.isKnown && type.isObject then (l.model.index.entitiesOf type).map l.nodes.node else []

/-- The geometry of a product by its key, which is matched as it is written. -/
def geometryOf? (l : LoadedModel) (key : String) : Option GeometryFragment :=
  (l.shapes.bind (·.getKey? key)).map (fragment l.options.sharedVertices)

/-- The object that an object is first attached to. -/
def containerOf? (l : LoadedModel) (id : EntityId) : Option Node :=
  (l.model.container? id).bind fun parent => (l.nodes.convert {} parent).1

end LoadedModel

end BuildingModel.Document
