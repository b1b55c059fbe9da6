import BuildingModel.Geometry.Item
import BuildingModel.Model
import Std.Data.TreeMap

/-!
# Shapes of products

The shape of a product is where it stands and the meshes of the items of its body. Items that
cannot be processed are left out, and a product without any has no shape. Lengths are in metres.
-/

namespace BuildingModel.Geometry

/-- The meshes of one item of a shape. -/
structure ShapeItem where
  /-- The item. -/
  item : EntityId
  /-- The meshes, in sets. -/
  meshSets : List (List (Mesh Float))

/-- The shape of a product. -/
structure ProductShape where
  /-- The product. -/
  product : EntityId
  /-- The placement in the world. -/
  transform : Matrix 4
  /-- The items. -/
  items : List ShapeItem

/-- How many faces an item has. -/
def ShapeItem.faceCount (i : ShapeItem) : Nat :=
  i.meshSets.flatten.foldl (fun n m => n + m.faces.size) 0

/-- Whether a shape has no faces. -/
def ProductShape.isEmpty (s : ProductShape) : Bool :=
  s.items.all (·.faceCount == 0)

/-- Whether a representation of the name makes a body. -/
def isBodyName : Option String → Bool
  | some name => name == "Body" || name == "Facetation"
  | none => true

/-- The items of the body of a product. -/
def bodyItems (x : EntityIndex) (product : Entity) : List Entity :=
  match x.follow? product 6 with
  | none => []
  | some definition =>
    let shapes := (definition.references 2).filterMap x.get?
    ((shapes.filter fun shape => isBodyName (shape.text? 1)).flatMap (·.references 3)).filterMap
      x.get?

/-- The meshes of an item in metres, if it can be processed and has a face. -/
def shapeItem? (k : Kernel) (m : Model) (item : Entity) : Option ShapeItem :=
  match meshes k m.index item with
  | .error _ => none
  | .ok found =>
    let kept := found.filter (!·.isEmpty)
    if kept.isEmpty then none
    else some ⟨item.id, [kept.map (Mesh.map (·.scale m.lengthScale))]⟩

/-- The shape of a product, if it has a body. -/
def productShape? (k : Kernel) (m : Model) (id : EntityId) :
    Except GeometryError (Option ProductShape) := do
  let product ← entity m.index id
  let items := (bodyItems m.index product).filterMap (shapeItem? k m)
  if items.isEmpty then return none
  let transform ← match product.reference? 5 with
    | some p => placement m.index p
    | none => pure .identity
  return some ⟨id, transform.scaleOrigin m.lengthScale, items⟩

/-! ## The shapes of a model -/

/-- Shapes by the decimal numbers of their products. -/
structure ShapeIndex where
  /-- The shapes. -/
  shapes : Std.TreeMap String ProductShape compare := {}

namespace ShapeIndex

/-- The key of a product. -/
def key (id : EntityId) : String :=
  toString id.toNat

/-- The index with one more shape. -/
def insert (s : ShapeIndex) (shape : ProductShape) : ShapeIndex :=
  ⟨s.shapes.insert (key shape.product) shape⟩

/-- The shape of a key, which is matched as it is written. -/
def getKey? (s : ShapeIndex) (k : String) : Option ProductShape :=
  s.shapes.get? k

/-- The shape of a product. -/
def get? (s : ShapeIndex) (id : EntityId) : Option ProductShape :=
  s.getKey? (key id)

/-- How many shapes there are. -/
def size (s : ShapeIndex) : Nat :=
  s.shapes.size

end ShapeIndex

/-- The products of a model. -/
def products (m : Model) : List EntityId :=
  m.index.ids.filter fun id => ((m.index.typeOf? id).map EntityType.isProduct).getD false

/-- The shapes of the products of a model. A product whose placement fails has none. -/
def shapes (k : Kernel) (m : Model) : ShapeIndex :=
  ((products m).filterMap fun id => ((productShape? k m id).toOption).join).foldl
    ShapeIndex.insert {}

end BuildingModel.Geometry
