import BuildingModel.Geometry.Shape
import BuildingModel.Proofs.Geometry.Item
import BuildingModel.Proofs.Model.Index

/-!
# Shapes of products

Every item of the shape of a product has well-formed meshes, and a face (`of_productShape?`). The
shapes of a model are told by its instances and its unit of length (`shapes_congr`), and found under
the decimal numbers of their products (`getKey?_shapes_iff`).
-/

namespace BuildingModel.Geometry

/-! ## Shapes -/

/-- The meshes of an item of a shape are well-formed, and one of them has a face. -/
structure ShapeItem.WellFormed (i : ShapeItem) : Prop where
  /-- The meshes are well-formed. -/
  mesh : ∀ m ∈ i.meshSets.flatten, m.WellFormed
  /-- One of them has a face. -/
  face : ∃ m ∈ i.meshSets.flatten, m.isEmpty = false

theorem wellFormed_of_shapeItem? {k : Kernel} {m : Model} {item : Entity} {i : ShapeItem}
    (h : shapeItem? k m item = some i) : i.WellFormed := by
  rw [shapeItem?] at h
  split at h
  · cases h
  next found hfound =>
    simp only at h
    split at h
    · cases h
    next hkept =>
      obtain rfl := Option.some.inj h
      have hmeshes := wellFormed_of_meshesWithin hfound
      constructor
      case mesh =>
        intro g hg
        rw [List.flatten_singleton] at hg
        obtain ⟨g', hg', rfl⟩ := List.mem_map.1 hg
        exact (hmeshes g' (List.mem_of_mem_filter hg')).map _
      case face =>
        obtain ⟨g, hg⟩ := List.exists_mem_of_ne_nil _ (mt List.isEmpty_iff.2 hkept)
        refine ⟨_, by rw [List.flatten_singleton]; exact List.mem_map_of_mem hg, ?_⟩
        simpa [Mesh.map, Mesh.isEmpty] using (List.mem_filter.1 hg).2

/-- The shape of a product is that of the product, and has items, all of them well-formed. -/
theorem of_productShape? {k : Kernel} {m : Model} {id : EntityId} {s : ProductShape}
    (h : productShape? k m id = .ok (some s)) :
    s.product = id ∧ s.items ≠ [] ∧ ∀ i ∈ s.items, i.WellFormed := by
  rw [productShape?] at h
  obtain ⟨product, -, h⟩ := exists_of_bind_eq_ok h
  simp only at h
  split at h
  · cases h
  next hitems =>
    -- The placement is computed or the identity; the items are the same.
    obtain ⟨t, rfl⟩ : ∃ t, s = ⟨id, t, (bodyItems m.index product).filterMap (shapeItem? k m)⟩ := by
      split at h
      · obtain ⟨t, -, h⟩ := exists_of_bind_eq_ok h
        exact ⟨_, (Option.some.inj (Except.ok.inj h)).symm⟩
      · exact ⟨_, (Option.some.inj (Except.ok.inj h)).symm⟩
    refine ⟨rfl, mt List.isEmpty_iff.2 hitems, fun i hi => ?_⟩
    obtain ⟨item, -, hitem⟩ := List.mem_filterMap.1 hi
    exact wellFormed_of_shapeItem? hitem

/-! ## The shapes of a model -/

/-- Shapes are told by the instances and the unit of length. -/
theorem shapes_congr (k : Kernel) (m m' : Model) (hindex : m.index = m'.index)
    (hscale : m.lengthScale = m'.lengthScale) : shapes k m = shapes k m' := by
  have hitem : shapeItem? k m = shapeItem? k m' := by
    funext item
    rw [shapeItem?, shapeItem?, hindex, hscale]
  have hshape : productShape? k m = productShape? k m' := by
    funext id
    rw [productShape?, productShape?, hitem, hindex, hscale]
  rw [shapes, shapes, hshape, products, products, hindex]

/-- A product: an instance whose indexed type is one of products. -/
def IsProduct (m : Model) (id : EntityId) : Prop :=
  ∃ t, m.index.typeOf? id = some t ∧ t.isProduct

theorem mem_products {m : Model} {id : EntityId} : id ∈ products m ↔ IsProduct m id := by
  rw [products, List.mem_filter, EntityIndex.getD_map_typeOf?]
  exact and_iff_right_of_imp fun ⟨_, ht, _⟩ => EntityIndex.mem_ids_of_typeOf? ht

namespace ShapeIndex

/-- Products have different keys. -/
theorem key_injective : Function.Injective key := fun a b h => by
  have hdigits : Nat.toDigits 10 a.toNat = Nat.toDigits 10 b.toNat := by
    simpa [key] using congrArg String.toList h
  rw [← UInt32.toNat_inj, ← Nat.ofDigitChars_ten_toDigits (n := a.toNat), hdigits,
    Nat.ofDigitChars_ten_toDigits]

/-- In an index of shapes, a key has the last shape of a product with the key. -/
theorem getKey?_foldl_insert (ss : List ProductShape) (k : String) :
    (ss.foldl insert {}).getKey? k = ss.reverse.find? (key ·.product == k) := by
  have hshapes : (ss.foldl insert {}).shapes =
      ss.foldl (fun m s => m.insert (key s.product) s) {} :=
    (List.foldl_hom ShapeIndex.shapes fun _ _ => rfl).symm
  have h := EntityIndex.getElem?_foldl_insert (fun s : ProductShape => key s.product) (fun s => s)
    ss {} k
  rw [Std.TreeMap.getElem?_emptyc, Option.or_none, Option.map_id'] at h
  rw [getKey?, Std.TreeMap.get?_eq_getElem?, hshapes]
  exact h

end ShapeIndex

theorem join_toOption_eq_some {ε α : Type} {e : Except ε (Option α)} {a : α} :
    e.toOption.join = some a ↔ e = .ok (some a) := by
  rcases e with e | (_ | b) <;> simp [Except.toOption]

/-- Under a key there is the shape of the product whose number the key is. -/
theorem getKey?_shapes_iff {k : Kernel} {m : Model} {key : String} {s : ProductShape} :
    (shapes k m).getKey? key = some s ↔
      ∃ id, IsProduct m id ∧ key = toString id.toNat ∧ productShape? k m id = .ok (some s) := by
  have hmem (s : ProductShape) :
      s ∈ (products m).filterMap (fun id => ((productShape? k m id).toOption).join) ↔
        IsProduct m s.product ∧ productShape? k m s.product = .ok (some s) := by
    rw [List.mem_filterMap]
    constructor
    · rintro ⟨id, hid, hs⟩
      rw [join_toOption_eq_some] at hs
      rw [(of_productShape? hs).1]
      exact ⟨mem_products.1 hid, hs⟩
    · rintro ⟨hid, hs⟩
      exact ⟨s.product, mem_products.2 hid, join_toOption_eq_some.2 hs⟩
  rw [shapes, ShapeIndex.getKey?_foldl_insert]
  constructor
  · intro h
    obtain ⟨hid, hs⟩ := (hmem s).1 (List.mem_reverse.1 (List.mem_of_find?_eq_some h))
    have hkey : ShapeIndex.key s.product = key := by simpa using List.find?_some h
    exact ⟨s.product, hid, hkey.symm, hs⟩
  · rintro ⟨id, hid, rfl, hs⟩
    obtain ⟨rfl, -⟩ := of_productShape? hs
    -- What is found has the key of the product, so it is a shape of the same product.
    obtain ⟨t, ht⟩ : ∃ t, List.find? (ShapeIndex.key ·.product == ShapeIndex.key s.product)
        ((products m).filterMap fun id => ((productShape? k m id).toOption).join).reverse = some t :=
      Option.isSome_iff_exists.1 (List.find?_isSome.2
        ⟨s, List.mem_reverse.2 ((hmem s).2 ⟨hid, hs⟩), beq_self_eq_true _⟩)
    have hproduct : t.product = s.product :=
      ShapeIndex.key_injective (by simpa using List.find?_some ht)
    have hshape := ((hmem t).1 (List.mem_reverse.1 (List.mem_of_find?_eq_some ht))).2
    rw [hproduct, hs] at hshape
    obtain rfl : s = t := Option.some.inj (Except.ok.inj hshape)
    exact ht

end BuildingModel.Geometry
