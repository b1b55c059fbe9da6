import BuildingModel.Proofs.Text.Run
import BuildingModel.Schema.EntityType
import Mathlib.Data.List.Nodup

/-!
# Names of classes

The labels of the table differ by more than the case of their letters, so the class of a tag is
found wherever it stands in the table (`ofTag?_eq_some`). Names are tags of their class
(`ofTag_name`), labels are read back as their class (`ofLabel_label`), and no type but a class has
its name (`name_ofTag_eq_iff`).
-/

namespace BuildingModel

namespace EntityClass

/-- No two labels are equal but for the case of their letters. They consist of letters, digits and
underscores of ASCII, and none starts with the name of the schema. -/
theorem labels_of_table :
    (all.map fun c => c.label.toList.map Char.toUpper).Nodup ∧
      (all.all fun c => c.label.toList.all Text.isTagChar &&
        EntityType.withoutSchemaName c.label.toList == c.label.toList) = true := by
  decide +kernel

/-- A label is plain and does not start with the name of the schema. -/
theorem label_spec (c : EntityClass) : (∀ a ∈ c.label.toList, Text.isTagChar a = true) ∧
    EntityType.withoutSchemaName c.label.toList = c.label.toList := by
  simpa using List.all_eq_true.1 labels_of_table.2 c (mem_all c)

/-- Names consist of letters, digits and underscores of ASCII, as labels do. -/
theorem isTagChar_of_mem_name {c : EntityClass} {a : Char} (h : a ∈ c.name.toList) :
    Text.isTagChar a = true := by
  rw [name, String.toList_append, List.mem_append] at h
  rcases h with h | h
  · exact List.all_eq_true.1 (by decide : "Ifc".toList.all Text.isTagChar = true) a h
  · exact (label_spec c).1 a h

theorem name_ne_nil (c : EntityClass) : c.name.toList ≠ [] := by
  rw [name, String.toList_append]
  exact List.cons_ne_nil _ _

theorem eq_of_toUpper_label {a b : EntityClass}
    (h : a.label.toList.map Char.toUpper = b.label.toList.map Char.toUpper) : a = b :=
  List.inj_on_of_nodup_map labels_of_table.1 (mem_all a) (mem_all b) h

theorem toList_tag (c : EntityClass) :
    c.tag.toList = 'I' :: 'F' :: 'C' :: c.label.toList.map Char.toUpper := by
  rw [tag, String.toList_append, String.toUpper, String.toList_map]
  rfl

theorem tag_injective : Function.Injective tag := fun a b h => by
  have hlist := congrArg String.toList h
  rw [toList_tag, toList_tag] at hlist
  simp only [List.cons.injEq, true_and] at hlist
  exact eq_of_toUpper_label hlist

theorem name_injective : Function.Injective name := fun a b h => by
  have hlist := congrArg String.toList h
  rw [name, name, String.toList_append, String.toList_append, List.append_cancel_left_eq] at hlist
  exact eq_of_toUpper_label (congrArg _ hlist)

/-- The class of a tag, in letters of either case. -/
theorem ofTag?_eq_some {c : EntityClass} {tag : String} (h : tag.toUpper = c.tag) :
    ofTag? tag = some c := by
  obtain ⟨front, rest, hall, hfront⟩ := List.eq_append_cons_of_mem (mem_all c)
  rw [ofTag?, byTag, h, List.lookup_eq_some_iff]
  refine ⟨front.map fun c => (c.tag, c), rest.map fun c => (c.tag, c), by rw [hall]; simp, ?_⟩
  -- The classes before this one are others, so they have other tags.
  intro p hp
  obtain ⟨d, hd, rfl⟩ := List.mem_map.1 hp
  exact bne_iff_ne.2 fun htag => hfront (tag_injective htag ▸ hd)

theorem ofTag?_eq_some_iff {c : EntityClass} {tag : String} :
    ofTag? tag = some c ↔ tag.toUpper = c.tag := by
  refine ⟨fun h => ?_, ofTag?_eq_some⟩
  obtain ⟨front, rest, htable, -⟩ := List.lookup_eq_some_iff.1 h
  obtain ⟨d, -, hd⟩ := List.mem_map.1 (htable ▸ List.mem_append_right front List.mem_cons_self)
  rw [Prod.mk.injEq] at hd
  rw [← hd.1, hd.2]

theorem ofTag?_append_label {front : String} (h : front.toUpper = "IFC") (c : EntityClass) :
    ofTag? (front ++ c.label) = some c := by
  refine ofTag?_eq_some (String.toList_inj.1 ?_)
  rw [String.toUpper, String.toList_map, String.toList_append, List.map_append, toList_tag,
    ← String.toList_map, ← String.toUpper, h]
  rfl

end EntityClass

namespace EntityType

/-- The name of a class is a tag of it. -/
theorem ofTag_name (c : EntityClass) : ofTag c.name = .known c := by
  rw [ofTag, EntityClass.name, EntityClass.ofTag?_append_label (by decide +kernel) c]

/-- The label of a class names it. -/
theorem ofLabel_label (c : EntityClass) : ofLabel c.label = .known c := by
  obtain ⟨hplain, hname⟩ := EntityClass.label_spec c
  have hblank (a : Char) (ha : a ∈ c.label.toList) : Text.isBlank a = false :=
    Text.isBlank_of_isTagChar (hplain a ha)
  simp only [ofLabel, Text.trim_eq_self hblank, hname, String.ofList_toList]
  rw [EntityClass.ofTag?_append_label (by decide +kernel) c]

/-- No tag of another type has the name of a class. -/
theorem name_ofTag_eq_iff {tag : String} {c : EntityClass} :
    (ofTag tag).name = c.name ↔ ofTag tag = .known c := by
  refine ⟨fun h => ?_, fun h => by rw [h]; rfl⟩
  cases hc : EntityClass.ofTag? tag with
  | some d =>
    have htag : ofTag tag = .known d := by rw [ofTag, hc]
    rw [htag] at h ⊢
    rw [EntityClass.name_injective h]
  | none =>
    have htag : ofTag tag = .unknown tag := by rw [ofTag, hc]
    rw [htag] at h
    rw [show tag = c.name from h, ofTag_name]

end EntityType

end BuildingModel
