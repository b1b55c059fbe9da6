import BuildingModel.Json.Basic
import Mathlib.Data.List.Nodup

/-!
# Fields of sorted values

Sorting an object whose keys are distinct moves its fields and sorts their values, and a key still
finds its field (`field?_sorted_of_mem`).
-/

namespace BuildingModel.Json

variable {key : String}

/-- Among fields with distinct keys, a key finds its field. -/
theorem lookup_of_mem {α : Type} {fields : List (String × α)}
    (hkeys : (fields.map (·.1)).Nodup) {v : α} (h : (key, v) ∈ fields) :
    fields.lookup key = some v := by
  rw [List.lookup_eq_some_iff]
  obtain ⟨before, after, rfl⟩ := List.append_of_mem h
  refine ⟨before, after, rfl, fun f hf => bne_iff_ne.2 fun heq => ?_⟩
  rw [List.map_append, List.map_cons] at hkeys
  exact List.disjoint_of_nodup_append hkeys (List.mem_map.2 ⟨f, hf, heq.symm⟩)
    List.mem_cons_self

theorem nodup_keys_sortFields {α : Type} (fields : List (String × α)) :
    ((sortFields fields).map (·.1)).Nodup := by
  rw [sortFields, Std.TreeMap.map_fst_toList_eq_keys]
  exact Std.TreeMap.nodup_keys

/-- Among fields with distinct keys, a key finds the field that has it and no other. -/
theorem lookup_eq_some_iff_mem {α : Type} {fields : List (String × α)}
    (hkeys : (fields.map (·.1)).Nodup) {v : α} :
    fields.lookup key = some v ↔ (key, v) ∈ fields := by
  refine ⟨fun h => ?_, lookup_of_mem hkeys⟩
  obtain ⟨before, after, rfl, -⟩ := List.lookup_eq_some_iff.1 h
  exact List.mem_append_right _ List.mem_cons_self

theorem isEmpty_sortFields {α : Type} (fields : List (String × α)) :
    (sortFields fields).isEmpty = fields.isEmpty := by
  rw [sortFields, Std.TreeMap.isEmpty_toList, Std.TreeMap.isEmpty_ofList]

/-- A key finds the same field when the values are changed. -/
theorem lookup_map {α β : Type} (f : α → β) (fields : List (String × α)) (key : String) :
    (fields.map fun (name, v) => (name, f v)).lookup key = (fields.lookup key).map f := by
  induction fields with
  | nil => rfl
  | cons field fields ih =>
    rw [List.map_cons, List.lookup_cons, List.lookup_cons, ih]
    cases key == field.1 <;> rfl

/-- A key finds the last of the fields that had it before they were sorted. -/
theorem lookup_sortFields {α : Type} (fields : List (String × α)) (key : String) :
    (sortFields fields).lookup key = (fields.reverse.find? (·.1 == key)).map Prod.snd := by
  have hmap : (Std.TreeMap.ofList fields compare)[key]? =
      (fields.reverse.find? (·.1 == key)).map Prod.snd := by
    rw [Std.TreeMap.ofList_eq_insertMany_empty, Std.TreeMap.getElem?_insertMany_list,
      Std.TreeMap.getElem?_emptyc, Option.or_none, List.findSomeRev?_eq_findSome?_reverse]
    induction fields.reverse with
    | nil => rfl
    | cons f fs ih =>
      by_cases hf : f.1 = key
      · simp [hf]
      · simpa [hf, Std.LawfulEqCmp.compare_eq_iff_eq] using ih
  rw [← hmap]
  refine Option.ext fun v => ?_
  rw [lookup_eq_some_iff_mem (nodup_keys_sortFields fields), sortFields,
    Std.TreeMap.mem_toList_iff_getElem?_eq_some]

theorem sortFields_singleton {α : Type} (f : String × α) : sortFields [f] = [f] := by
  rw [sortFields, Std.TreeMap.ofList_singleton]
  rfl

theorem mem_sortFields {α : Type} {fields : List (String × α)}
    (hkeys : (fields.map (·.1)).Nodup) {v : α} (h : (key, v) ∈ fields) :
    (key, v) ∈ sortFields fields := by
  rw [sortFields, Std.TreeMap.mem_toList_iff_getElem?_eq_some]
  refine Std.TreeMap.getElem?_ofList_of_mem Std.ReflCmp.compare_self ?_ h
  exact (List.pairwise_map.1 hkeys).imp fun hne heq => hne (Std.LawfulEqCmp.eq_of_compare heq)

theorem sortedFields_eq_map (fields : List (String × Json)) :
    sortedFields fields = fields.map fun f => (f.1, f.2.sorted) := by
  induction fields with
  | nil => rfl
  | cons f fs ih => rw [sortedFields, ih, List.map_cons]

/-- In a sorted object, the key of a field finds the field's value, sorted. -/
theorem field?_sorted_of_mem {fields : List (String × Json)} (hkeys : (fields.map (·.1)).Nodup)
    {v : Json} (h : (key, v) ∈ fields) : (object fields).sorted.field? key = some v.sorted := by
  rw [sorted, field?, sortedFields_eq_map]
  refine lookup_of_mem (nodup_keys_sortFields _) (mem_sortFields ?_ ?_)
  · rwa [List.map_map]
  · exact List.mem_map.2 ⟨_, h, rfl⟩

end BuildingModel.Json
