import BuildingModel.Proofs.Model.Load
import BuildingModel.Proofs.Step.Definition

/-!
# Loading written files

A file of definitions under different instance names loads, and the model has exactly the
definitions of the file (`load_file`): under every name of a definition the entity it defines,
under every other name nothing, and the names of the file and of each type in ascending order. The
texts of the definitions may hold whatever has a meaning outside of literals: semicolons, number
signs, apostrophes, backslashes and the words that open and close sections.
-/

namespace BuildingModel.Model

open Step

/-! ## The frame -/

theorem hasSignature_file (ds : List Definition) : hasSignature (file ds) = true := by
  rw [hasSignature, toList_file]
  rfl

theorem hasData_file (ds : List Definition) : hasData (file ds) = true := by
  rw [hasData, toList_file]
  rfl

/-- The header section of the frame holds one statement. -/
theorem splitStatements_file (ds : List Definition) :
    ∃ r, Text.afterFirst? Header.sectionStart (file ds).toList = some r ∧
      splitStatements false [] (Text.beforeFirst Header.sectionEnd [] r) =
        ["\nFILE_SCHEMA(('IFC4'));".toList] := by
  rw [toList_file]
  exact ⟨_, rfl, rfl⟩

theorem header_file (ds : List Definition) :
    Header.ofContent (file ds) = { schemaVersion := "IFC4" } := by
  obtain ⟨r, hr, hs⟩ := splitStatements_file ds
  rw [Header.ofContent, hr]
  simp only [hs]
  decide +kernel

theorem supports_ifc4 : supports "IFC4" = true := by decide +kernel

/-- A file of definitions loads. -/
theorem load_file_eq (ds : List Definition) (withProperties : Bool) :
    load (file ds) withProperties =
      .ok (ofParts { schemaVersion := "IFC4" } (.ofContent (file ds)) withProperties) := by
  rw [load, hasSignature_file, hasData_file, header_file]
  simp only [supports_ifc4, Bool.not_true, Bool.false_eq_true, if_false, if_true]

/-! ## The index -/

section

variable {ds : List Definition}

theorem map_id_file (ds : List Definition) :
    (Statement.ofContent (file ds)).map (·.id) = ds.map (·.id) := by
  have h := congrArg (List.map Prod.fst) (Statement.ofContent_file ds)
  rwa [List.map_map, List.map_map] at h

/-- Every definition of a file has a statement there, with its name, its tag and its text. -/
theorem exists_mem_ofContent_file {d : Definition} (hd : d ∈ ds) :
    ∃ s ∈ Statement.ofContent (file ds),
      s.id = d.id ∧ IndexEntry.ofStatement s = ⟨s.start, s.stop, d.type, some d.entity⟩ := by
  have hmem := List.mem_map_of_mem (f := fun d : Definition =>
    (d.id, String.ofList d.tag.chars, d.statement)) hd
  rw [← Statement.ofContent_file, List.mem_map] at hmem
  obtain ⟨s, hs, heq⟩ := hmem
  obtain ⟨hid, htag, htext⟩ : s.id = d.id ∧ s.tag = String.ofList d.tag.chars ∧
      s.text = d.statement := by simpa using heq
  refine ⟨s, hs, hid, ?_⟩
  rw [IndexEntry.ofStatement, htag, htext, d.parse_statement]
  rfl

/-- The index of a file has every definition under its name. -/
theorem entry?_file (h : (ds.map (·.id)).Nodup) {d : Definition} (hd : d ∈ ds) :
    ∃ start stop, EntityIndex.entry? (EntityIndex.ofContent (file ds)) d.id =
      some ⟨start, stop, d.type, some d.entity⟩ := by
  obtain ⟨s, hs, hid, hentry⟩ := exists_mem_ofContent_file hd
  refine ⟨s.start, s.stop, ?_⟩
  rw [EntityIndex.ofContent, ← hid, EntityIndex.entry?_of_mem (by rwa [map_id_file]) hs, hentry]

/-- Under the name of a definition there is the entity it defines. -/
theorem get?_file (h : (ds.map (·.id)).Nodup) {d : Definition} (hd : d ∈ ds) :
    (EntityIndex.ofContent (file ds)).get? d.id = some d.entity := by
  obtain ⟨start, stop, hentry⟩ := entry?_file h hd
  rw [EntityIndex.get?, hentry, Option.bind_some]

/-- The type of a definition is indexed under its name. -/
theorem typeOf?_file (h : (ds.map (·.id)).Nodup) {d : Definition} (hd : d ∈ ds) :
    (EntityIndex.ofContent (file ds)).typeOf? d.id = some d.type := by
  obtain ⟨start, stop, hentry⟩ := entry?_file h hd
  rw [EntityIndex.typeOf?, hentry, Option.map_some]

/-- Under a name there is the entity that the last definition under the name defines. -/
theorem get?_file_eq (ds : List Definition) (id : EntityId) :
    (EntityIndex.ofContent (file ds)).get? id =
      (ds.reverse.find? (·.id == id)).map Definition.entity := by
  let key (p : EntityId × String × List Char) : Bool := p.1 == id
  let parsed (p : EntityId × String × List Char) : Option Entity := (Entity.parse p.2.2).toOption
  have hfound := congrArg (fun l => (l.reverse.find? key).bind parsed) (Statement.ofContent_file ds)
  simp only [← List.map_reverse, List.find?_map, Option.bind_map] at hfound
  rw [EntityIndex.get?, EntityIndex.ofContent, EntityIndex.entry?_ofStatements, Option.bind_map]
  refine hfound.trans ?_
  have hparsed : (parsed ∘ fun d : Definition => (d.id, String.ofList d.tag.chars, d.statement)) =
      some ∘ Definition.entity := by
    funext d
    simp [parsed, d.parse_statement, Except.toOption]
  rw [hparsed, ← Option.map_eq_bind]
  rfl

theorem entry?_file_eq_none {id : EntityId} :
    EntityIndex.entry? (EntityIndex.ofContent (file ds)) id = none ↔ ∀ d ∈ ds, d.id ≠ id := by
  have h : (∀ i ∈ (Statement.ofContent (file ds)).map (·.id), i ≠ id) ↔
      ∀ i ∈ ds.map (·.id), i ≠ id := by rw [map_id_file]
  simpa [EntityIndex.ofContent, EntityIndex.entry?_eq_none_iff] using h

/-- The model of a file has an entity under the names of its definitions. -/
theorem resolves_iff_of_load_file (h : (ds.map (·.id)).Nodup) {withProperties : Bool} {m : Model}
    (hm : load (file ds) withProperties = .ok m) {id : EntityId} :
    m.Resolves id ↔ ∃ d ∈ ds, d.id = id := by
  obtain ⟨header, rfl⟩ := exists_of_load hm
  rw [Resolves, get?, EntityIndex.get?, ofParts]
  constructor
  · intro hid
    by_contra hnone
    rw [entry?_file_eq_none.2 fun d hd he => hnone ⟨d, hd, he⟩] at hid
    cases hid
  · rintro ⟨d, hd, rfl⟩
    obtain ⟨start, stop, hentry⟩ := entry?_file h hd
    rw [hentry]
    rfl

theorem mem_ids_file {id : EntityId} :
    id ∈ (EntityIndex.ofContent (file ds)).ids ↔ ∃ d ∈ ds, d.id = id := by
  rw [EntityIndex.mem_ids, ← not_iff_not, Bool.not_eq_true, Option.isSome_eq_false_iff,
    Option.isNone_iff_eq_none, entry?_file_eq_none]
  simp

/-- A type has the names that are defined with it. -/
theorem mem_idsOf_file_iff_mem_map {t : EntityType} {id : EntityId} :
    id ∈ (EntityIndex.ofContent (file ds)).idsOf t ↔
      (id, t) ∈ ds.map fun d => (d.id, d.type) := by
  have h := congrArg (List.map fun p : EntityId × String × List Char =>
    (p.1, EntityType.ofTag p.2.1)) (Statement.ofContent_file ds)
  rw [List.map_map, List.map_map] at h
  have hwritten : (EntityIndex.ofContent (file ds)).written = ds.map fun d => (d.id, d.type) := h
  rw [EntityIndex.mem_idsOf, hwritten]

theorem mem_idsOf_file {t : EntityType} {id : EntityId} :
    id ∈ (EntityIndex.ofContent (file ds)).idsOf t ↔ ∃ d ∈ ds, d.id = id ∧ d.type = t := by
  rw [mem_idsOf_file_iff_mem_map, List.mem_map]
  simp only [Prod.mk.injEq]

/-- A type has what definitions of the type define. -/
theorem mem_entitiesOf_file (h : (ds.map (·.id)).Nodup) {t : EntityType} {e : Entity} :
    e ∈ (EntityIndex.ofContent (file ds)).entitiesOf t ↔ ∃ d ∈ ds, d.type = t ∧ d.entity = e := by
  rw [EntityIndex.entitiesOf, List.mem_filterMap]
  constructor
  · rintro ⟨id, hid, he⟩
    obtain ⟨d, hd, rfl, rfl⟩ := mem_idsOf_file.1 hid
    rw [get?_file h hd] at he
    exact ⟨d, hd, rfl, Option.some.inj he⟩
  · rintro ⟨d, hd, rfl, rfl⟩
    exact ⟨d.id, mem_idsOf_file.2 ⟨d, hd, rfl, rfl⟩, get?_file h hd⟩

end

/-! ## Whole files -/

/-- A file of definitions loads, and the model has exactly what they define. -/
theorem load_file (ds : List Definition) (h : (ds.map (·.id)).Nodup) (withProperties : Bool) :
    ∃ m, load (file ds) withProperties = .ok m ∧
      (m.index.ids.Pairwise (· < ·) ∧ ∀ id, id ∈ m.index.ids ↔ ∃ d ∈ ds, d.id = id) ∧
      (∀ d ∈ ds, m.get? d.id = some ⟨d.id, d.type, d.attributes.map Attribute.value⟩ ∧
        m.index.typeOf? d.id = some d.type) ∧
      (∀ id, (∀ d ∈ ds, d.id ≠ id) → m.get? id = none ∧ m.index.typeOf? id = none) ∧
      ∀ t, (m.index.idsOf t).Pairwise (· < ·) ∧
        ∀ id, id ∈ m.index.idsOf t ↔ ∃ d ∈ ds, d.id = id ∧ d.type = t := by
  refine ⟨_, load_file_eq ds withProperties, ⟨EntityIndex.ids_pairwise _, fun _ => mem_ids_file⟩,
    fun d hd => ?_, fun id hid => ?_,
    fun t => ⟨EntityIndex.idsOf_pairwise _ t, fun _ => mem_idsOf_file⟩⟩
  · obtain ⟨start, stop, hentry⟩ := entry?_file h hd
    rw [get?, EntityIndex.get?, EntityIndex.typeOf?, ofParts, hentry]
    exact ⟨rfl, rfl⟩
  · have hentry := entry?_file_eq_none.2 hid
    rw [get?, EntityIndex.get?, EntityIndex.typeOf?, ofParts, hentry]
    exact ⟨rfl, rfl⟩

/-- A file of one definition loads. -/
theorem exists_load_singleton (d : Definition) :
    ∃ m, load (file [d]) = .ok m ∧ m.index = .ofContent (file [d]) ∧
      ∀ id, m.Resolves id ↔ id = d.id := by
  have h : ([d].map (·.id)).Nodup := List.nodup_singleton _
  refine ⟨_, load_file_eq _ _, rfl, fun id => ?_⟩
  rw [resolves_iff_of_load_file h (load_file_eq _ _)]
  simp [eq_comm]

/-- A wall whose name reads like another wall and the end of the file. -/
def quotedWall : Definition where
  id := 4294967295
  tag := ⟨"IFCWALL".toList, by decide, List.all_eq_true.1 (by decide)⟩
  attributes :=
    [.text "it's;\n#1=IFCWALL();DATA;ENDSEC;\\X\\E9", .derived,
     .list [.integer Int64.minValue, .list [], .reference 1],
     .typed ⟨⟨"IFCLABEL".toList, by decide, List.all_eq_true.1 (by decide)⟩, by rintro c ⟨⟩; decide⟩
       [.text "'", .null]]

/-- A storey with a smaller name than the wall. -/
def elementStorey : Definition where
  id := 1
  tag := ⟨"IfcBuildingStorey".toList, by decide, List.all_eq_true.1 (by decide)⟩
  attributes := [.enumeration ⟨"ELEMENT".toList, by decide, List.all_eq_true.1 (by decide)⟩]

theorem load_file_quotedWall :
    ([quotedWall, elementStorey].map (·.id)).Nodup ∧
      ∃ m, load (file [quotedWall, elementStorey]) = .ok m ∧
        (m.get? 4294967295).map Entity.attributes = some
          [.text "it's;\n#1=IFCWALL();DATA;ENDSEC;\\X\\E9", .derived,
           .list [.integer (-9223372036854775808), .list [], .reference 1],
           .typed "IFCLABEL" [.text "'", .null]] ∧
        m.index.typeOf? 1 = some (.ofTag "IfcBuildingStorey") ∧ m.get? 2 = none := by
  have hids : ([quotedWall, elementStorey].map (·.id)).Nodup := by decide
  obtain ⟨m, hm, -, hget, hnone, -⟩ := load_file [quotedWall, elementStorey] hids true
  have hwall := (hget quotedWall (.head _)).1
  have hstorey := (hget elementStorey (.tail _ (.head _))).2
  refine ⟨hids, m, hm, ?_, hstorey, (hnone 2 (by simp [quotedWall, elementStorey])).1⟩
  rw [show (4294967295 : EntityId) = quotedWall.id from rfl, hwall]
  rfl

end BuildingModel.Model
