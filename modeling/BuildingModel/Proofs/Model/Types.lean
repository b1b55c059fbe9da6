import BuildingModel.Proofs.Model.Redefinition
import BuildingModel.Proofs.Schema.Names
import BuildingModel.Proofs.Step.Definition
import BuildingModel.Proofs.Step.Keyword

/-!
# Types of entities

The index takes the type of a name from the tag of its statement, an entity has the type of its
keyword. Where keywords have no characters that tags have not, the two are one (`typeOf?_of_get?`).
Where no name is defined again under another type, a type has exactly the names that are of the
type (`mem_idsOf_iff_typeOf?`). So a type has exactly the entities of the type
(`mem_entitiesOf_iff`).
-/

namespace BuildingModel.EntityIndex

open Step

/-- The keywords of a content consist of letters, digits and underscores of ASCII. -/
def PlainKeywords (content : String) : Prop :=
  ∀ s ∈ Statement.ofContent content, ∀ i, Instance.parse s.text = .ok i →
    ∀ c ∈ i.record.keyword.toList, Text.isTagChar c = true

/-- The statements under a name are of one type. -/
def OneType (content : String) : Prop :=
  ∀ s ∈ Statement.ofContent content, ∀ s' ∈ Statement.ofContent content,
    s.id = s'.id → s.type = s'.type

variable {content : String} {id : EntityId} {t : EntityType}

/-- Names that are not defined again have one type. -/
theorem oneType_of_nodup (hids : ((Statement.ofContent content).map (·.id)).Nodup) :
    OneType content := fun _ hs _ hs' hid =>
  congrArg Statement.type (List.inj_on_of_nodup_map hids hs hs' hid)

/-- An entity with the name of a class is one of the class. -/
theorem name_type_eq_iff {e : Entity} (h : (ofContent content).get? id = some e)
    {c : EntityClass} : e.type.name = c.name ↔ e.type = .known c := by
  obtain ⟨-, -, -, -, i, -, rfl⟩ := exists_statement_of_get? h
  exact EntityType.name_ofTag_eq_iff

/-- The type of a name is that of its entity. -/
theorem typeOf?_of_get? (hplain : PlainKeywords content) {e : Entity}
    (h : (ofContent content).get? id = some e) : (ofContent content).typeOf? id = some e.type := by
  obtain ⟨s, hs, -, hentry, i, hi, rfl⟩ := exists_statement_of_get? h
  rw [typeOf?, hentry, Option.map_some, IndexEntry.ofStatement, Entity.ofInstance,
    Statement.keyword_eq_tag hs hi (hplain s hs i hi)]

/-- A type has the names that are of the type. -/
theorem mem_idsOf_iff_typeOf? (htypes : OneType content) :
    id ∈ (ofContent content).idsOf t ↔ (ofContent content).typeOf? id = some t := by
  refine ⟨fun h => ?_, fun h => mem_idsOf_ofStatements.2 (exists_mem_of_typeOf? h)⟩
  obtain ⟨s, hs, rfl, rfl⟩ := mem_idsOf_ofStatements.1 h
  -- The statement that counts is of the type of the one that was listed.
  obtain ⟨t, ht⟩ := exists_typeOf?_of_mem hs
  obtain ⟨last, hlast, hid, rfl⟩ := exists_mem_of_typeOf? ht
  rwa [htypes s hs last hlast hid.symm]

/-- A type has the entities that are of the type. -/
theorem mem_entitiesOf_iff (htypes : OneType content)
    (hplain : PlainKeywords content) {e : Entity} :
    e ∈ (ofContent content).entitiesOf t ↔
      (ofContent content).get? e.id = some e ∧ e.type = t := by
  rw [entitiesOf, List.mem_filterMap]
  constructor
  · rintro ⟨id, hid, he⟩
    have htype := typeOf?_of_get? hplain he
    rw [(mem_idsOf_iff_typeOf? htypes).1 hid] at htype
    rw [id_of_get?_ofContent he]
    exact ⟨he, (Option.some.inj htype).symm⟩
  · rintro ⟨he, rfl⟩
    exact ⟨e.id, (mem_idsOf_iff_typeOf? htypes).2 (typeOf?_of_get? hplain he), he⟩

/-- The entities of a type are in ascending order of their names. -/
theorem entitiesOf_pairwise : ((ofContent content).entitiesOf t).Pairwise (·.id < ·.id) := by
  rw [entitiesOf, List.pairwise_filterMap]
  refine (idsOf_pairwise _ t).imp fun hlt e he e' he' => ?_
  rwa [id_of_get?_ofContent he, id_of_get?_ofContent he']

/-- A definition whose tag is the name of a class is of the class. -/
theorem type_eq_known {d : Definition} {c : EntityClass} (h : d.tag.chars = c.name.toList) :
    d.type = .known c := by
  rw [Definition.type, h, String.ofList_toList, EntityType.ofTag_name]

/-- Definitions have plain keywords. -/
theorem plainKeywords_file (ds : List Definition) : PlainKeywords (file ds) := by
  intro s hs i hi
  have hmem := List.mem_map_of_mem (f := fun s : Statement => (s.id, s.tag, s.text)) hs
  rw [Statement.ofContent_file, List.mem_map] at hmem
  obtain ⟨d, -, heq⟩ := hmem
  obtain ⟨-, -, htext⟩ : d.id = s.id ∧ String.ofList d.tag.chars = s.tag ∧ d.statement = s.text := by
    simpa using heq
  obtain ⟨ps, hps, -⟩ := d.parse_instance
  rw [← htext, hps] at hi
  obtain rfl := Except.ok.inj hi
  rw [String.toList_ofList]
  exact d.tag.isTagChar

end BuildingModel.EntityIndex

namespace BuildingModel.Step.Definition

/-- The definition of an instance of a class. -/
def ofClass (id : EntityId) (c : EntityClass) (attributes : List Attribute) : Definition where
  id := id
  tag := ⟨c.name.toList, c.name_ne_nil, fun _ => EntityClass.isTagChar_of_mem_name⟩
  attributes := attributes

section

variable (id : EntityId) (c : EntityClass) (attributes : List Attribute)

@[simp]
theorem id_ofClass : (ofClass id c attributes).id = id := rfl

@[simp]
theorem type_ofClass : (ofClass id c attributes).type = .known c :=
  EntityIndex.type_eq_known rfl

end

end BuildingModel.Step.Definition
