import BuildingModel.Model
import BuildingModel.Proofs.Model.Index

/-!
# Models of files

A model that was loaded from a content has the parts of that content (`exists_of_load`), and each
of its entities has the name that it is found under (`named_of_load`). Whether a content loads does
not depend on whether its properties are read (`load_eq_map`).
-/

namespace BuildingModel.Model

/-- All loads of a content meet the same error, or read the same header. -/
theorem load_eq_map (content : String) : ∃ header : Except LoadError Step.Header,
    ∀ withProperties, load content withProperties =
      header.map (ofParts · (.ofContent content) withProperties) := by
  by_cases hsignature : hasSignature content
  · by_cases hdata : hasData content
    · by_cases hschema : supports (Step.Header.ofContent content).schemaVersion
      · refine ⟨.ok (.ofContent content), ?_⟩
        simp [load, hsignature, hdata, hschema, Except.map]
      · refine ⟨.error (.unsupportedSchema (Step.Header.ofContent content).schemaVersion), ?_⟩
        simp [load, hsignature, hdata, hschema, Except.map]
    · refine ⟨.error .missingData, ?_⟩
      simp [load, hsignature, hdata, Except.map]
  · refine ⟨.error .missingSignature, ?_⟩
    simp [load, hsignature, Except.map]

/-- What loads is made from the header and the index of the content. -/
theorem exists_of_load {content : String} {withProperties : Bool} {m : Model}
    (h : load content withProperties = .ok m) :
    ∃ header, m = ofParts header (.ofContent content) withProperties := by
  obtain ⟨header, hload⟩ := load_eq_map content
  rw [hload] at h
  cases header with
  | error e => cases h
  | ok header =>
    cases h
    exact ⟨header, rfl⟩

/-- The index of a model of a file is that of the content. -/
theorem index_of_load {content : String} {withProperties : Bool} {m : Model}
    (h : load content withProperties = .ok m) : m.index = .ofContent content := by
  obtain ⟨header, rfl⟩ := exists_of_load h
  rfl

/-- There is an entity under an instance name. -/
def Resolves (m : Model) (id : EntityId) : Prop :=
  (m.get? id).isSome

/-- Entities have the names that they are found under. -/
def Named (m : Model) : Prop :=
  ∀ id e, m.get? id = some e → e.id = id

/-- The entities of a model of a file have the names that they are found under. -/
theorem named_of_load {content : String} {withProperties : Bool} {m : Model}
    (h : load content withProperties = .ok m) : m.Named := by
  obtain ⟨header, rfl⟩ := exists_of_load h
  exact fun _ _ => EntityIndex.id_of_get?_ofContent

end BuildingModel.Model
