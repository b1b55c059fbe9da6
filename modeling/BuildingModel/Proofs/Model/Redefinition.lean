import BuildingModel.Proofs.Model.Index

/-!
# Names that are defined again

A file may have several statements under one name. The last one is the entry of the name, but the
lists of the types keep the name under the types of all of them. So every name is in the list of its
type, and the lists have nothing else exactly if no name is defined again under another type
(`mem_idsOf_iff_typeOf_iff_consistent`).
-/

namespace BuildingModel

/-- The type that a statement is written with. -/
def Step.Statement.type (s : Step.Statement) : EntityType :=
  .ofTag s.tag

namespace EntityIndex

variable {ss : List Step.Statement} {id : EntityId} {t : EntityType}

/-- The type of a name is that of the last statement under it. -/
theorem typeOf?_ofStatements :
    typeOf? (ofStatements ss) id = (ss.reverse.find? (·.id == id)).map Step.Statement.type := by
  rw [typeOf?, entry?_ofStatements, Option.map_map]
  rfl

/-- The type of a name is that of a statement under it. -/
theorem exists_mem_of_typeOf? (h : typeOf? (ofStatements ss) id = some t) :
    ∃ s ∈ ss, s.id = id ∧ s.type = t := by
  rw [typeOf?_ofStatements] at h
  obtain ⟨s, hs, rfl⟩ := Option.map_eq_some_iff.1 h
  exact ⟨s, List.mem_reverse.1 (List.mem_of_find?_eq_some hs), by simpa using List.find?_some hs,
    rfl⟩

/-- A name with a statement has a type. -/
theorem exists_typeOf?_of_mem {s : Step.Statement} (hs : s ∈ ss) :
    ∃ t, typeOf? (ofStatements ss) s.id = some t := by
  have h : (ss.reverse.find? (·.id == s.id)).isSome :=
    List.find?_isSome.2 ⟨s, List.mem_reverse.2 hs, beq_self_eq_true _⟩
  obtain ⟨last, hlast⟩ := Option.isSome_iff_exists.1 h
  exact ⟨last.type, by rw [typeOf?_ofStatements, hlast, Option.map_some]⟩

/-- A type has the names of all statements that were written with it. -/
theorem mem_idsOf_ofStatements :
    id ∈ (ofStatements ss).idsOf t ↔ ∃ s ∈ ss, s.id = id ∧ s.type = t := by
  rw [mem_idsOf, ofStatements, List.mem_map]
  simp only [Prod.mk.injEq, Step.Statement.type]

/-- The names of an index are those with an entry, and a type has the names of the statements that
were written with it, among them all names of the type; both in ascending order. A type has no
other names exactly if statements under one name are of one type. -/
theorem mem_idsOf_iff_typeOf_iff_consistent (content : String) :
    ((ofContent content).ids.Pairwise (· < ·) ∧
        ∀ id, id ∈ (ofContent content).ids ↔ (EntityIndex.entry? (ofContent content) id).isSome) ∧
      (∀ t, ((ofContent content).idsOf t).Pairwise (· < ·) ∧
        (∀ id, id ∈ (ofContent content).idsOf t ↔
          ∃ s ∈ Step.Statement.ofContent content, s.id = id ∧ s.type = t) ∧
        ∀ id, (ofContent content).typeOf? id = some t → id ∈ (ofContent content).idsOf t) ∧
      ((∀ t id, id ∈ (ofContent content).idsOf t ↔ (ofContent content).typeOf? id = some t) ↔
        ∀ s ∈ Step.Statement.ofContent content, ∀ s' ∈ Step.Statement.ofContent content,
          s.id = s'.id → s.type = s'.type) := by
  have hlisted (id : EntityId) (t : EntityType) (h : (ofContent content).typeOf? id = some t) :
      id ∈ (ofContent content).idsOf t :=
    mem_idsOf_ofStatements.2 (exists_mem_of_typeOf? h)
  refine ⟨⟨ids_pairwise _, fun id => mem_ids⟩, fun t => ⟨idsOf_pairwise _ t,
    fun id => mem_idsOf_ofStatements, fun id => hlisted id t⟩, fun h s hs s' hs' hid => ?_,
    fun h t id => ⟨fun hmem => ?_, hlisted id t⟩⟩
  · -- Both types are the one type of the name.
    have hs := (h s.type s.id).1 (mem_idsOf_ofStatements.2 ⟨s, hs, rfl, rfl⟩)
    have hs' := (h s'.type s.id).1 (mem_idsOf_ofStatements.2 ⟨s', hs', hid.symm, rfl⟩)
    exact Option.some.inj (hs.symm.trans hs')
  · -- The last statement under the name is of the same type as the one that was listed.
    obtain ⟨s, hs, rfl, rfl⟩ := mem_idsOf_ofStatements.1 hmem
    obtain ⟨t, ht⟩ := exists_typeOf?_of_mem hs
    obtain ⟨last, hlast, hid, rfl⟩ := exists_mem_of_typeOf? ht
    rw [h s hs last hlast hid.symm]
    exact ht

/-- A file in which a wall becomes a door. -/
def wallThenDoor : String :=
  "ISO-10303-21;\nDATA;\n#1=IFCWALL();\n#1=IFCDOOR();\nENDSEC;\n"

/-- What became a door stays listed as a wall. -/
theorem mem_idsOf_wallThenDoor :
    1 ∈ (ofContent wallThenDoor).idsOf (.known .wall) ∧
      (ofContent wallThenDoor).typeOf? 1 = some (.known .door) ∧
      ¬ ∀ t id, id ∈ (ofContent wallThenDoor).idsOf t ↔
        (ofContent wallThenDoor).typeOf? id = some t := by
  have hwall : 1 ∈ (ofContent wallThenDoor).idsOf (.known .wall) := by decide +kernel
  have hdoor : (ofContent wallThenDoor).typeOf? 1 = some (.known .door) := by decide +kernel
  refine ⟨hwall, hdoor, fun h => ?_⟩
  have htype := hdoor.symm.trans ((h _ _).1 hwall)
  exact absurd htype (by decide)

end EntityIndex

end BuildingModel
