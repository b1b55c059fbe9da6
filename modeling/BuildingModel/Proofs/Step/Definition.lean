import BuildingModel.Model.Entity
import BuildingModel.Proofs.Step.Parameter
import BuildingModel.Proofs.Step.Phrase
import BuildingModel.Proofs.Step.Statement

/-!
# Reading written definitions back

The statement of a definition is read as the entity it defines (`parse_statement`), and the
statements of a file are exactly those of its definitions (`ofContent_file`): the attributes of a
definition are unbroken (`unbroken_writtenList`), and the frame around the definitions holds no
number sign.
-/

namespace BuildingModel.Step

open Text

/-- Written attributes do not end the statement that they stand in. -/
theorem unbroken_writtenList (as : List Attribute) :
    Unbroken false (Attribute.writtenList as) false := by
  rw [← Attribute.text_enclosure]
  exact (Attribute.enclosure as).unbroken_text

/-! ## The statement of a definition -/

namespace Definition

variable (d : Definition)

theorem head_writtenList {p : Char → Bool} (h : p '(' = false) (as : List Attribute)
    (r : List Char) : ∀ c ∈ (Attribute.writtenList as ++ r).head?, p c = false := by
  obtain ⟨s, hs⟩ := exists_writtenList_eq_cons as
  rw [hs]
  rintro c ⟨⟩
  exact h

/-- The statement of a definition is found as a whole behind its number sign. -/
theorem sighting_body (r : List Char) :
    sighting (d.body ++ ';' :: r) = .statement d.id d.tag.chars d.statement := by
  have hhead := head_writtenList (p := Text.isTagChar) (by decide) d.attributes []
  rw [List.append_nil] at hhead
  have h := sighting_statement Nat.toDigits_ne_nil (fun _ => isDigit_of_mem_toDigits)
    (entityId?_toDigits d.id) d.tag.ne_nil d.tag.isTagChar hhead (unbroken_writtenList _) r
  simpa [statement, body] using h

theorem values_eq_map (as : List Attribute) : Attribute.values as = as.map Attribute.value := by
  induction as with
  | nil => rfl
  | cons a as ih => rw [Attribute.values, ih, List.map_cons]

/-- The entity that a definition defines. -/
def entity : Entity where
  id := d.id
  type := d.type
  attributes := d.attributes.map Attribute.value

/-- The record of a definition is read up to its closing parenthesis. -/
theorem parse_record (r : List Char) :
    ∃ ps, Record.parse (d.tag.chars ++ (Attribute.writtenList d.attributes ++ r)) =
        .ok ⟨String.ofList d.tag.chars, ps⟩ ∧
      ps.map Parameter.decoded = d.attributes.map Attribute.value := by
  obtain ⟨ps, hps, hv⟩ := Attribute.parse_written d.tag d.attributes r
  exact ⟨ps, hps, by rw [← Parameter.decodedList_eq_map, ← values_eq_map, hv]⟩

/-- The statement of a definition is read as an instance with its name and its tag. -/
theorem parse_instance :
    ∃ ps, Instance.parse d.statement = .ok ⟨d.id, String.ofList d.tag.chars, ps⟩ ∧
      ps.map Parameter.decoded = d.attributes.map Attribute.value := by
  obtain ⟨ps, hps, hv⟩ := d.parse_record [';']
  refine ⟨ps, ?_, hv⟩
  have hequals (s : List Char) : ∀ c ∈ ('=' :: s).head?, c.isDigit = false := by
    rintro c ⟨⟩
    decide
  have hblank (s : List Char) : ∀ c ∈ ('=' :: s).head?, isRecordBlank c = false := by
    rintro c ⟨⟩
    decide
  have htag : ∀ c ∈ (d.tag.chars ++ (Attribute.writtenList d.attributes ++ [';'])).head?,
      isRecordBlank c = false :=
    d.tag.run.head_append (fun _ => isRecordBlank_of_isWordChar) _
  rw [statement, body, List.append_assoc, List.cons_append, List.append_assoc,
    parse_digits Nat.toDigits_ne_nil (fun _ => isDigit_of_mem_toDigits) (hequals _)
      (entityId?_toDigits d.id), dropBlanks, dropWhile_eq_self (hblank _), afterName]
  simp only [dropBlanks, dropWhile_eq_self htag, hps]
  rfl

/-- The statement of a definition is read as the entity it defines. -/
theorem parse_statement : Entity.parse d.statement = .ok d.entity := by
  obtain ⟨ps, hps, hv⟩ := d.parse_instance
  rw [Entity.parse, hps]
  simp [Except.map, Entity.ofInstance, hv, entity, type]

end Definition

/-! ## The statements of a file -/

namespace Statement

/-- The statements of lines of definitions are theirs, and the search goes on behind the lines. -/
theorem scan_lines (ds : List Definition) (offset : Nat) {r : List Char} (hr : '#' ∉ r) :
    (scan 0 offset true (Definition.lines ds ++ r)).map (fun s => (s.id, s.tag, s.text)) =
      ds.map fun d => (d.id, String.ofList d.tag.chars, d.statement) := by
  induction ds generalizing offset with
  | nil => rw [Definition.lines, List.nil_append, scan_eq_nil hr]; rfl
  | cons d ds ih =>
    rw [Definition.lines, Definition.statement, List.append_assoc, List.cons_append,
      List.append_assoc, List.singleton_append, List.cons_append, List.map_cons,
      scan_statement (d.sighting_body _), scan_cons_of_ne (by decide), List.map_cons]
    exact congrArg _ (ih _)

/-- The statements of a file are those of its definitions. -/
theorem ofContent_file (ds : List Definition) :
    (ofContent (file ds)).map (fun s => (s.id, s.tag, s.text)) =
      ds.map fun d => (d.id, String.ofList d.tag.chars, d.statement) := by
  have hdata : afterFirst? sectionStart (file ds).toList
      = some ('\n' :: (Definition.lines ds ++ closing)) := by
    rw [toList_file]
    rfl
  rw [ofContent, hdata]
  simp only
  rw [scan_cons_of_ne (by decide)]
  exact scan_lines ds _ (by decide)

end Statement

end BuildingModel.Step
