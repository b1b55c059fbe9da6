import BuildingModel.Proofs.Schema.Names
import Mathlib

/-!
# Spellings of classes

A reader names a class by its label, its name or its tag, in letters of either case and between any
white space (`Spells`). Exactly these texts are read as the class (`ofLabel_eq_known_iff`): the
letters `ifc` are taken off the front once, and no label starts with them.
-/

namespace BuildingModel

namespace Text

/-- White space has no letters. -/
theorem isBlank_toUpper (c : Char) : isBlank c.toUpper = isBlank c := by
  by_cases h : c.isLower = true
  · have halpha : c.isAlpha = true := by rw [Char.isAlpha, h, Bool.or_true]
    have hplain {d : Char} (hd : d.isAlpha = true) : isBlank d = false :=
      isBlank_of_isTagChar (by rw [isTagChar, Char.isAlphanum, hd, Bool.true_or, Bool.true_or])
    rw [hplain halpha, hplain (by rwa [Char.isAlpha_toUpper_eq_isAlpha])]
  · rw [Char.toUpper_eq_of_not_isLower h]

end Text

namespace EntityClass

/-- The letters of a label in upper case. -/
def letters (c : EntityClass) : List Char :=
  c.label.toList.map Char.toUpper

theorem map_toUpper_name (c : EntityClass) :
    c.name.toList.map Char.toUpper = 'I' :: 'F' :: 'C' :: c.letters := by
  rw [name, String.toList_append, List.map_append]
  rfl

theorem map_toUpper_tag (c : EntityClass) :
    c.tag.toList.map Char.toUpper = 'I' :: 'F' :: 'C' :: c.letters := by
  rw [toList_tag, List.map_cons, List.map_cons, List.map_cons, List.map_map, letters]
  refine congrArg (List.cons 'I' <| List.cons 'F' <| List.cons 'C' ·) ?_
  exact List.map_congr_left fun a _ => Char.toUpper_toUpper_eq_toUpper a

/-- A class has two spellings but for case and white space. -/
theorem exists_spelling_iff (c : EntityClass) (word : List Char) :
    (∃ spelling ∈ [c.label, c.name, c.tag],
        word.map Char.toUpper = spelling.toList.map Char.toUpper) ↔
      word.map Char.toUpper = c.letters ∨
        word.map Char.toUpper = 'I' :: 'F' :: 'C' :: c.letters := by
  simp only [List.mem_cons, List.not_mem_nil, or_false, exists_eq_or_imp, exists_eq_left,
    map_toUpper_name, map_toUpper_tag, or_self]
  rfl

end EntityClass

namespace EntityType

open Text

/-- A text spells a class if, between white space, it is the label, the name or the tag of the
class, in letters of either case. -/
def Spells (s : String) (c : EntityClass) : Prop :=
  ∃ front word back, s.toList = front ++ word ++ back ∧ (∀ a ∈ front, isBlank a = true) ∧
    (∀ a ∈ back, isBlank a = true) ∧
    ∃ spelling ∈ [c.label, c.name, c.tag],
      word.map Char.toUpper = spelling.toList.map Char.toUpper

/-- What is written like a spelling has no white space. -/
theorem isBlank_of_spelling {c : EntityClass} {word : List Char}
    (h : word.map Char.toUpper = c.letters ∨
      word.map Char.toUpper = 'I' :: 'F' :: 'C' :: c.letters) :
    ∀ a ∈ word, isBlank a = false := by
  have hletters (b : Char) (hb : b ∈ c.letters) : isBlank b = false := by
    obtain ⟨d, hd, rfl⟩ := List.mem_map.1 hb
    rw [isBlank_toUpper]
    exact isBlank_of_isTagChar ((EntityClass.label_spec c).1 d hd)
  intro a ha
  have hmem : a.toUpper ∈ word.map Char.toUpper := List.mem_map_of_mem ha
  rw [← isBlank_toUpper]
  rcases h with h | h
  · exact hletters _ (h ▸ hmem)
  · rw [h, List.mem_cons, List.mem_cons, List.mem_cons] at hmem
    rcases hmem with heq | heq | heq | hmem
    · rw [heq]; decide
    · rw [heq]; decide
    · rw [heq]; decide
    · exact hletters _ hmem

/-- A spelling is found by taking off the white space at the ends. -/
theorem spells_iff {s : String} {c : EntityClass} :
    Spells s c ↔ (trim s.toList).map Char.toUpper = c.letters ∨
      (trim s.toList).map Char.toUpper = 'I' :: 'F' :: 'C' :: c.letters := by
  constructor
  · rintro ⟨front, word, back, hs, hfront, hback, h⟩
    rw [EntityClass.exists_spelling_iff] at h
    rwa [hs, trim_append hfront hback (isBlank_of_spelling h)]
  · intro h
    obtain ⟨front, back, hs, hfront, hback⟩ := exists_eq_append_trim s.toList
    exact ⟨front, trim s.toList, back, hs, hfront, hback, (c.exists_spelling_iff _).2 h⟩

theorem map_toLower_eq_iff (s t : List Char) :
    s.map Char.toLower = t.map Char.toLower ↔ s.map Char.toUpper = t.map Char.toUpper := by
  constructor <;> intro h
  · have h := congrArg (List.map Char.toUpper) h
    simpa only [List.map_map, Function.comp_def, Char.toUpper_toLower_eq_toUpper] using h
  · have h := congrArg (List.map Char.toLower) h
    simpa only [List.map_map, Function.comp_def, Char.toLower_toUpper_eq_toLower] using h

/-- The name of the schema is taken off the front of a text that starts with it, in letters of
either case. -/
theorem withoutSchemaName_cases (s : List Char) :
    (s.map Char.toUpper = 'I' :: 'F' :: 'C' :: (withoutSchemaName s).map Char.toUpper) ∨
      withoutSchemaName s = s ∧ ∀ r, s.map Char.toUpper ≠ 'I' :: 'F' :: 'C' :: r := by
  have hschema (s : List Char) :
      s.map Char.toLower = ['i', 'f', 'c'] ↔ s.map Char.toUpper = ['I', 'F', 'C'] :=
    map_toLower_eq_iff s ['I', 'F', 'C']
  rw [withoutSchemaName.eq_def]
  split
  · next a b c r =>
    split
    · next h =>
      have h := (hschema [a, b, c]).1 (beq_iff_eq.1 h)
      exact .inl (by simpa using h)
    · next h =>
      refine .inr ⟨rfl, fun t ht => h (beq_iff_eq.2 ((hschema [a, b, c]).2 ?_))⟩
      simp only [List.map_cons, List.cons.injEq] at ht
      simp [ht]
  · next hshort =>
    refine .inr ⟨rfl, fun t ht => ?_⟩
    obtain ⟨a, l, rfl, -, hl⟩ := List.map_eq_cons_iff.1 ht
    obtain ⟨b, l, rfl, -, hl⟩ := List.map_eq_cons_iff.1 hl
    obtain ⟨c, l, rfl, -, -⟩ := List.map_eq_cons_iff.1 hl
    exact hshort a b c l rfl

/-- No label starts with the name of the schema. -/
theorem letters_ne_schema (c : EntityClass) (r : List Char) :
    c.letters ≠ 'I' :: 'F' :: 'C' :: r := by
  rcases withoutSchemaName_cases c.label.toList with h | ⟨-, h⟩
  · -- The label is what is left of it, so nothing was taken off.
    rw [(EntityClass.label_spec c).2] at h
    have hlen := congrArg List.length h
    simp only [List.length_map, List.length_cons] at hlen
    omega
  · exact h r

/-- A text is read as a class exactly if it spells the class. -/
theorem ofLabel_eq_known_iff {s : String} {c : EntityClass} :
    ofLabel s = .known c ↔ Spells s c := by
  have hread : ofLabel s = .known c ↔
      (withoutSchemaName (trim s.toList)).map Char.toUpper = c.letters := by
    have htag : ("IFC" ++ String.ofList (withoutSchemaName (trim s.toList))).toUpper = c.tag ↔
        (withoutSchemaName (trim s.toList)).map Char.toUpper = c.letters := by
      have hschema : "IFC".toList.map Char.toUpper = ['I', 'F', 'C'] := by decide
      rw [← String.toList_inj, String.toUpper, String.toList_map, String.toList_append,
        List.map_append, hschema, EntityClass.toList_tag, ← EntityClass.letters]
      simp
    rw [← htag, ← EntityClass.ofTag?_eq_some_iff, ofLabel]
    split
    · next d hd => simp [hd]
    · next hd => simp [hd]
  rw [hread, spells_iff]
  rcases withoutSchemaName_cases (trim s.toList) with h | ⟨heq, h⟩
  · rw [h]
    simp [(letters_ne_schema c _).symm]
  · rw [heq]
    simp [h]

/-- A text that spells no class is of no known type. -/
theorem exists_ofLabel_eq_unknown_iff {s : String} :
    (∃ tag, ofLabel s = .unknown tag) ↔ ∀ c, ¬ Spells s c := by
  simp only [← ofLabel_eq_known_iff]
  cases ofLabel s <;> simp

end EntityType

end BuildingModel
