import BuildingModel.Proofs.Step.Definition
import BuildingModel.Proofs.Text.Search
import BuildingModel.Step.Header
import Mathlib.Data.List.Infix

/-!
# Reading headers back

A header is written from seven texts (`Header.Texts.text`), with the apostrophes and backslashes in
them doubled. It is read back as a whole unless one of the texts holds the word that closes a
section (`Header.Texts.ofContent_text_iff`): the end of the header is sought without regard to
literals, and what is behind it is lost.

* `infix_text_iff`, `infix_append_writtenList_iff`: the closing word occurs in what is written only
  inside a text;
* `Header.Texts.add_fileRecord`, `Header.Texts.add_schemaRecord`: a record tells what its texts tell;
* `Header.Texts.splitStatements_of_not_aboutFile`: up to the closing word, the header falls into its
  records.
-/

namespace BuildingModel.Step

open Text

/-! ## Words in literals -/

/-- A word without apostrophes and backslashes is at the front of a written text if it is at the
front of the text. -/
theorem prefix_escaped_iff {word s : List Char} (hquote : '\'' ∉ word) (hbackslash : '\\' ∉ word) :
    word <+: escaped s ↔ word <+: s := by
  induction word generalizing s with
  | nil => simp
  | cons d word ih =>
    rw [List.mem_cons, not_or] at hquote hbackslash
    cases s with
    | nil => rfl
    | cons c s =>
      by_cases hq : c = '\''
      · subst hq
        simp [escaped_cons_quote, List.cons_prefix_cons, Ne.symm hquote.1]
      by_cases hb : c = '\\'
      · subst hb
        simp [escaped_cons_backslash, List.cons_prefix_cons, Ne.symm hbackslash.1]
      rw [escaped_cons_of_ne hq hb, List.cons_prefix_cons, List.cons_prefix_cons,
        ih hquote.2 hbackslash.2]

/-- A word without apostrophes and backslashes occurs in a written text if it occurs in the text. -/
theorem infix_escaped_iff {word : List Char} (hquote : '\'' ∉ word) (hbackslash : '\\' ∉ word)
    (s : List Char) : word <:+: escaped s ↔ word <:+: s := by
  induction s with
  | nil => rfl
  | cons c s ih =>
    by_cases hq : c = '\''
    · subst hq
      simp only [escaped_cons_quote, infix_cons_iff_of_not_mem hquote, ih]
    by_cases hb : c = '\\'
    · subst hb
      simp only [escaped_cons_backslash, infix_cons_iff_of_not_mem hbackslash, ih]
    rw [List.infix_cons_iff, ← prefix_escaped_iff hquote hbackslash, ← ih,
      escaped_cons_of_ne hq hb, List.infix_cons_iff]

namespace Header

/-! ## Headers as they are written -/

/-- The keyword of the record about the file. -/
def fileKeyword : Word where
  chars := ['F', 'I', 'L', 'E', '_', 'N', 'A', 'M', 'E']
  ne_nil := by decide
  isTagChar := List.all_eq_true.1 (by decide)

/-- The keyword of the record about the schema. -/
def schemaKeyword : Word where
  chars := ['F', 'I', 'L', 'E', '_', 'S', 'C', 'H', 'E', 'M', 'A']
  ne_nil := by decide
  isTagChar := List.all_eq_true.1 (by decide)

/-- The texts that a header is written from. -/
structure Texts where
  /-- The name of the file. -/
  fileName : String
  /-- When the file was written. -/
  timestamp : String
  /-- The author. -/
  author : String
  /-- The organization. -/
  organization : String
  /-- The program that wrote the exchange structure. -/
  preprocessorVersion : String
  /-- The program the data come from. -/
  originatingSystem : String
  /-- The schema of the data. -/
  schema : String

namespace Texts

variable (x : Texts)

/-- The texts about the file. -/
def aboutFile : List String :=
  [x.fileName, x.timestamp, x.author, x.organization, x.preprocessorVersion, x.originatingSystem]

/-- What the texts tell. -/
def header : Header where
  schemaVersion := x.schema
  fileName := nonempty? x.fileName
  timestamp := nonempty? x.timestamp
  author := nonempty? x.author
  organization := nonempty? x.organization
  preprocessorVersion := nonempty? x.preprocessorVersion
  originatingSystem := nonempty? x.originatingSystem

/-- The parameters of the record about the file. -/
def fileAttributes : List Attribute :=
  [.text x.fileName, .text x.timestamp, .list [.text x.author], .list [.text x.organization],
    .text x.preprocessorVersion, .text x.originatingSystem, .text ""]

/-- The parameters of the record about the schema. -/
def schemaAttributes : List Attribute :=
  [.list [.text x.schema]]

/-- The record about the file, up to its semicolon. -/
def fileRecord : List Char :=
  fileKeyword.chars ++ Attribute.writtenList x.fileAttributes

/-- The record about the schema, up to its semicolon. -/
def schemaRecord : List Char :=
  schemaKeyword.chars ++ Attribute.writtenList x.schemaAttributes

/-- The header section of the texts. -/
def text : List Char :=
  sectionStart ++
    (' ' :: (x.fileRecord ++ ';' :: ' ' :: (x.schemaRecord ++ ';' :: ' ' :: sectionEnd)))

example : text ⟨"it's", "t", "a", "", "p", "\\s", "IFC4"⟩ = ("HEADER; " ++
    "FILE_NAME('it''s','t',('a'),(''),'p','\\\\s',''); FILE_SCHEMA(('IFC4')); ENDSEC;").toList := by
  decide

end Texts

/-! ## Where the closing word occurs -/

/-- The closing word occurs in a literal if it occurs in the text. -/
theorem infix_text_iff (s : String) :
    sectionEnd <:+: (Attribute.text s).written ↔ sectionEnd <:+: s.toList := by
  rw [Attribute.written, infix_cons_iff_of_not_mem (by decide), infix_append_cons_iff (by decide),
    infix_escaped_iff (by decide) (by decide), List.infix_nil]
  exact or_iff_left (by decide)

/-- The closing word does not go on from a text into the attributes behind it. -/
theorem infix_append_writtenFurther_iff (s : List Char) (as : List Attribute) (r : List Char) :
    sectionEnd <:+: s ++ (Attribute.writtenFurther as ++ r) ↔
      sectionEnd <:+: s ∨ sectionEnd <:+: Attribute.writtenFurther as ++ r := by
  cases as with
  | nil =>
    rw [Attribute.writtenFurther, List.cons_append, infix_append_cons_iff (by decide),
      infix_cons_iff_of_not_mem (by decide)]
  | cons a as =>
    rw [Attribute.writtenFurther, List.cons_append, infix_append_cons_iff (by decide),
      infix_cons_iff_of_not_mem (by decide)]

theorem infix_writtenFurther_append_iff (as : List Attribute) (r : List Char) :
    sectionEnd <:+: Attribute.writtenFurther as ++ r ↔
      (∃ a ∈ as, sectionEnd <:+: a.written) ∨ sectionEnd <:+: r := by
  induction as with
  | nil =>
    rw [Attribute.writtenFurther, List.singleton_append, infix_cons_iff_of_not_mem (by decide)]
    simp
  | cons a as ih =>
    rw [Attribute.writtenFurther, List.cons_append, infix_cons_iff_of_not_mem (by decide),
      List.append_assoc, infix_append_writtenFurther_iff, ih]
    simp [or_assoc]

/-- The closing word occurs in an attribute of a list, or in what is around the list. -/
theorem infix_append_writtenList_iff (s : List Char) (as : List Attribute) (r : List Char) :
    sectionEnd <:+: s ++ (Attribute.writtenList as ++ r) ↔
      sectionEnd <:+: s ∨ (∃ a ∈ as, sectionEnd <:+: a.written) ∨ sectionEnd <:+: r := by
  cases as with
  | nil =>
    rw [Attribute.writtenList, List.cons_append, infix_append_cons_iff (by decide),
      List.singleton_append, infix_cons_iff_of_not_mem (by decide)]
    simp
  | cons a as =>
    rw [Attribute.writtenList, List.cons_append, infix_append_cons_iff (by decide),
      List.append_assoc, infix_append_writtenFurther_iff, infix_writtenFurther_append_iff]
    simp [or_assoc]

/-- The closing word does not occur where there is no semicolon. -/
theorem not_infix_of_semicolon_not_mem {s : List Char} (hs : ';' ∉ s) : ¬ sectionEnd <:+: s :=
  not_infix_of_not_mem (by decide) hs

theorem infix_list_iff (as : List Attribute) :
    sectionEnd <:+: (Attribute.list as).written ↔ ∃ a ∈ as, sectionEnd <:+: a.written := by
  have h := infix_append_writtenList_iff [] as []
  rw [List.nil_append, List.append_nil] at h
  rw [Attribute.written, h, List.infix_nil]
  exact (or_iff_right (by decide)).trans (or_iff_left (by decide))

namespace Texts

variable (x : Texts)

/-- The closing word occurs in the record about the file if it occurs in a text about the file. -/
theorem infix_fileRecord_append_iff {r : List Char} (hr : ¬ sectionEnd <:+: r) :
    sectionEnd <:+: x.fileRecord ++ r ↔ ∃ s ∈ x.aboutFile, sectionEnd <:+: s.toList := by
  have hkeyword : ¬ sectionEnd <:+: fileKeyword.chars := not_infix_of_semicolon_not_mem (by decide)
  have hempty : ¬ sectionEnd <:+: "".toList := not_infix_of_semicolon_not_mem (by decide)
  rw [fileRecord, List.append_assoc, infix_append_writtenList_iff, or_iff_right hkeyword,
    or_iff_left hr]
  simp only [fileAttributes, aboutFile, List.mem_cons, List.not_mem_nil, exists_eq_or_imp, or_false,
    exists_eq_left, infix_text_iff, infix_list_iff, hempty]

/-- The closing word occurs in the record about the schema if it occurs in the schema. -/
theorem infix_schemaRecord_append_iff {r : List Char} (hr : ¬ sectionEnd <:+: r) :
    sectionEnd <:+: x.schemaRecord ++ r ↔ sectionEnd <:+: x.schema.toList := by
  have hkeyword : ¬ sectionEnd <:+: schemaKeyword.chars :=
    not_infix_of_semicolon_not_mem (by decide)
  rw [schemaRecord, List.append_assoc, infix_append_writtenList_iff, or_iff_right hkeyword,
    or_iff_left hr]
  simp only [schemaAttributes, List.mem_singleton, exists_eq_left, infix_text_iff, infix_list_iff]

/-! ## What the records tell -/

theorem firstText?_text (s : String) :
    firstText? (Attribute.text s).phrase.value = nonempty? s := by
  simp [Attribute.phrase, Phrase.value, firstText?, decode_escaped]

theorem firstText?_list (s : String) :
    firstText? (Attribute.list [.text s]).phrase.value = nonempty? s := by
  have h := firstText?_text s
  rw [Attribute.phrase, Phrase.value, Attribute.enclosure, Enclosure.values, firstText?,
    firstTextOf?, h, Attribute.further, Further.values, firstTextOf?]
  cases nonempty? s <;> rfl

/-- A record is read behind the blank in front of it. -/
theorem parse_record (keyword : Word) (as : List Attribute) :
    Record.parse (' ' :: (keyword.chars ++ (Attribute.writtenList as ++ [';']))) =
      .ok ⟨String.ofList keyword.chars, (Attribute.enclosure as).values⟩ := by
  have h := RecordPhrase.parse_text ⟨⟨[' '], List.all_eq_true.1 (by decide)⟩, keyword.run, .nil,
    Attribute.enclosure as, [';']⟩
  rw [← Attribute.text_enclosure]
  exact h

/-- The record about the file tells what the texts about it tell. -/
theorem add_fileRecord (h : Header) :
    h.add ⟨String.ofList fileKeyword.chars, (Attribute.enclosure x.fileAttributes).values⟩ =
      { x.header with schemaVersion := h.schemaVersion } := by
  have hkeyword : (String.ofList fileKeyword.chars).toUpper = "FILE_NAME" := by decide +kernel
  rw [Attribute.values_enclosure, Header.add]
  simp only [hkeyword]
  simp [fileAttributes, header, firstText?_text, firstText?_list]

/-- The record about the schema tells the schema. -/
theorem add_schemaRecord {h : Header} (hschema : h.schemaVersion = "") :
    h.add ⟨String.ofList schemaKeyword.chars, (Attribute.enclosure x.schemaAttributes).values⟩ =
      { h with schemaVersion := x.schema } := by
  have hkeyword : (String.ofList schemaKeyword.chars).toUpper = "FILE_SCHEMA" := by decide +kernel
  rw [Attribute.values_enclosure, Header.add]
  simp only [hkeyword, schemaAttributes, List.map_cons, List.map_nil, List.getElem?_cons_zero,
    Option.bind_eq_bind, Option.bind_some, firstText?_list, nonempty?, String.isEmpty_iff]
  by_cases hempty : x.schema = ""
  · rw [if_pos hempty, hempty, ← hschema]
  · rw [if_neg hempty]

/-! ## The statements of a header -/

theorem unbroken_record (keyword : Word) (as : List Attribute) :
    Unbroken false (' ' :: (keyword.chars ++ Attribute.writtenList as)) false :=
  ⟨by decide, keyword.run.unbroken_word.append (unbroken_writtenList as)⟩

/-- What statements tell. -/
def ofStatements (statements : List (List Char)) : Header :=
  statements.foldl
    (fun h statement =>
      match Record.parse statement with
      | .ok record => h.add record
      | .error _ => h)
    {}

/-- A header is read from the text between the word that opens it and the closing word. -/
theorem ofContent_text : ofContent (String.ofList x.text) =
    ofStatements (splitStatements false [] (beforeFirst sectionEnd [] (' ' ::
      (x.fileRecord ++ ';' :: ' ' :: (x.schemaRecord ++ ';' :: ' ' :: sectionEnd))))) := by
  have hword : ¬ sectionStart <:+: [] ++ sectionStart.dropLast :=
    not_infix_of_not_mem (c := ';') (by decide) (by decide)
  have hstart : afterFirst? sectionStart x.text = some (' ' ::
      (x.fileRecord ++ ';' :: ' ' :: (x.schemaRecord ++ ';' :: ' ' :: sectionEnd))) :=
    afterFirst?_append hword _
  rw [ofContent, String.toList_ofList, hstart]
  rfl

/-- A statement with a record adds what the record tells. -/
theorem ofStatements_append {statement : List Char} {record : Record}
    (h : Record.parse statement = .ok record) (statements : List (List Char)) :
    ofStatements (statements ++ [statement]) = (ofStatements statements).add record := by
  simp only [ofStatements, List.foldl_append, List.foldl_cons, List.foldl_nil, h]

/-- The first record alone tells of the file. -/
theorem ofStatements_fileRecord :
    ofStatements [' ' :: (x.fileRecord ++ [';'])] = { x.header with schemaVersion := "" } := by
  have hparse := parse_record fileKeyword x.fileAttributes
  rw [← List.append_assoc] at hparse
  exact (ofStatements_append hparse []).trans (x.add_fileRecord {})

/-- Both records tell all. -/
theorem ofStatements_records :
    ofStatements [' ' :: (x.fileRecord ++ [';']), ' ' :: (x.schemaRecord ++ [';'])] = x.header := by
  have hparse := parse_record schemaKeyword x.schemaAttributes
  rw [← List.append_assoc] at hparse
  have hrecords := ofStatements_append hparse [' ' :: (x.fileRecord ++ [';'])]
  rw [x.ofStatements_fileRecord, x.add_schemaRecord rfl] at hrecords
  exact hrecords

/-- Where a text about the file holds the closing word, the header has no statement. -/
theorem ofContent_of_aboutFile (h : ∃ s ∈ x.aboutFile, sectionEnd <:+: s.toList) :
    ofContent (String.ofList x.text) = {} := by
  have hnil : ¬ sectionEnd <:+: [] := not_infix_of_semicolon_not_mem (by decide)
  have hrecord : sectionEnd <:+: ' ' :: x.fileRecord := by
    rw [infix_cons_iff_of_not_mem (by decide), ← List.append_nil x.fileRecord]
    exact (x.infix_fileRecord_append_iff hnil).2 h
  -- What is before the closing word is the front of an unbroken text, so no statement ends in it.
  obtain ⟨p, hp, hbefore⟩ := exists_beforeFirst_of_infix (by decide) hrecord
  obtain ⟨j, hj⟩ := (unbroken_record fileKeyword x.fileAttributes).exists_front hp
  rw [ofContent_text, ← List.cons_append, hbefore, List.reverse_nil, List.nil_append,
    splitStatements_unbroken hj]
  rfl

/-- Where no text about the file holds the closing word, the first record is a statement. -/
theorem splitStatements_of_not_aboutFile (h : ¬ ∃ s ∈ x.aboutFile, sectionEnd <:+: s.toList)
    {p r : List Char} (hp : ∀ before, beforeFirst sectionEnd before r = before.reverse ++ p) :
    splitStatements false []
        (beforeFirst sectionEnd [] (' ' :: (x.fileRecord ++ ';' :: ' ' :: r))) =
      (' ' :: (x.fileRecord ++ [';'])) :: splitStatements false [] (' ' :: p) := by
  have hend : ¬ sectionEnd <:+: [';'] := not_infix_of_not_mem (c := 'E') (by decide) (by decide)
  have hrecord : ¬ sectionEnd <:+: ' ' :: (x.fileRecord ++ [';']) := by
    rw [infix_cons_iff_of_not_mem (by decide), x.infix_fileRecord_append_iff hend]
    exact h
  have hsplit (r : List Char) : ' ' :: (x.fileRecord ++ ';' :: r) =
      ' ' :: (x.fileRecord ++ [';']) ++ r := by simp
  rw [hsplit, beforeFirst_append_cons (by decide) hrecord, hp]
  have hstatement := splitStatements_statement (unbroken_record fileKeyword x.fileAttributes)
    (' ' :: p)
  simpa [fileRecord] using hstatement

/-- Where only the schema holds the closing word, the first record is the only statement. -/
theorem ofContent_of_schema (h : ¬ ∃ s ∈ x.aboutFile, sectionEnd <:+: s.toList)
    (hschema : sectionEnd <:+: x.schema.toList) :
    ofContent (String.ofList x.text) = { x.header with schemaVersion := "" } := by
  have hrecord : sectionEnd <:+: x.schemaRecord := by
    rw [← List.append_nil x.schemaRecord, x.infix_schemaRecord_append_iff
      (not_infix_of_semicolon_not_mem List.not_mem_nil)]
    exact hschema
  obtain ⟨p, hp, hbefore⟩ := exists_beforeFirst_of_infix (by decide) hrecord
  obtain ⟨j, hj⟩ := (unbroken_record schemaKeyword x.schemaAttributes).exists_front
    (List.cons_prefix_cons.2 ⟨rfl, hp⟩)
  rw [ofContent_text, x.splitStatements_of_not_aboutFile h fun before => hbefore before _,
    splitStatements_unbroken hj, ofStatements_fileRecord]

/-- Where no text holds the closing word, both records are statements. -/
theorem ofContent_of_not_mem (h : ¬ ∃ s ∈ x.aboutFile, sectionEnd <:+: s.toList)
    (hschema : ¬ sectionEnd <:+: x.schema.toList) :
    ofContent (String.ofList x.text) = x.header := by
  have hend : ¬ sectionEnd <:+: [';'] := not_infix_of_not_mem (c := 'E') (by decide) (by decide)
  have hrecord : ¬ sectionEnd <:+: x.schemaRecord ++ [';'] := by
    rw [x.infix_schemaRecord_append_iff hend]
    exact hschema
  have hbefore (before : List Char) :
      beforeFirst sectionEnd before (x.schemaRecord ++ ';' :: ' ' :: sectionEnd) =
        before.reverse ++ (x.schemaRecord ++ ';' :: [' ']) := by
    have hsplit : x.schemaRecord ++ ';' :: ' ' :: sectionEnd =
        x.schemaRecord ++ [';'] ++ ' ' :: (sectionEnd ++ []) := by simp
    rw [hsplit, beforeFirst_append_cons (by decide) hrecord, beforeFirst_word (by decide)]
    simp
  have hblank : splitStatements false [] [' '] = [] :=
    splitStatements_unbroken (unbroken_of_not_mem false (by decide) (by decide))
  have hstatement := splitStatements_statement (unbroken_record schemaKeyword x.schemaAttributes)
    [' ']
  rw [hblank] at hstatement
  rw [ofContent_text, x.splitStatements_of_not_aboutFile h hbefore, ← x.ofStatements_records]
  exact congrArg (fun statements => ofStatements (_ :: statements))
    (by simpa [schemaRecord] using hstatement)

/-! ## Reading back -/

/-- A header tells nothing only if the texts about the file are empty. -/
theorem eq_empty_of_header_eq (h : x.header = {}) : ∀ s ∈ x.aboutFile, s = "" := by
  have hempty {s : String} (hs : nonempty? s = none) : s = "" := by
    by_contra hne
    rw [nonempty?, if_neg fun h => hne (String.isEmpty_iff.1 h)] at hs
    cases hs
  rw [header, Header.mk.injEq] at h
  obtain ⟨-, hname, htime, hauthor, horganization, hversion, hsystem⟩ := h
  simp only [aboutFile, List.mem_cons, List.not_mem_nil, or_false, forall_eq_or_imp, forall_eq]
  exact ⟨hempty hname, hempty htime, hempty hauthor, hempty horganization, hempty hversion,
    hempty hsystem⟩

/-- A header that is written from texts is read back as a whole if and only if no text holds the
closing word. If a text about the file holds it, nothing is read; if only the schema holds it, all
is read but the schema. -/
theorem ofContent_text_iff : (ofContent (String.ofList x.text) =
      if ∃ s ∈ x.aboutFile, sectionEnd <:+: s.toList then {}
      else if sectionEnd <:+: x.schema.toList then { x.header with schemaVersion := "" }
      else x.header) ∧
    (ofContent (String.ofList x.text) = x.header ↔
      ∀ s ∈ x.schema :: x.aboutFile, ¬ sectionEnd <:+: s.toList) := by
  have hempty : ¬ sectionEnd <:+: "".toList := not_infix_of_semicolon_not_mem (by decide)
  rw [List.forall_mem_cons]
  by_cases hfile : ∃ s ∈ x.aboutFile, sectionEnd <:+: s.toList
  · rw [if_pos hfile, x.ofContent_of_aboutFile hfile]
    refine ⟨rfl, fun h => ?_, fun h => ?_⟩
    -- The text that holds the closing word is not empty, so its absence is a difference.
    · obtain ⟨s, hs, hword⟩ := hfile
      rw [x.eq_empty_of_header_eq h.symm s hs] at hword
      exact absurd hword hempty
    · obtain ⟨s, hs, hword⟩ := hfile
      exact absurd hword (h.2 s hs)
  · rw [if_neg hfile]
    by_cases hschema : sectionEnd <:+: x.schema.toList
    · rw [if_pos hschema, x.ofContent_of_schema hfile hschema]
      refine ⟨rfl, fun h => ?_, fun h => absurd hschema h.1⟩
      have hversion : "" = x.schema := congrArg Header.schemaVersion h
      rw [← hversion] at hschema
      exact absurd hschema hempty
    · rw [if_neg hschema, x.ofContent_of_not_mem hfile hschema]
      exact ⟨rfl, fun _ => ⟨hschema, fun s hs hword => hfile ⟨s, hs, hword⟩⟩, fun _ => rfl⟩

/-- A file whose name is the closing word. -/
def closingName : Texts :=
  ⟨"ENDSEC;", "t", "a", "o", "p", "s", "IFC4"⟩

/-- The header of the file is not read. -/
theorem ofContent_closingName :
    ofContent (String.ofList closingName.text) = {} ∧ closingName.header ≠ {} :=
  ⟨closingName.ofContent_of_aboutFile ⟨"ENDSEC;", List.mem_cons_self, List.infix_rfl⟩, by decide⟩

end Texts

end Header

end BuildingModel.Step
