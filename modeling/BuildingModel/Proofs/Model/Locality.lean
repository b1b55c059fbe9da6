import BuildingModel.Proofs.Model.Index
import BuildingModel.Proofs.Step.Written

/-!
# Statements that cannot be read

A data section may hold statements that cannot be read. A `WrittenStatement` is an instance name, an
equals sign, a tag, any text that does not end the statement, and a semicolon; the text may hold
number signs, equals signs, blanks and literals, and its parentheses may not match.

* `Statement.scan_writtenAll`: the search finds each of them where it is written, and nothing else;
* `EntityIndex.get?_content`: under a name, the index has what the last statement with the name is
  read as.

So what one statement says has no effect on any other name.
-/

namespace BuildingModel

namespace Step

open Text

/-- A statement as it is written, with the blanks before it. It may be malformed behind its tag. -/
structure WrittenStatement where
  /-- The blanks before it. -/
  gap : List Char
  /-- They are blanks of the data section. -/
  isDataBlank : ∀ c ∈ gap, isDataBlank c = true
  /-- The digits of its name. -/
  digits : List Char
  /-- There is at least one digit. -/
  digits_ne_nil : digits ≠ []
  /-- They are decimal digits. -/
  isDigit : ∀ c ∈ digits, c.isDigit = true
  /-- The name fits 32 bits. -/
  value_lt : digitsValue digits < UInt32.size
  /-- Its tag. -/
  tag : Word
  /-- What stands between the tag and the semicolon. -/
  rest : List Char
  /-- It does not go on with the tag. -/
  head_rest : ∀ c ∈ rest.head?, isTagChar c = false
  /-- Every literal in it is closed. -/
  closed : rest.count '\'' % 2 = 0
  /-- Every semicolon in it is inside a literal. -/
  quoted : ∀ k < rest.length, rest[k]? = some ';' → (rest.take k).count '\'' % 2 = 1

namespace WrittenStatement

/-- The instance name. -/
def id (w : WrittenStatement) : EntityId :=
  UInt32.ofNat (digitsValue w.digits)

/-- What stands between the number sign and the semicolon. -/
def body (w : WrittenStatement) : List Char :=
  w.digits ++ '=' :: (w.tag.chars ++ w.rest)

/-- The statement from its number sign to its semicolon. -/
def text (w : WrittenStatement) : List Char :=
  '#' :: (w.body ++ [';'])

/-- The entity that the statement is read as, unless it is malformed. -/
def entity? (w : WrittenStatement) : Option Entity :=
  (Entity.parse w.text).toOption

/-- Statements one after the other. -/
def writtenAll (ws : List WrittenStatement) : List Char :=
  ws.flatMap fun w => w.gap ++ w.text

theorem writtenAll_cons (w : WrittenStatement) (ws : List WrittenStatement) :
    writtenAll (w :: ws) = w.gap ++ (w.text ++ writtenAll ws) :=
  List.append_assoc _ _ _

/-- The statement as it is found when its blanks start at an offset in bytes. -/
def placed (offset : Nat) (w : WrittenStatement) : Statement where
  id := w.id
  tag := String.ofList w.tag.chars
  start := offset + byteLength w.gap
  stop := offset + byteLength w.gap + byteLength w.text
  text := w.text

/-- The statements as they are found when the first one's blanks start at an offset. -/
def placedAll : (offset : Nat) → List WrittenStatement → List Statement
  | _, [] => []
  | offset, w :: ws => w.placed offset :: placedAll (offset + byteLength (w.gap ++ w.text)) ws

theorem length_placedAll (offset : Nat) (ws : List WrittenStatement) :
    (placedAll offset ws).length = ws.length := by
  induction ws generalizing offset with
  | nil => rfl
  | cons w ws ih => exact congrArg (· + 1) (ih _)

/-- Each statement is found behind the text of those before it. -/
theorem getElem?_placedAll (offset : Nat) (before : List WrittenStatement) (w : WrittenStatement)
    (after : List WrittenStatement) : (placedAll offset (before ++ w :: after))[before.length]? =
      some (w.placed (offset + byteLength (writtenAll before))) := by
  induction before generalizing offset with
  | nil => rfl
  | cons v before ih =>
    rw [List.cons_append, placedAll, List.length_cons, List.getElem?_cons_succ, ih, writtenAll_cons,
      ← List.append_assoc v.gap, byteLength_append (v.gap ++ v.text), Nat.add_assoc]

/-- The last statement with a name is the last one that is found with it. -/
theorem find?_placedAll (offset : Nat) (ws : List WrittenStatement) (id : EntityId) :
    ((placedAll offset ws).reverse.find? (·.id == id)).map Statement.text =
      (ws.reverse.find? (·.id == id)).map text := by
  induction ws generalizing offset with
  | nil => rfl
  | cons w ws ih =>
    rw [placedAll, List.reverse_cons, List.reverse_cons, List.find?_append, List.find?_append,
      Option.map_or, Option.map_or, ih]
    refine congrArg _ ?_
    by_cases h : w.id = id
    · simp [h, placed]
    · simp [h, placed]

/-- The content with a text, the word that opens the data section, statements and a last text. -/
def content (front : List Char) (ws : List WrittenStatement) (closing : List Char) : String :=
  String.ofList (front ++ (Statement.sectionStart ++ (writtenAll ws ++ closing)))

theorem entityId?_digits (w : WrittenStatement) : entityId? w.digits = some w.id :=
  if_pos w.value_lt

theorem unbroken_rest (w : WrittenStatement) : Unbroken false w.rest false :=
  unbroken_false_iff.2 ⟨w.quoted, w.closed⟩

/-- The statement is found as a whole behind its number sign, malformed or not. -/
theorem sighting_body (w : WrittenStatement) (r : List Char) :
    sighting (w.body ++ ';' :: r) = .statement w.id w.tag.chars w.text := by
  have h := sighting_statement w.digits_ne_nil w.isDigit w.entityId?_digits w.tag.ne_nil
    w.tag.isTagChar w.head_rest w.unbroken_rest r
  simpa [text, body] using h

end WrittenStatement

namespace Statement

open WrittenStatement

/-- Blanks hold no statement, and one may start behind them. -/
theorem scan_blanks {gap : List Char} (h : ∀ c ∈ gap, isDataBlank c = true) (offset : Nat)
    (r : List Char) : scan 0 offset true (gap ++ r) = scan 0 (offset + byteLength gap) true r := by
  induction gap generalizing offset with
  | nil => rfl
  | cons c gap ih =>
    have hc := h c List.mem_cons_self
    have hne : c ≠ '#' := by
      rintro rfl
      exact absurd hc (by decide)
    rw [List.cons_append, scan_cons_of_ne hne, mayFollow, hc, Bool.true_or,
      ih fun d hd => h d (List.mem_cons_of_mem _ hd), byteLength_cons, Nat.add_assoc]

/-- The search finds written statements in order, each where it is written, and nothing else. -/
theorem scan_writtenAll (ws : List WrittenStatement) (offset : Nat) {r : List Char}
    (hr : '#' ∉ r) : scan 0 offset true (writtenAll ws ++ r) = placedAll offset ws := by
  induction ws generalizing offset with
  | nil => exact scan_eq_nil hr offset true
  | cons w ws ih =>
    rw [writtenAll_cons, List.append_assoc, List.append_assoc, scan_blanks w.isDataBlank,
      WrittenStatement.text, List.cons_append, List.append_assoc, List.singleton_append,
      scan_statement (w.sighting_body _), ih, placedAll, byteLength_append, ← Nat.add_assoc]
    rfl

/-- The statements of a content are those written behind its first section word. -/
theorem ofContent_content {front closing : List Char}
    (hfront : ¬ sectionStart <:+: front ++ sectionStart.dropLast) (hclosing : '#' ∉ closing)
    (ws : List WrittenStatement) :
    ofContent (content front ws closing) = placedAll (byteLength (front ++ sectionStart)) ws := by
  rw [content, ofContent_append hfront, scan_writtenAll ws _ hclosing]

end Statement

end Step

namespace EntityIndex

open Step Text WrittenStatement

/-- An entity is what the text of the last statement with its name is read as. -/
theorem get?_ofStatements (ss : List Statement) (id : EntityId) :
    get? (ofStatements ss) id = ((ss.reverse.find? (·.id == id)).map Statement.text).bind
      fun text => (Entity.parse text).toOption := by
  rw [get?, entry?_ofStatements, Option.bind_map, Option.bind_map]
  rfl

section

variable {front closing : List Char}
  (hfront : ¬ Statement.sectionStart <:+: front ++ Statement.sectionStart.dropLast)
  (hclosing : '#' ∉ closing)

include hfront hclosing

/-- Under a name, there is what the last statement with the name is read as. -/
theorem get?_content (ws : List WrittenStatement) (id : EntityId) :
    (EntityIndex.ofContent (content front ws closing)).get? id =
      (ws.reverse.find? (·.id == id)).bind entity? := by
  rw [EntityIndex.ofContent, Statement.ofContent_content hfront hclosing, get?_ofStatements,
    find?_placedAll, Option.bind_map]
  rfl

/-- A statement has no effect on other names. -/
theorem get?_content_of_ne (before : List WrittenStatement) (w : WrittenStatement)
    (after : List WrittenStatement) {id : EntityId} (h : w.id ≠ id) :
    (EntityIndex.ofContent (content front (before ++ w :: after) closing)).get? id =
      (EntityIndex.ofContent (content front (before ++ after) closing)).get? id := by
  rw [get?_content hfront hclosing, get?_content hfront hclosing]
  simp [List.find?_append, beq_false_of_ne h]

end

/-- Statements that are written behind the first section word of a content, with blanks between them
and no number sign behind them, are found in order, each one with its name, its tag and its bytes,
and nothing else is found. Under a name, there is what the last statement with the name is read as,
and nothing if there is no such statement or it is malformed. A statement, malformed or not, has no
effect on other names. -/
theorem statements_and_get?_content {front closing : List Char}
    (hfront : ¬ Statement.sectionStart <:+: front ++ Statement.sectionStart.dropLast)
    (hclosing : '#' ∉ closing) (ws : List WrittenStatement) :
    (Statement.ofContent (content front ws closing)).length = ws.length ∧
      (∀ before w after, ws = before ++ w :: after →
        let start := byteLength (front ++ (Statement.sectionStart ++ (writtenAll before ++ w.gap)))
        (Statement.ofContent (content front ws closing))[before.length]? = some
          ⟨w.id, String.ofList w.tag.chars, start, start + byteLength w.text, w.text⟩) ∧
      (∀ id, (EntityIndex.ofContent (content front ws closing)).get? id =
        (ws.reverse.find? (·.id == id)).bind fun w => (Entity.parse w.text).toOption) ∧
      ∀ before w after, ws = before ++ w :: after → ∀ id, w.id ≠ id →
        (EntityIndex.ofContent (content front ws closing)).get? id =
          (EntityIndex.ofContent (content front (before ++ after) closing)).get? id := by
  refine ⟨?_, fun before w after h => ?_, get?_content hfront hclosing ws,
    fun before w after h id hid => ?_⟩
  · rw [Statement.ofContent_content hfront hclosing, length_placedAll]
  · rw [Statement.ofContent_content hfront hclosing, h, getElem?_placedAll, placed]
    simp only [byteLength_append, Nat.add_assoc]
  · rw [h, get?_content_of_ne hfront hclosing before w after hid]

/-- A wall whose only value reads like another statement. -/
def quotingWall : WrittenStatement where
  gap := ['\n']
  isDataBlank := List.all_eq_true.1 (by decide)
  digits := ['1']
  digits_ne_nil := by decide
  isDigit := List.all_eq_true.1 (by decide)
  value_lt := by decide
  tag := ⟨"IfcWall".toList, by decide, List.all_eq_true.1 (by decide)⟩
  rest := "(' #3=IFCDOOR();')".toList
  head_rest := by rintro c ⟨⟩; decide
  closed := by decide
  quoted := by decide

/-- A slab whose parentheses do not match, with a reference that reads like another statement. -/
def brokenSlab : WrittenStatement where
  gap := [' ', '\t']
  isDataBlank := List.all_eq_true.1 (by decide)
  digits := ['2']
  digits_ne_nil := by decide
  isDigit := List.all_eq_true.1 (by decide)
  value_lt := by decide
  tag := ⟨"IFCSLAB".toList, by decide, List.all_eq_true.1 (by decide)⟩
  rest := "( #1=IFCDOOR((".toList
  head_rest := by rintro c ⟨⟩; decide
  closed := by decide
  quoted := by decide

/-- A roof under the name of the wall, written with zeros. -/
def laterRoof : WrittenStatement where
  gap := []
  isDataBlank := List.all_eq_true.1 (by decide)
  digits := ['0', '0', '1']
  digits_ne_nil := by decide
  isDigit := List.all_eq_true.1 (by decide)
  value_lt := by decide
  tag := ⟨"IFCROOF".toList, by decide, List.all_eq_true.1 (by decide)⟩
  rest := "($)".toList
  head_rest := by rintro c ⟨⟩; decide
  closed := by decide
  quoted := by decide

/-- Between a wall that quotes a door and a roof that replaces the wall, a malformed slab has no
entity, and none of the three makes a door. -/
theorem statements_and_get?_quotingWall :
    (¬ Statement.sectionStart <:+: "A;DAT".toList ++ Statement.sectionStart.dropLast) ∧
      '#' ∉ "\nENDSEC;".toList ∧
      ∃ s, s = content "A;DAT".toList [quotingWall, brokenSlab, laterRoof] "\nENDSEC;".toList ∧
        (Statement.ofContent s).length = 3 ∧
        (Statement.ofContent s)[1]? = some ⟨2, "IFCSLAB", 42, 67, brokenSlab.text⟩ ∧
        ((EntityIndex.ofContent s).get? 1).map Entity.type = some (.known .roof) ∧
        ((EntityIndex.ofContent s).get? 2).isNone ∧ ((EntityIndex.ofContent s).get? 3).isNone := by
  have hfront : ¬ Statement.sectionStart <:+: "A;DAT".toList ++ Statement.sectionStart.dropLast := by
    decide
  have hclosing : '#' ∉ "\nENDSEC;".toList := by decide
  obtain ⟨hlength, hplaced, hget, -⟩ :=
    statements_and_get?_content hfront hclosing [quotingWall, brokenSlab, laterRoof]
  refine ⟨hfront, hclosing, _, rfl, hlength, hplaced [quotingWall] _ _ rfl, ?_, ?_, ?_⟩
  · rw [hget]
    decide +kernel
  · rw [hget]
    decide +kernel
  · rw [hget]
    decide +kernel

end EntityIndex

end BuildingModel
