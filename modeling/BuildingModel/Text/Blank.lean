/-!
# Blank characters

Three sets of blank characters meet in an exchange file. The white space of Unicode may stand
before a record and around a type name, a record itself allows four characters between its
tokens, and the data section allows five around an instance name.
-/

namespace BuildingModel.Text

/-- The characters with the Unicode property White_Space. -/
def isBlank (c : Char) : Bool :=
  let n := c.toNat
  (0x09 ≤ n && n ≤ 0x0D) || n == 0x20 || n == 0x85 || n == 0xA0 || n == 0x1680
    || (0x2000 ≤ n && n ≤ 0x200A) || n == 0x2028 || n == 0x2029 || n == 0x202F || n == 0x205F
    || n == 0x3000

/-- The blanks allowed between the tokens of a record: space, tab, carriage return, line feed. -/
def isRecordBlank (c : Char) : Bool :=
  c == ' ' || c == '\t' || c == '\r' || c == '\n'

/-- The blanks allowed around the instance names of a data section: those of a record, and the
form feed. -/
def isDataBlank (c : Char) : Bool :=
  isRecordBlank c || c == '\x0c'

/-- The text without its leading white space. -/
def trimLeft (s : List Char) : List Char :=
  s.dropWhile isBlank

/-- The text without its trailing white space. -/
def trimRight (s : List Char) : List Char :=
  (s.reverse.dropWhile isBlank).reverse

/-- The text without white space at either end. -/
def trim (s : List Char) : List Char :=
  trimRight (trimLeft s)

theorem isBlank_of_isRecordBlank {c : Char} (h : isRecordBlank c = true) : isBlank c = true := by
  simp only [isRecordBlank, Bool.or_eq_true, beq_iff_eq] at h
  rcases h with ((rfl | rfl) | rfl) | rfl <;> decide

end BuildingModel.Text
