import BuildingModel.Text.Digits
import BuildingModel.Text.Search

/-!
# String literals

The body of a string literal writes characters outside its own alphabet by escapes: a doubled
apostrophe or backslash for one, `\S\c` for the character 128 above `c`, `\X\hh` for an 8-bit code,
`\X2\` and `\X4\` for groups of UTF-16 units and of code points up to `\X0\`, and `\Px\` for the
choice of a code page, which stands for no character. `decode` resolves the escapes and leaves
everything else, malformed escapes included, as it is.
-/

namespace BuildingModel.Step

/-- The character that replaces a code without one. -/
def replacementChar : Char := '\uFFFD'

/-- The character of a code point, or the replacement character. -/
def charOfCode (n : Nat) : Char :=
  if h : n.isValidChar then Char.ofNatAux n h else replacementChar

/-- The value of a run of hexadecimal digits, the most significant first. -/
def hexValue? (start : Nat) : List Char → Option Nat
  | [] => some start
  | c :: r =>
    match Text.hexDigit? c with
    | some d => hexValue? (start * 16 + d) r
    | none => none

/-- The number a group of digits stands for. A plus sign may take the place of the first digit. -/
def group? : List Char → Option Nat
  | '+' :: c :: r => hexValue? 0 (c :: r)
  | ['+'] => none
  | [] => none
  | ds => hexValue? 0 ds

/-- The first `count` groups of `width` characters. -/
def groups (width : Nat) : (count : Nat) → List Char → List (List Char)
  | 0, _ => []
  | count + 1, s => s.take width :: groups width count (s.drop width)

/-- The characters of a sequence of UTF-16 units. A surrogate without its partner is replaced. -/
def ofUnits : List Nat → List Char
  | [] => []
  | u :: v :: r =>
    if 0xD800 ≤ u && u < 0xDC00 && 0xDC00 ≤ v && v < 0xE000 then
      charOfCode (0x10000 + (u - 0xD800) * 0x400 + (v - 0xDC00)) :: ofUnits r
    else charOfCode u :: ofUnits (v :: r)
  | [u] => [charOfCode u]

/-- The word that ends the groups of a wide escape. -/
def wideEnd : List Char := ['\\', 'X', '0', '\\']

/-- The characters of a wide escape with groups of `width` digits, from the text after its opening,
and the number of characters it takes from there. -/
def wide? (width : Nat) (s : List Char) : Option (List Char × Nat) :=
  match Text.afterFirst? wideEnd s with
  | none => none
  | some _ =>
    let body := Text.beforeFirst wideEnd [] s
    if body.isEmpty || body.length % width != 0 || body.any (0x80 ≤ ·.toNat) then none
    else
      match (groups width (body.length / width) body).mapM group? with
      | none => none
      | some codes =>
        let chars := if width == 4 then ofUnits codes else codes.map charOfCode
        some (chars, body.length + 4)

/-- What the escape at the front of the text stands for, and how many characters it takes. -/
def escape? : List Char → Option (List Char × Nat)
  | '\'' :: '\'' :: _ => some (['\''], 2)
  | '\\' :: '\\' :: _ => some (['\\'], 2)
  | '\\' :: 'S' :: '\\' :: c :: _ =>
    if c.toNat < 0x80 then some ([Char.ofNat (c.toNat + 128)], 4) else none
  | '\\' :: 'X' :: '2' :: '\\' :: r => (wide? 4 r).map fun p => (p.1, p.2 + 4)
  | '\\' :: 'X' :: '4' :: '\\' :: r => (wide? 8 r).map fun p => (p.1, p.2 + 4)
  | '\\' :: 'X' :: '\\' :: a :: b :: _ => (group? [a, b]).map fun n => ([Char.ofNat n], 5)
  | '\\' :: 'P' :: c :: '\\' :: _ => if c.toNat < 0x80 then some ([], 4) else none
  | _ => none

/-- The characters of a literal after the first `skip`, which belong to an escape already
resolved. -/
def decodeFrom : (skip : Nat) → List Char → List Char
  | _, [] => []
  | skip + 1, _ :: r => decodeFrom skip r
  | 0, c :: r =>
    match escape? (c :: r) with
    | some (chars, n) => chars ++ decodeFrom (n - 1) r
    | none => c :: decodeFrom 0 r

/-- The characters that the body of a string literal stands for. -/
def decode (s : List Char) : List Char :=
  decodeFrom 0 s

theorem decodeFrom_eq_drop (n : Nat) (s : List Char) : decodeFrom n s = decode (s.drop n) := by
  induction s generalizing n with
  | nil => cases n <;> simp [decode, decodeFrom]
  | cons c r ih =>
    cases n with
    | zero => rfl
    | succ n => simpa [decodeFrom] using ih n

end BuildingModel.Step
