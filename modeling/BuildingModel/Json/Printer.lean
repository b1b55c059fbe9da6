import BuildingModel.Decimal.Shortest
import BuildingModel.Json.Basic

/-!
# JSON text

Two forms of one grammar: `compact` has no white space at all, `pretty` puts every item and field
on a line of its own, indented by two spaces a level. A string is written with the escapes that
JSON requires and no others.
-/

namespace BuildingModel.Json

/-- Doubles are written without an exponent when their leading digit stands for a power of ten from
-5 to 15. -/
def numberLayout : Decimal.Layout :=
  { leastPlain := -5, greatestPlain := 15 }

/-- A hexadecimal digit in lower case. -/
def hexDigit (n : Nat) : Char :=
  if n < 10 then Char.ofNat (48 + n) else Char.ofNat (87 + n)

/-- How a character is written within a string. -/
def escape (c : Char) : List Char :=
  match c with
  | '"' => ['\\', '"']
  | '\\' => ['\\', '\\']
  | '\x08' => ['\\', 'b']
  | '\x0c' => ['\\', 'f']
  | '\n' => ['\\', 'n']
  | '\r' => ['\\', 'r']
  | '\t' => ['\\', 't']
  | c =>
    if c.toNat < 0x20 then
      ['\\', 'u', '0', '0', hexDigit (c.toNat / 16), hexDigit (c.toNat % 16)]
    else [c]

/-- A string literal. -/
def literal (s : String) : List Char :=
  '"' :: s.toList.flatMap escape ++ ['"']

/-- A whole number. -/
def integer (n : Int) : List Char :=
  match n with
  | .ofNat n => Nat.toDigits 10 n
  | .negSucc n => '-' :: Nat.toDigits 10 (n + 1)

/-- The text of a value that holds no other values. -/
def scalar : Json → List Char
  | .null => ['n', 'u', 'l', 'l']
  | .bool true => ['t', 'r', 'u', 'e']
  | .bool false => ['f', 'a', 'l', 's', 'e']
  | .int n => integer n
  | .real x => Decimal.text numberLayout x
  | .text s => literal s
  | .array _ => []
  | .object _ => []

mutual

/-- The text of a value without white space. -/
def compactChars : Json → List Char
  | .array items => '[' :: compactItems items ++ [']']
  | .object fields => '{' :: compactFields fields ++ ['}']
  | v => scalar v

/-- The items of an array, separated by commas. -/
def compactItems : List Json → List Char
  | [] => []
  | [v] => compactChars v
  | v :: vs => compactChars v ++ ',' :: compactItems vs

/-- The fields of an object, separated by commas. -/
def compactFields : List (String × Json) → List Char
  | [] => []
  | [(k, v)] => literal k ++ ':' :: compactChars v
  | (k, v) :: fs => literal k ++ ':' :: compactChars v ++ ',' :: compactFields fs

end

/-- The start of a line at a level of nesting. -/
def newline (level : Nat) : List Char :=
  '\n' :: List.replicate (2 * level) ' '

mutual

/-- The text of a value over several lines, its items at `level + 1`. -/
def prettyChars (level : Nat) : Json → List Char
  | .array [] => ['[', ']']
  | .array items => '[' :: prettyItems (level + 1) items ++ newline level ++ [']']
  | .object [] => ['{', '}']
  | .object fields => '{' :: prettyFields (level + 1) fields ++ newline level ++ ['}']
  | v => scalar v

/-- The items of an array, each on a line of its own. -/
def prettyItems (level : Nat) : List Json → List Char
  | [] => []
  | [v] => newline level ++ prettyChars level v
  | v :: vs => newline level ++ prettyChars level v ++ ',' :: prettyItems level vs

/-- The fields of an object, each on a line of its own. -/
def prettyFields (level : Nat) : List (String × Json) → List Char
  | [] => []
  | [(k, v)] => newline level ++ literal k ++ ':' :: ' ' :: prettyChars level v
  | (k, v) :: fs =>
    newline level ++ literal k ++ ':' :: ' ' :: prettyChars level v ++ ',' :: prettyFields level fs

end

/-- The text of a value without white space. -/
def compact (v : Json) : String :=
  String.ofList (compactChars v)

/-- The text of a value over several lines. -/
def pretty (v : Json) : String :=
  String.ofList (prettyChars 0 v)

end BuildingModel.Json
