import BuildingModel.Sandbox.Regex
import BuildingModel.Sandbox.Tool.Basic

/-!
# Expressions in words

The program that gives the value of an expression whose operands and operators are words. A value is
a text, which may be an integer.
-/

namespace BuildingModel.Sandbox.Tool

/-- The integer that a value is. -/
def wordInteger? (s : String) : Option Int :=
  let (front, digits) : Int × List Char := match s.toList with
    | '-' :: rest => (-1, rest)
    | rest => (1, rest)
  if digits.isEmpty || !digits.all Char.isDigit then none
  else some (front * Text.digitsValue digits)

/-- Whether a value counts as none. -/
def isNothing (s : String) : Bool := s.isEmpty || wordInteger? s == some 0

/-- The operators of expressions in words, those that bind loosest first. -/
def wordRanks : List (List String) :=
  [["|"], ["&"], ["<", "<=", "=", "==", "!=", ">=", ">"], ["+", "-"], ["*", "/", "%"], [":"]]

/-- What a regular expression stands for at the front of a text: what its first group keeps, or how
long that is. -/
def matchValue (text expression : String) : Except String String := do
  let (r, groups) ← Regex.read false expression.toList
  let hasGroup := groups != 0
  match r.reachFar? { rest := text.toList } with
  | some s =>
    return if hasGroup then String.ofList ((s.texts.lookup 1).getD [])
      else toString s.passed.length
  | none => return if hasGroup then "" else "0"

/-- The value of two values under an operator. -/
def applyWords (op a b : String) : Except String String := do
  let truth (p : Bool) : String := if p then "1" else "0"
  let order : Ordering := match wordInteger? a, wordInteger? b with
    | some m, some n => compare m n
    | _, _ => compare a b
  match op with
  | "|" => return if isNothing a then (if isNothing b then "0" else b) else a
  | "&" => return if isNothing a || isNothing b then "0" else a
  | ":" => matchValue a b
  | "<" => return truth order.isLT
  | "<=" => return truth order.isLE
  | "=" | "==" => return truth order.isEq
  | "!=" => return truth order.isNe
  | ">=" => return truth order.isGE
  | ">" => return truth order.isGT
  | _ =>
    match wordInteger? a, wordInteger? b with
    | some m, some n =>
      match op with
      | "+" => return toString (m + n)
      | "-" => return toString (m - n)
      | "*" => return toString (m * n)
      | _ =>
        if n == 0 then throw "division by zero"
        return toString (if op == "/" then Int.tdiv m n else Int.tmod m n)
    | _, _ => throw "non-integer argument"

/-- Whether the second operand of an operator does not matter after the first one. -/
def isDecided (op a : String) : Bool :=
  (op == "|" && !isNothing a) || (op == "&" && isNothing a)

/-- How many words an operation with a name has after it. -/
def arity? (name : String) : Option Nat :=
  match name with
  | "length" => some 1
  | "match" | "index" => some 2
  | "substr" => some 3
  | _ => none

/-- The value of an operation with a name. -/
def applyNamed (name : String) (operands : List String) : Except String String :=
  match name, operands with
  | "length", [s] => .ok (toString s.length)
  | "match", [s, r] => matchValue s r
  | "index", [s, cs] =>
    .ok (toString (((s.toList.findIdx? cs.toList.contains).map (· + 1)).getD 0))
  | "substr", [s, first, length] =>
    match wordInteger? first, wordInteger? length with
    | some m, some n =>
      .ok (if m ≤ 0 || n ≤ 0 then ""
        else String.ofList ((s.toList.drop (m.toNat - 1)).take n.toNat))
    | _, _ => .ok ""
  | _, _ => .ok ""

/-- Reading an expression in words: its value, with what is left, after a word. -/
structure WordValue where
  /-- The value. -/
  value : String
  /-- The last word that was read. -/
  last : String
  /-- The words that are left. -/
  rest : List String

mutual

/-- The value of an expression whose operators are of the given ranks, after a word. What does not
matter is read but not worked out. -/
def wordValue : Nat → Bool → List (List String) → String → List String → Except String WordValue
  | 0, _, _, _, _ => .error "too deep"
  | n + 1, counts, [], before, words =>
    match words with
    | [] => .error ("syntax error: missing argument after " ++ quoted before)
    | "(" :: rest => do
      let v ← wordValue n counts wordRanks "(" rest
      match v.rest with
      | ")" :: rest => return ⟨v.value, ")", rest⟩
      | [] => throw ("syntax error: expecting ')' after " ++ quoted v.last)
      | other :: _ => throw ("syntax error: expecting ')' instead of " ++ quoted other)
    | ")" :: _ => .error "syntax error: unexpected ')'"
    | "+" :: rest =>
      match rest with
      | [] => .error "syntax error: missing argument after '+'"
      | s :: rest => .ok ⟨s, s, rest⟩
    | s :: rest =>
      match arity? s with
      | some k => do
        let (operands, last, rest) ← wordOperands n counts k s rest
        let value ← if counts then applyNamed s operands else pure ""
        return ⟨value, last, rest⟩
      | none => .ok ⟨s, s, rest⟩
  | n + 1, counts, ops :: tighter, before, words => do
    let v ← wordValue n counts tighter before words
    wordValueAfter n counts ops tighter v

/-- So many operands of an operation with a name, after a word. -/
def wordOperands : Nat → Bool → Nat → String → List String →
    Except String (List String × String × List String)
  | 0, _, _, _, _ => .error "too deep"
  | _, _, 0, before, words => .ok ([], before, words)
  | n + 1, counts, k + 1, before, words => do
    let v ← wordValue n counts [] before words
    let (others, last, rest) ← wordOperands n counts k v.last v.rest
    return (v.value :: others, last, rest)

/-- The value of an expression after its first part. -/
def wordValueAfter : Nat → Bool → List String → List (List String) → WordValue →
    Except String WordValue
  | 0, _, _, _, _ => .error "too deep"
  | n + 1, counts, ops, tighter, v =>
    match v.rest with
    | op :: rest => do
      if !ops.contains op then return v
      let counts' := counts && !isDecided op v.value
      let w ← wordValue n counts' tighter op rest
      let value ← if counts' then applyWords op v.value w.value
        else pure (if op == "&" then "0" else v.value)
      wordValueAfter n counts ops tighter ⟨value, w.last, w.rest⟩
    | [] => .ok v

end

/-- Writes the value of an expression in words. -/
def expr : Program := fun name words => do
  let words := if words.head? == some "--" then words.drop 1 else words
  if words.isEmpty then return ← misuse 2 name "missing operand"
  match wordValue (16 * words.length + 16) true wordRanks "" words with
  | .error message => failWith 2 name message
  | .ok v =>
    match v.rest with
    | extra :: _ => failWith 2 name ("syntax error: unexpected argument " ++ quoted extra)
    | [] =>
      sayLine v.value
      return if isNothing v.value then 1 else 0

end BuildingModel.Sandbox.Tool
