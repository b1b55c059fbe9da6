import BuildingModel.Sandbox.Tool.Rules.Bench

/-!
# Formats with values

A format is written with values, each under the directive that is meant for it.
-/

namespace BuildingModel.Sandbox.Tool.Rules

/-- How directives are read. -/
def directiveRules : Shell.FormatRules := { modifiers := "hlLqjzt" }

/-- The character that a value stands for. -/
def charOf : Value → Char
  | .text s => s.toList.headD '\x00'
  | v => Char.ofNat ((integerPart v.toNumber) % 256).toNat

/-- What is said of a format for which there are not enough values. -/
def lacking (format : String) : String :=
  "not enough arguments passed to printf(\"" ++ format ++ "\")"

/-- What is said of a directive that makes no sense. -/
def improper (n : Nat) (format : String) : String :=
  "improper conversion(number " ++ toString n ++ ") in printf(\"" ++ format ++ "\")"

/-- A size in a directive, which may be a value; and the values that are left, if there are
enough. -/
def takeSize? (size : Shell.Size) (vs : List Value) : Option (Option Int × List Value) :=
  match size, vs with
  | .none, vs => some (none, vs)
  | .some n, vs => some (some n, vs)
  | .argument, v :: rest => some (some (integerPart v.toNumber), rest)
  | .argument, [] => none

/-- The text of a value under a conversion. -/
def converted (flags : List Char) (width : Nat) (precision : Option Nat) (conversion : Char)
    (v : Value) : Working (List Char) := do
  match conversion with
  | 's' =>
    let s := (← textOf v).toList
    return Shell.pad flags width (match precision with
      | some n => s.take n
      | none => s)
  | 'c' => return Shell.pad flags width [charOf v]
  | 'd' | 'i' | 'o' | 'u' | 'x' | 'X' =>
    return Shell.integerText flags width precision conversion (integerPart v.toNumber)
  | c => return realText flags width precision c v.toNumber

/-- The pieces of a format with values, the last first, and what is wrong after them. There is a
step for each character, and directives are counted. -/
def formatFrom (format : String) :
    Nat → Nat → List (List Char) → List Char → List Value →
      Working (List (List Char) × Option String)
  | 0, _, pieces, _, _ | _, _, pieces, [], _ => return (pieces, none)
  | steps + 1, n, pieces, '%' :: '%' :: s, vs => formatFrom format steps n (['%'] :: pieces) s vs
  | steps + 1, n, pieces, '%' :: s, vs => do
    match Shell.directive directiveRules s with
    | (.directive flags width precision conversion, length) =>
      if conversion == 'b' then return (pieces, some (improper n format))
      let some (width, vs) := takeSize? width vs | return (pieces, some (lacking format))
      let some (precision, vs) := takeSize? precision vs | return (pieces, some (lacking format))
      let flags := if width.any (· < 0) then '-' :: flags else flags
      let precision := precision.bind fun n => if n < 0 then none else some n.toNat
      match vs with
      | [] => return (pieces, some (lacking format))
      | v :: vs =>
        let text ← converted flags (width.getD 0).natAbs precision conversion v
        formatFrom format steps (n + 1) (text :: pieces) (s.drop length) vs
    | _ => return (pieces, some (improper n format))
  | steps + 1, n, pieces, c :: s, vs =>
    let run := c :: s.takeWhile (· != '%')
    formatFrom format steps n (run :: pieces) (s.drop (run.length - 1)) vs

/-- A format, which is the first of some values, with the other ones; and what is wrong with it
where the text ends. -/
def formatted (vs : List Value) : Working (String × Option String) := do
  match vs with
  | [] => return ("", none)
  | first :: rest =>
    let format ← textOf first
    let (pieces, fault) ← formatFrom format format.length 1 [] format.toList rest
    return (String.ofList pieces.reverse.flatten, fault)

end BuildingModel.Sandbox.Tool.Rules
