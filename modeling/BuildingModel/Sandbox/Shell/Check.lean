import BuildingModel.Sandbox.Regex
import BuildingModel.Sandbox.Shell.Expansion

/-!
# Tests of words

The extended shell tests words between double brackets. They are not split, operators join the
tests, and the right side of an equation is a pattern.
-/

namespace BuildingModel.Sandbox.Shell

/-- A word of a test. -/
structure TestWord where
  /-- Its characters, if it is neither quoted nor expanded. -/
  plain : Option String
  /-- What it is expanded to. -/
  text : String
  /-- The pattern that it is. -/
  pattern : List Piece

namespace TestWord

/-- Reading a test: whether it holds, with what is left of it. -/
abbrev Reading := Except String (Bool × List TestWord)

/-- Whether a word is an operator. -/
def isPlain (s : String) (w : TestWord) : Bool := w.plain == some s

/-- Whether an operator holds between two words. -/
def compare (t : FileTree) (op : String) (a b : TestWord) : Except String Bool :=
  match op with
  | "=" | "==" => .ok (stands b.pattern a.text.toList)
  | "!=" => .ok (!stands b.pattern a.text.toList)
  | "=~" => do
    let (r, _) ← Regex.read true b.text.toList
    return (r.find? { rest := a.text.toList }).isSome
  | _ => (Condition.binary true t op a.text b.text).mapError Condition.Fault.text

mutual

/-- Alternatives. -/
def alternatives (t : FileTree) : Nat → List TestWord → Reading
  | 0, _ => .error "too deep"
  | n + 1, words => do
    let (a, rest) ← conjuncts t n words
    match rest with
    | w :: rest =>
      if !w.isPlain "||" then return (a, w :: rest)
      let (b, rest) ← alternatives t n rest
      return (a || b, rest)
    | [] => return (a, [])

/-- Conjuncts. -/
def conjuncts (t : FileTree) : Nat → List TestWord → Reading
  | 0, _ => .error "too deep"
  | n + 1, words => do
    let (a, rest) ← primary t n words
    match rest with
    | w :: rest =>
      if !w.isPlain "&&" then return (a, w :: rest)
      let (b, rest) ← conjuncts t n rest
      return (a && b, rest)
    | [] => return (a, [])

/-- A test that may be denied. -/
def primary (t : FileTree) : Nat → List TestWord → Reading
  | 0, _ | _, [] => .error "syntax error in conditional expression"
  | n + 1, w :: rest => do
    if w.isPlain "!" then
      let (a, rest) ← primary t n rest
      return (!a, rest)
    if w.isPlain "(" then
      let (a, rest) ← alternatives t n rest
      return (a, rest.drop 1)
    match rest with
    | op :: b :: rest =>
      if (op.plain).any ("=~" :: Condition.binaryOperators true).contains then
        return (← compare t op.text w b, rest)
      if (w.plain).any Condition.unaryOperators.contains then
        return (Condition.unary t w.text op.text, b :: rest)
      return (!w.text.isEmpty, op :: b :: rest)
    | [a] =>
      if (w.plain).any Condition.unaryOperators.contains then
        return (Condition.unary t w.text a.text, [])
      return (!w.text.isEmpty, [a])
    | [] => return (!w.text.isEmpty, [])

end

end TestWord

/-- Tests words. -/
def check (run : Runner) (words : List (List Part)) : Run Unit := do
  let mut expanded := #[]
  for word in words do
    let glyphs ← expandWord run word
    expanded := expanded.push (⟨plain? word, Glyph.text glyphs, pieces true (Glyph.pattern glyphs)⟩)
  match TestWord.alternatives (← tree) (4 * words.length + 4) expanded.toList with
  | .ok (holds, _) => setStatus (if holds then 0 else 1)
  | .error message =>
    complain message
    setStatus 2

end BuildingModel.Sandbox.Shell
