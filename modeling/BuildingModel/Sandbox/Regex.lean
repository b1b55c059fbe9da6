import BuildingModel.Sandbox.Shell.Pattern
import BuildingModel.Text.Digits

/-!
# Regular expressions

A regular expression stands for texts. `Regex.read` reads one, in the basic or in the extended
notation; `Regex.find?` seeks the first place in a text where it stands, and takes as much of the
text as it can. What stands between parentheses is kept.
-/

namespace BuildingModel.Sandbox

/-- A regular expression. -/
inductive Regex where
  /-- The empty text. -/
  | nothing
  /-- A character. -/
  | one (piece : Shell.Piece)
  /-- The start of the text. -/
  | start
  /-- The end of the text. -/
  | stop
  /-- An edge of a word, where one may begin or end. -/
  | edge (begins ends : Bool)
  /-- A part whose text is kept under a number. -/
  | group (n : Nat) (part : Regex)
  /-- The text that is kept under a number. -/
  | kept (n : Nat)
  /-- One part after the other. -/
  | sequence (first second : Regex)
  /-- One part or the other. -/
  | either (first second : Regex)
  /-- A part several times, at least so often and at most so often. -/
  | repeated (low : Nat) (high : Option Nat) (part : Regex)
deriving DecidableEq, Repr, Inhabited

namespace Regex

/-! ## Places in a text -/

/-- A place in a text. -/
structure Spot where
  /-- What is before it, the last character first. -/
  passed : List Char := []
  /-- What is after it. -/
  rest : List Char
  /-- The texts that are kept, the last first. -/
  texts : List (Nat × List Char) := []
deriving DecidableEq, Repr, Inhabited

namespace Spot

/-- The text between a place and a later one. -/
def upTo (a b : Spot) : List Char :=
  (b.passed.take (b.passed.length - a.passed.length)).reverse

/-- A place so many characters later. -/
def advance (n : Nat) (s : Spot) : Spot :=
  { s with passed := (s.rest.take n).reverse ++ s.passed, rest := s.rest.drop n }

end Spot

/-- Whether a character belongs to a word. -/
def isWordChar (c : Char) : Bool := c.isAlphanum || c == '_'

/-- The places that are reached by steps, at least so many and at most so many. A step has to go on
in the text unless it is needed. The number of steps is limited by the first argument. -/
def again (step : Spot → List Spot) : Nat → Nat → Option Nat → Spot → List Spot
  | 0, _, _, s => [s]
  | n + 1, low, high, s =>
    if high == some 0 then [s]
    else
      let next := (step s).filter fun t => low != 0 || t.rest.length < s.rest.length
      let more := next.flatMap (again step n (low - 1) (high.map (· - 1)))
      if low != 0 then more else more ++ [s]

/-- The places where a regular expression may end that begins at a place. -/
def reach : Regex → Spot → List Spot
  | .nothing, s => [s]
  | .one piece, s =>
    match s.rest with
    | c :: _ => if piece.accepts c then [s.advance 1] else []
    | [] => []
  | .start, s => if s.passed.isEmpty then [s] else []
  | .stop, s => if s.rest.isEmpty then [s] else []
  | .edge begins ends, s =>
    let before := s.passed.head?.any isWordChar
    let after := s.rest.head?.any isWordChar
    if (begins && !before && after) || (ends && before && !after) then [s] else []
  | .group n part, s =>
    (part.reach s).map fun t => { t with texts := (n, s.upTo t) :: t.texts }
  | .kept n, s =>
    let text := (s.texts.lookup n).getD []
    if text.isPrefixOf s.rest then [s.advance text.length] else []
  | .sequence a b, s => (a.reach s).flatMap b.reach
  | .either a b, s => a.reach s ++ b.reach s
  | .repeated low high part, s => again part.reach (s.rest.length + low + 1) low high s

/-- The last place where a regular expression may end that begins at a place, of those that are as
asked. -/
def reachFar? (r : Regex) (s : Spot) (asked : Spot → Bool := fun _ => true) : Option Spot :=
  (r.reach s).foldl
    (fun best t =>
      if !asked t then best
      else match best with
        | some b => if t.passed.length > b.passed.length then some t else best
        | none => some t) none

/-- The first place from the given one on where a regular expression may begin, with the last place
where it may end. The number of places is limited by the first argument. -/
def findFrom? (r : Regex) (asked : Spot → Spot → Bool) : Nat → Spot → Option (Spot × Spot)
  | 0, _ => none
  | n + 1, s =>
    match r.reachFar? s (asked s) with
    | some t => some (s, t)
    | none => if s.rest.isEmpty then none else findFrom? r asked n (s.advance 1)

/-- The first place from the given one on where a regular expression stands: where it begins and
where it ends, both as asked. -/
def find? (r : Regex) (s : Spot) (asked : Spot → Spot → Bool := fun _ _ => true) :
    Option (Spot × Spot) :=
  r.findFrom? asked (s.rest.length + 1) { s with texts := [] }

/-! ## Case -/

/-- What stands for the letters that a member stands for in the other case. -/
def swapped : Shell.Member → List Shell.Member
  | .range low high =>
    let within (first last : Char) (swap : Char → Char) : List Shell.Member :=
      let a := if low < first then first else low
      let b := if last < high then last else high
      if a ≤ b then [.range (swap a) (swap b)] else []
    within 'a' 'z' Char.toUpper ++ within 'A' 'Z' Char.toLower
  | .kind "upper" => [.kind "lower"]
  | .kind "lower" => [.kind "upper"]
  | .kind _ => []

/-- A regular expression to which case does not matter. -/
def folded : Regex → Regex
  | .one (.one c) =>
    if c.isAlpha then .one (.set false [.range c.toLower c.toLower, .range c.toUpper c.toUpper])
    else .one (.one c)
  | .one (.set negated members) => .one (.set negated (members ++ members.flatMap swapped))
  | .group n part => .group n part.folded
  | .sequence a b => .sequence a.folded b.folded
  | .either a b => .either a.folded b.folded
  | .repeated low high part => .repeated low high part.folded
  | r => r

/-! ## Reading -/

/-- What is read: a regular expression, how many groups there are, and what is left. -/
abbrev Reading := Except String (Regex × Nat × List Char)

/-- A character that stands for itself. -/
def literal (c : Char) : Regex := .one (.one c)

/-- A character of a class, or one that is not. -/
def ofKind (negated : Bool) (members : List Shell.Member) : Regex := .one (.set negated members)

/-- What a backslash before a character stands for, other than the character. -/
def escaped? (c : Char) : Option Regex :=
  let word : List Shell.Member := [.kind "alnum", .range '_' '_']
  match c with
  | 'w' => some (ofKind false word)
  | 'W' => some (ofKind true word)
  | 's' => some (ofKind false [.kind "space"])
  | 'S' => some (ofKind true [.kind "space"])
  | 'b' => some (.edge true true)
  | '<' => some (.edge true false)
  | '>' => some (.edge false true)
  | '\x60' => some .start
  | '\'' => some .stop
  | _ => none

/-- The bounds between braces, and how many characters they have. -/
def bounds? (s : List Char) : Option (Nat × Option Nat × Nat) :=
  let low := s.takeWhile Char.isDigit
  let rest := s.drop low.length
  if rest.head? == some ',' then
    let high := (rest.drop 1).takeWhile Char.isDigit
    let n := low.length + 1 + high.length
    some (Text.digitsValue low, if high.isEmpty then none else some (Text.digitsValue high), n)
  else if low.isEmpty then none
  else some (Text.digitsValue low, some (Text.digitsValue low), low.length)

/-- A part with the marks after it that tell how often it stands. There is a step for each mark. -/
def marked (extended : Bool) : Nat → Regex → List Char → Except String (Regex × List Char)
  | 0, r, s => .ok (r, s)
  | n + 1, r, s =>
    let (mark, rest) : Option Char × List Char := match extended, s with
      | _, '*' :: rest => (some '*', rest)
      | true, c :: rest => if "+?\x7b".contains c then (some c, rest) else (none, s)
      | false, '\\' :: c :: rest => if "+?\x7b".contains c then (some c, rest) else (none, s)
      | _, _ => (none, s)
    match mark with
    | some '*' => marked extended n (.repeated 0 none r) rest
    | some '+' => marked extended n (.repeated 1 none r) rest
    | some '?' => marked extended n (.repeated 0 (some 1) r) rest
    | some _ =>
      let brace := if extended then ['\x7d'] else ['\\', '\x7d']
      match bounds? rest with
      | some (low, high, length) =>
        let rest := rest.drop length
        if high.any (· < low) then .error "Invalid content of \\\x7b\\\x7d"
        else if brace.isPrefixOf rest then
          marked extended n (.repeated low high r) (rest.drop brace.length)
        else if rest.isEmpty then .error "Unmatched \\\x7b"
        else .error "Invalid content of \\\x7b\\\x7d"
      | none =>
        if extended then .ok (r, s)
        else if rest.isEmpty then .error "Unmatched \\\x7b"
        else .error "Invalid content of \\\x7b\\\x7d"
    | none => .ok (r, s)

/-- What is wrong with a member of a set. -/
def memberFault? : Shell.Member → Option String
  | .range low high => if high < low then some "Invalid range end" else none
  | .kind name =>
    if ["alnum", "alpha", "blank", "cntrl", "digit", "graph", "lower", "print", "punct", "space",
        "upper", "xdigit"].contains name then none
    else some "Invalid character class name"

/-- Whether an end of the text, or of a part of it, is near. -/
def isNearEnd (s : List Char) : Bool :=
  s.isEmpty || ['\\', ')'].isPrefixOf s || ['\\', '|'].isPrefixOf s

mutual

/-- Reads alternatives within so many parentheses. -/
def alternatives (extended : Bool) : Nat → Nat → Nat → List Char → Reading
  | 0, _, _, _ => .error "Regular expression too big"
  | n + 1, depth, count, s => do
    let (a, count, rest) ← sequences extended n depth count true .nothing s
    let bar := if extended then ['|'] else ['\\', '|']
    if bar.isPrefixOf rest then
      let (b, count, rest) ← alternatives extended n depth count (rest.drop bar.length)
      return (.either a b, count, rest)
    return (a, count, rest)

/-- Reads one part after another, the first of which may have no marks. -/
def sequences (extended : Bool) : Nat → Nat → Nat → Bool → Regex → List Char → Reading
  | 0, _, _, _, _, _ => .error "Regular expression too big"
  | _, depth, count, _, before, [] =>
    if depth == 0 then .ok (before, count, []) else .error "Unmatched ( or \\("
  | n + 1, depth, count, first, before, s => do
    let isMark (c : Char) : Bool :=
      if extended then s.head? == some c else ['\\', c].isPrefixOf s
    if isMark '|' then return (before, count, s)
    if isMark ')' then
      if depth == 0 then throw "Unmatched ) or \\)"
      return (before, count, s)
    let isAnchor := s.head? == some '^' && (extended || first)
    let (part, count, rest) ← partOf extended n depth count first s
    let (part, rest) ← if isAnchor && !extended then pure (part, rest)
      else marked extended rest.length part rest
    let joined := if before == .nothing then part else .sequence before part
    sequences extended n depth count isAnchor joined rest

/-- Reads a part. -/
def partOf (extended : Bool) : Nat → Nat → Nat → Bool → List Char → Reading
  | 0, _, _, _, _ => .error "Regular expression too big"
  | n + 1, depth, count, first, s =>
    let opening := if extended then ['('] else ['\\', '(']
    if opening.isPrefixOf s then do
      let number := count + 1
      let (part, count, rest) ←
        alternatives extended n (depth + 1) number (s.drop opening.length)
      return (.group number part, count, rest.drop opening.length)
    else
      match s with
      | ['\\'] => .error "Trailing backslash"
      | '\\' :: c :: rest =>
        if c.isDigit && c != '0' then
          let number := Text.digitValue c
          if number ≤ count then .ok (.kept number, count, rest)
          else .error "Invalid back reference"
        else .ok ((escaped? c).getD (literal c), count, rest)
      | '[' :: rest =>
        let negated := rest.head? == some '^'
        let skipped := if negated then 1 else 0
        match Shell.members? true ((rest.drop skipped).map (·, false)) with
        | some (members, length) =>
          match members.findSome? memberFault? with
          | some fault => .error fault
          | none => .ok (ofKind negated members, count, rest.drop (skipped + length))
        | none => .error "Unmatched [, [^, [:, [., or [="
      | '.' :: rest => .ok (.one .any, count, rest)
      | '^' :: rest =>
        .ok (if extended || first then .start else literal '^', count, rest)
      | '$' :: rest =>
        .ok (if extended || isNearEnd rest then .stop else literal '$', count, rest)
      | c :: rest => .ok (literal c, count, rest)
      | [] => .ok (.nothing, count, [])

end

/-- Reads a regular expression in the basic or in the extended notation, with how many groups it
has. -/
def read (extended : Bool) (s : List Char) : Except String (Regex × Nat) :=
  (alternatives extended (4 * s.length + 4) 0 0 s).map fun (r, count, _) => (r, count)

end Regex

end BuildingModel.Sandbox
