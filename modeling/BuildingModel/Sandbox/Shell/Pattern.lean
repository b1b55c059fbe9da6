/-!
# Patterns

A pattern of the shell stands for texts: an asterisk for any text, a question mark for any
character, and brackets for one of several characters. What is quoted stands for itself.
-/

namespace BuildingModel.Sandbox.Shell

/-- What a pattern asks of a character. -/
inductive Member where
  /-- To be between two characters. -/
  | range (low high : Char)
  /-- To be in a class. -/
  | kind (name : String)
deriving DecidableEq, Repr

/-- A piece of a pattern. -/
inductive Piece where
  /-- A character. -/
  | one (c : Char)
  /-- Any character. -/
  | any
  /-- Any text. -/
  | many
  /-- A character that is a member, or one that is not. -/
  | set (negated : Bool) (members : List Member)
deriving DecidableEq, Repr

/-- Whether a character is in a class. -/
def isKind (name : String) (c : Char) : Bool :=
  match name with
  | "alpha" => c.isAlpha
  | "digit" => c.isDigit
  | "alnum" => c.isAlphanum
  | "upper" => c.isUpper
  | "lower" => c.isLower
  | "space" => " \t\n\x0b\x0c\r".contains c
  | "blank" => c == ' ' || c == '\t'
  | "punct" => '!' ≤ c && c ≤ '~' && !c.isAlphanum
  | "print" => ' ' ≤ c && c ≤ '~'
  | "graph" => '!' ≤ c && c ≤ '~'
  | "cntrl" => c < ' ' || c == '\x7f'
  | "xdigit" => c.isDigit || ('a' ≤ c.toLower && c.toLower ≤ 'f')
  | _ => false

/-- Whether a character is what a pattern asks for. -/
def Member.holds (c : Char) : Member → Bool
  | .range low high => low ≤ c && c ≤ high
  | .kind name => isKind name c

/-- Whether a piece that stands for a character stands for this one. -/
def Piece.accepts (c : Char) : Piece → Bool
  | .one d => c == d
  | .any => true
  | .many => false
  | .set negated members => members.any (Member.holds c) != negated

/-- A character, with whether it stands for itself. -/
abbrev PatternChar := Char × Bool

/-- Whether a character means something. -/
def isActive (c : Char) (p : PatternChar) : Bool := p.1 == c && !p.2

/-- The members between brackets and how many characters they take with the closing bracket, which
the first character cannot be. -/
def members? (first : Bool) : List PatternChar → Option (List Member × Nat)
  | [] => none
  | ('[', false) :: (':', false) :: rest =>
    let name := (rest.takeWhile (·.1 != ':')).map (·.1)
    let after := rest.drop name.length
    if (after.take 2).map (·.1) == [':', ']'] then
      (members? false (after.drop 2)).map fun (ms, n) =>
        (.kind (String.ofList name) :: ms, n + name.length + 4)
    else (members? false ((':', false) :: rest)).map fun (ms, n) => (.range '[' '[' :: ms, n + 1)
  | (c, quoted) :: (d, dash) :: e :: rest =>
    if c == ']' && !quoted && !first then some ([], 1)
    else if d == '-' && !dash && !isActive ']' e then
      (members? false rest).map fun (ms, n) => (.range c e.1 :: ms, n + 3)
    else (members? false ((d, dash) :: e :: rest)).map fun (ms, n) => (.range c c :: ms, n + 1)
  | (c, quoted) :: rest =>
    if c == ']' && !quoted && !first then some ([], 1)
    else (members? false rest).map fun (ms, n) => (.range c c :: ms, n + 1)
termination_by s => s.length
decreasing_by all_goals simp_wf <;> omega

/-- The pieces of a pattern. In the extended shell a caret denies what brackets hold, as an
exclamation mark does. -/
def pieces (extended : Bool) : List PatternChar → List Piece
  | [] => []
  | ('*', false) :: rest => .many :: pieces extended rest
  | ('?', false) :: rest => .any :: pieces extended rest
  | ('[', false) :: rest =>
    let negated := rest.head?.any fun c => isActive '!' c || (extended && isActive '^' c)
    let skipped := if negated then 1 else 0
    match members? true (rest.drop skipped) with
    | some (members, n) => .set negated members :: pieces extended (rest.drop (skipped + n))
    | none => .one '[' :: pieces extended rest
  | (c, _) :: rest => .one c :: pieces extended rest
termination_by s => s.length
decreasing_by all_goals simp_wf <;> omega

/-- The ends of a text, from the whole text on. -/
def ends : List Char → List (List Char)
  | [] => [[]]
  | c :: rest => (c :: rest) :: ends rest

/-- Whether a pattern stands for a text. -/
def stands : List Piece → List Char → Bool
  | [], s => s.isEmpty
  | [.many], _ => true
  | .many :: rest, s => (ends s).any (stands rest)
  | piece :: rest, c :: s => piece.accepts c && stands rest s
  | _ :: _, [] => false

/-- A text without what a pattern stands for at its front. -/
def dropFront (longest : Bool) (p : List Piece) (s : List Char) : List Char :=
  let cuts := List.range (s.length + 1)
  let cut := (if longest then cuts.reverse else cuts).find? fun n => stands p (s.take n)
  s.drop (cut.getD 0)

/-- A text without what a pattern stands for at its end. -/
def dropBack (longest : Bool) (p : List Piece) (s : List Char) : List Char :=
  let cuts := List.range (s.length + 1)
  let cut := (if longest then cuts else cuts.reverse).find? fun n => stands p (s.drop n)
  s.take (cut.getD s.length)

/-- A text with another one in place of what a pattern stands for, at every place or at the first. A
piece of the text that is passed over counts against the number of steps. -/
def replaceWithin (all : Bool) (p : List Piece) (replacement : List Char) :
    Nat → List Char → List Char
  | 0, s => s
  | _, [] => []
  | n + 1, c :: s =>
    let found := (List.range (s.length + 1)).reverse.find? fun k => stands p ((c :: s).take (k + 1))
    match found with
    | some k =>
      let rest := s.drop k
      replacement ++ if all then replaceWithin all p replacement n rest else rest
    | none => c :: replaceWithin all p replacement n s

/-- Whether a pattern may stand for more than one text. -/
def isPattern (s : List PatternChar) : Bool :=
  s.any fun c => isActive '*' c || isActive '?' c || isActive '[' c

end BuildingModel.Sandbox.Shell
