import BuildingModel.Sandbox.Shell.Command
import BuildingModel.Text.Digits

/-!
# Braces

In the extended shell a word with braces stands for several words, one for each text between commas,
or one for each member of a range.
-/

namespace BuildingModel.Sandbox.Shell.Braces

/-- A piece of a word: a character that is neither quoted nor expanded, or a part. -/
inductive Atom where
  /-- A character. -/
  | char (c : Char)
  /-- A part. -/
  | part (p : Part)

/-- Whether an atom is a character. -/
def Atom.isChar (c : Char) : Atom → Bool
  | .char d => c == d
  | .part _ => false

/-- The atoms of a word. -/
def atoms (word : List Part) : List Atom :=
  word.flatMap fun
    | .text s false => s.map .char
    | part => [.part part]

/-- The word that atoms make up. -/
def word (found : List Atom) : List Part :=
  found.foldr (fun atom rest => match atom, rest with
    | .char c, .text s false :: rest => .text (c :: s) false :: rest
    | .char c, rest => .text [c] false :: rest
    | .part p, rest => p :: rest) []

/-- The atoms before the brace that closes the one in front, within so many others, and those after
it. -/
def upToClosing? : Nat → List Atom → Option (List Atom × List Atom)
  | _, [] => none
  | depth, a :: rest =>
    if depth == 0 && a.isChar '\x7d' then some ([], rest)
    else
      let depth :=
        if a.isChar '\x7b' then depth + 1 else if a.isChar '\x7d' then depth - 1 else depth
      (upToClosing? depth rest).map fun (inner, after) => (a :: inner, after)

/-- The atoms between commas that are within so many braces. -/
def betweenCommas : Nat → List Atom → List (List Atom)
  | _, [] => [[]]
  | depth, a :: rest =>
    if depth == 0 && a.isChar ',' then [] :: betweenCommas depth rest
    else
      let depth :=
        if a.isChar '\x7b' then depth + 1 else if a.isChar '\x7d' then depth - 1 else depth
      let after := betweenCommas depth rest
      (a :: after.headD []) :: after.drop 1

/-- An integer, if a text is one. -/
def integer? (s : List Char) : Option Int :=
  let (sign, digits) : Int × List Char := match s with
    | '-' :: rest => (-1, rest)
    | '+' :: rest => (1, rest)
    | rest => (1, rest)
  if digits.isEmpty || !digits.all Char.isDigit then none
  else some (sign * Text.digitsValue digits)

/-- How many members a range may have. -/
def rangeLimit : Nat := 262144

/-- The integers from one to another in steps of a size. -/
def rangeOf (first last : Int) (step : Nat) : List Int :=
  let step := max step 1
  let count := min ((last - first).natAbs / step + 1) rangeLimit
  (List.range count).map fun (i : Nat) =>
    if first ≤ last then first + (i * step : Nat) else first - (i * step : Nat)

/-- An integer in so many characters, with zeros in front. -/
def padded (width : Nat) (n : Int) : List Char :=
  let sign := if n < 0 then ['-'] else []
  let digits := (toString n.natAbs).toList
  sign ++ List.replicate (width - sign.length - digits.length) '0' ++ digits

/-- Whether an integer is written with zeros in front. -/
def isPadded (s : List Char) : Bool :=
  let digits := if s.head? == some '-' then s.drop 1 else s
  1 < digits.length && digits.head? == some '0'

/-- The members of a range, if a text is one. -/
def members? (s : List Char) : Option (List (List Char)) := do
  let ends := (String.ofList s).splitOn ".."
  let step ← match ends.drop 2 with
    | [] => some 1
    | [step] => (integer? step.toList).map Int.natAbs
    | _ => none
  match (ends.take 2).map String.toList with
  | [a, b] =>
    match integer? a, integer? b, a, b with
    | some m, some n, _, _ =>
      let width := if isPadded a || isPadded b then max a.length b.length else 0
      some ((rangeOf m n step).map (padded width))
    | none, none, [c], [d] =>
      if c.isAlpha && d.isAlpha then
        some ((rangeOf c.toNat d.toNat step).map fun n => [Char.ofNat n.toNat])
      else none
    | _, _, _, _ => none
  | _ => none

/-- The text of atoms, if all are characters. -/
def text? (found : List Atom) : Option (List Char) :=
  found.mapM fun
    | .char c => some c
    | .part _ => none

/-- The words that atoms stand for. There is a step for each atom. -/
def expand : Nat → List Atom → List (List Atom)
  | 0, found => [found]
  | _, [] => [[]]
  | n + 1, a :: rest =>
    let plain := (expand n rest).map (a :: ·)
    if !a.isChar '\x7b' then plain
    else match upToClosing? 0 rest with
      | none => plain
      | some (inner, after) =>
        let pieces := betweenCommas 0 inner
        let choices? : Option (List (List Atom)) :=
          if 1 < pieces.length then some (pieces.flatMap (expand n))
          else ((text? inner).bind members?).map fun found => found.map (·.map .char)
        match choices? with
        | none => plain
        | some choices =>
          let ends := expand n after
          choices.flatMap fun choice => ends.map (choice ++ ·)

/-- The words that a word stands for. -/
def words (w : List Part) : List (List Part) :=
  let found := atoms w
  if !found.any (Atom.isChar '\x7b') then [w]
  else (expand found.length found).map word

end BuildingModel.Sandbox.Shell.Braces
