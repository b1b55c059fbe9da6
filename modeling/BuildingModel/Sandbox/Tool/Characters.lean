import BuildingModel.Sandbox.Shell.Format
import BuildingModel.Sandbox.Shell.Pattern
import BuildingModel.Sandbox.Tool.Basic

/-!
# Characters

The program that changes, removes or squeezes characters. What characters it works on is told by
sets, in which ranges, classes and repeated characters stand for several.
-/

namespace BuildingModel.Sandbox.Tool

open Shell (Run say)

/-- A part of a set of characters. -/
inductive CharPart where
  /-- The characters themselves. -/
  | plain (cs : List Char)
  /-- The characters of a class. -/
  | kind (name : String)
  /-- A character that is repeated until the set is as long as another one. -/
  | fill (c : Char)
  /-- A character that is repeated so often. -/
  | times (c : Char) (n : Nat)
deriving DecidableEq, Repr

/-- All characters. -/
def allChars : List Char := (List.range 256).map Char.ofNat

/-- The names of the classes of characters. -/
def kindNames : List String :=
  ["alnum", "alpha", "blank", "cntrl", "digit", "graph", "lower", "print", "punct", "space",
   "upper", "xdigit"]

/-- A character of a set, with whether it stands for itself. -/
abbrev SetChar := Char × Bool

/-- The characters of a set whose escapes are carried out. There is a step for each character. -/
def setChars : Nat → List Char → List SetChar
  | 0, _ | _, [] => []
  | _, ['\\'] => [('\\', true)]
  | n + 1, '\\' :: c :: rest =>
    let octal := ((c :: rest).takeWhile Shell.isOctal).take 3
    let octal := if octal.length == 3 && Text.digitValue c > 3 then octal.take 2 else octal
    if !octal.isEmpty then
      (Shell.ofOctal octal, true) :: setChars n ((c :: rest).drop octal.length)
    else
      let plain := if c == 'e' then c else (Shell.namedEscapes.lookup c).getD c
      (plain, true) :: setChars n rest
  | n + 1, c :: rest => (c, false) :: setChars n rest

/-- What is between brackets whose inner side is a mark, and what follows the brackets. -/
def between? (mark : Char) (s : List SetChar) : Option (List Char × List SetChar) :=
  match s with
  | ('[', false) :: (m, false) :: rest =>
    if m != mark then none
    else
      let isEnd (t : List SetChar) : Bool := t.take 2 == [(mark, false), (']', false)]
      ((List.range rest.length).find? fun k => isEnd (rest.drop k)).map fun k =>
        ((rest.take k).map (·.1), rest.drop (k + 2))
  | _ => none

/-- The count of a repeated character, in octal after a zero. -/
def repeatCount? (s : List Char) : Option Nat :=
  match s with
  | '0' :: rest =>
    if rest.all Shell.isOctal then some (rest.foldl (fun n d => n * 8 + Text.digitValue d) 0)
    else none
  | _ => if s.all Char.isDigit then some (Text.digitsValue s) else none

/-- A repeated character between brackets: it, what tells how often, and what follows. -/
def repeated? (s : List SetChar) : Option (Char × List Char × List SetChar) :=
  match s with
  | ('[', false) :: (c, _) :: ('*', false) :: rest =>
    let count := rest.takeWhile fun p => p != (']', false)
    if count.length < rest.length && count.all (fun p => !p.2) then
      some (c, count.map (·.1), rest.drop (count.length + 1))
    else none
  | _ => none

/-- A character as complaints show it. -/
def shownChar (c : Char) : String :=
  if ' ' ≤ c && c ≤ '~' then c.toString
  else "\\" ++ String.ofList (let ds := Nat.toDigits 8 c.toNat
    List.replicate (3 - ds.length) '0' ++ ds)

/-- The parts of a set, or what is wrong with them. There is a step for each character. -/
def charParts : Nat → List SetChar → Except String (List CharPart)
  | 0, _ | _, [] => .ok []
  | n + 1, c :: rest => do
    if let some (name, after) := between? ':' (c :: rest) then
      if repeated? (c :: rest) |>.isNone then
        let name := String.ofList name
        if !kindNames.contains name then throw ("invalid character class " ++ quoted name)
        return .kind name :: (← charParts n after)
    if let some (cs, after) := between? '=' (c :: rest) then
      match cs with
      | [one] => return .plain [one] :: (← charParts n after)
      | [] => throw "missing equivalence class character '[==]'"
      | _ =>
        throw (String.ofList cs ++ ": equivalence class operand must be a single character")
    if let some (repeated, count, after) := repeated? (c :: rest) then
      match repeatCount? count with
      | none =>
        throw ("invalid repeat count " ++ quoted (String.ofList count) ++ " in [c*n] construct")
      | some 0 => return .fill repeated :: (← charParts n after)
      | some times => return .times repeated times :: (← charParts n after)
    match rest with
    | ('-', false) :: (high, _) :: after =>
      let low := c.1
      if high < low then
        throw ("range-endpoints of '" ++ shownChar low ++ "-" ++ shownChar high
          ++ "' are in reverse collating sequence order")
      return .plain (allChars.filter fun d => low ≤ d && d ≤ high) :: (← charParts n after)
    | _ => return .plain [c.1] :: (← charParts n rest)

/-- The parts of a set in words. -/
def partsOf (s : String) : Except String (List CharPart) :=
  charParts s.length (setChars s.length s.toList)

/-- The characters of a part, but for one that fills. -/
def CharPart.chars : CharPart → List Char
  | .plain cs => cs
  | .kind name => allChars.filter (Shell.isKind name)
  | .times c n => List.replicate n c
  | .fill _ => []

/-- How many characters parts have, but for one that fills. -/
def lengthOf (parts : List CharPart) : Nat :=
  parts.foldl (fun n part => n + part.chars.length) 0

/-- The characters of a set that is to be as long as another one. -/
def charsOf (length : Nat) (parts : List CharPart) : List Char :=
  let known := lengthOf parts
  (parts.map fun part => match part with
    | .fill c => List.replicate (length - known) c
    | _ => part.chars).flatten

/-- Whether a part is the class of letters of a case. -/
def CharPart.isCase (part : CharPart) : Bool := part == .kind "lower" || part == .kind "upper"

/-- What characters are changed to what others, in order, or what is wrong with the sets. -/
def changes (complements truncates : Bool) (first second : List CharPart) :
    Except String (List (Char × Char)) := do
  let sources := charsOf 0 first
  let sources := if complements then allChars.filter fun c => !sources.contains c else sources
  if (second.filter fun part => match part with
      | .fill _ => true
      | _ => false).length > 1 then
    throw "only one [c*] repeat construct may appear in string2"
  if second.any fun part => match part with
      | .kind _ => !part.isCase
      | _ => false then
    throw ("when translating, the only character classes that may appear in\n"
      ++ "string2 are 'upper' and 'lower'")
  let targets := charsOf sources.length second
  if targets.isEmpty && !truncates && !sources.isEmpty then
    throw "when not truncating set1, string2 must be non-empty"
  if !complements && (second.zipIdx.any fun (part, i) =>
      let before := lengthOf (second.take i)
      part.isCase && !(first.zipIdx.any fun (other, j) =>
        other.isCase && lengthOf (first.take j) == before)) then
    throw "misaligned [:upper:] and/or [:lower:] construct"
  if targets.length < sources.length && !truncates && second.getLast?.any CharPart.isCase then
    throw ("when translating with string1 longer than string2,\n"
      ++ "the latter string must not end with a character class")
  let targets := if truncates then targets
    else targets ++ List.replicate (sources.length - targets.length) (targets.getLastD ' ')
  return sources.zip targets

/-- The table of what each character is changed to. The last change of a character counts. -/
def changeTable (pairs : List (Char × Char)) : Array Char :=
  pairs.foldl (fun table (a, b) => table.setIfInBounds a.toNat b) allChars.toArray

/-- Characters without those that follow themselves, if they are asked for. -/
def squeezeChars (asked : Char → Bool) (cs : List Char) : List Char :=
  (cs.foldl (fun done c => if done.head? == some c && asked c then done else c :: done) []).reverse

/-- What is wrong with how many sets are given, in several lines. -/
def setsFault? (deletes squeezes : Bool) (sets : List String) : Option (List String) :=
  let translates := !deletes && !squeezes
  match sets with
  | [] => some ["missing operand"]
  | [only] =>
    if translates then
      some ["missing operand after " ++ quoted only,
        "Two strings must be given when translating."]
    else if deletes && squeezes then
      some ["missing operand after " ++ quoted only,
        "Two strings must be given when both deleting and squeezing repeats."]
    else none
  | _ :: second :: rest =>
    if deletes && !squeezes then
      some (("extra operand " ++ quoted second) :: (if rest.isEmpty then
        ["Only one string may be given when deleting without squeezing repeats."] else []))
    else rest.head?.map fun extra => ["extra operand " ++ quoted extra]

/-- The characters that are left of others, under two sets. -/
def changed (p : Parsed) (first : List CharPart) (second : Option (List CharPart))
    (cs : List Char) : Except String (List Char) := do
  let complements := p.has 'c' || p.has 'C'
  if first.any fun part => match part with
      | .fill _ | .times _ _ => true
      | _ => false then
    throw "the [c*] repeat construct may not appear in string1"
  let members := charsOf 0 first
  let inFirst := (allChars.map fun c => members.contains c != complements).toArray
  let has (table : Array Bool) (c : Char) : Bool := table[c.toNat]?.getD false
  match p.has 'd', second with
  | true, none => return cs.filter fun c => !has inFirst c
  | true, some parts =>
    let others := charsOf 0 parts
    return squeezeChars others.contains (cs.filter fun c => !has inFirst c)
  | false, none => return squeezeChars (has inFirst) cs
  | false, some parts =>
    let pairs ← changes complements (p.has 't') first parts
    let table := changeTable pairs
    let replaced := cs.map fun c => table[c.toNat]?.getD c
    let targets := charsOf pairs.length parts
    return if p.has 's' then squeezeChars targets.contains replaced else replaced

/-- Changes, removes or squeezes characters. -/
def tr : Program := fun name words =>
  withOptions { flags := "cCdst", early := true, names := [("complement", 'c'), ("delete", 'd'),
      ("squeeze-repeats", 's'), ("truncate-set1", 't')] } 1 name words fun p => do
    match setsFault? (p.has 'd') (p.has 's') p.operands with
    | some texts =>
      report name ("\n".intercalate texts)
      hint name
      return 1
    | none =>
      for set in p.operands do
        if (setChars set.length set.toList).getLast? == some ('\\', true) && set.endsWith "\\"
            && !set.endsWith "\\\\" then
          report name "warning: an unescaped backslash at end of string is not portable"
      let work : Except String (List Char → Except String (List Char)) := do
        let first ← partsOf (p.operands.headD "")
        let second ← (p.operands[1]?).mapM partsOf
        let _ ← changed p first second []
        return changed p first second
      match work with
      | .error message => failWith 1 name message
      | .ok change =>
        let work (bytes : List UInt8) : Run Unit := do
          match change (octetsOf bytes).toList with
          | .ok cs => say 1 (String.ofList cs)
          | .error message => report name message
        if p.has 's' then work (← input)
        else
          let _ ← inPieces "-" none work
        return 0

end BuildingModel.Sandbox.Tool
