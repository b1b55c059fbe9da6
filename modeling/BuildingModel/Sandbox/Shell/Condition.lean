import BuildingModel.Sandbox.Shell.Format
import BuildingModel.Files.Tree
import BuildingModel.Sandbox.Octets

/-!
# Conditions

A condition is a row of words: tests of texts, integers and files, joined by operators. With three
words or four, what stands in the middle or in front decides how they are read.
-/

namespace BuildingModel.Sandbox.Shell

namespace Condition

/-- What is wrong with a condition. -/
inductive Fault where
  /-- A word is no integer. -/
  | number (word : String)
  /-- After a word stands another one that is no operator. -/
  | operator (word next : String)
  /-- After a word another one is missing. -/
  | lacking (word : String)
  /-- A parenthesis is not closed. -/
  | parenthesis
  /-- Too many conditions are within each other. -/
  | depth
deriving DecidableEq, Repr

/-- A complaint about a word. -/
def objection (word message : String) : String :=
  if word.isEmpty then message else word ++ ": " ++ message

/-- A fault in the words of a shell. -/
def Fault.text : Fault → String
  | .number word => "Illegal number: " ++ word
  | .operator word _ => objection word "unexpected operator"
  | .lacking word => objection word "argument expected"
  | .parenthesis => "closing paren expected"
  | .depth => "too deep"

/-- A fault in the words of the extended shell, given the condition. -/
def Fault.extendedText (words : List String) (fault : Fault) : String :=
  match fault, words with
  | .number word, _ => word ++ ": integer expression expected"
  | _, [a, _] | _, ["!", a, _] => a ++ ": unary operator expected"
  | _, [_, op, _] => op ++ ": binary operator expected"
  | _, _ => "too many arguments"

/-- A fault in the words of a program, given the condition. -/
def Fault.programText (words : List String) (fault : Fault) : String :=
  let lacking (word : String) : String := "missing argument after '" ++ word ++ "'"
  match fault, words with
  | .number word, _ => "invalid integer '" ++ word ++ "'"
  | _, [a, b] =>
    if a.startsWith "-" && a.length == 2 then "'" ++ a ++ "': unary operator expected"
    else lacking b
  | _, ["!", _, b] => lacking b
  | _, [_, op, _] => "'" ++ op ++ "': binary operator expected"
  | .operator _ next, _ => "extra argument '" ++ next ++ "'"
  | _, _ => lacking (words.getLastD "")

/-- The operators before one word. -/
def unaryOperators : List String :=
  ["-r", "-w", "-x", "-e", "-f", "-d", "-c", "-b", "-p", "-u", "-g", "-k", "-s", "-t", "-z", "-n",
   "-O", "-G", "-L", "-h", "-S"]

/-- The operators between two words. -/
def binaryOperators (extended : Bool) : List String :=
  ["=", "!=", "<", ">", "-eq", "-ne", "-ge", "-gt", "-le", "-lt", "-nt", "-ot", "-ef"]
    ++ if extended then ["=="] else []

/-- Whether something is true of a file. -/
def ofFile (t : FileTree) (op path : String) : Bool :=
  let path := textOf path
  if op == "-L" || op == "-h" then (t.linkAt? path).isSome else
  match t.locate path with
  | .ok (names, some (.file f)) =>
    let isDevice := names.head? == some "dev"
    match op with
    | "-e" | "-r" | "-w" | "-O" | "-G" => true
    | "-f" => !isDevice && !f.isPipe
    | "-c" => isDevice
    | "-p" => f.isPipe
    | "-x" => f.runs
    | "-s" => !f.bytes.isEmpty
    | _ => false
  | .ok (_, some .directory) => ["-e", "-r", "-w", "-x", "-d", "-s", "-O", "-G"].contains op
  | _ => false

/-- The integer that a word is. -/
def integer (s : String) : Except Fault Int :=
  let (sign, digits) := signed s.toList
  let ds := digits.takeWhile Char.isDigit
  let rest := digits.drop ds.length
  let n := sign * Text.digitsValue ds
  if ds.isEmpty || !rest.all (" \t\n\x0b\x0c\r".contains ·) || n < leastInteger
      || greatestInteger < n then
    .error (.number s)
  else .ok n

/-- Whether an operator holds of a word. -/
def unary (t : FileTree) (op s : String) : Bool :=
  match op with
  | "-z" => s.isEmpty
  | "-n" => !s.isEmpty
  | "-t" => false
  | _ => ofFile t op s

/-- When what a path leads to was changed last. -/
def timeOf? (t : FileTree) (path : String) : Option Int :=
  match t.locate (textOf path) with
  | .ok (names, some place) => some (t.timeAt names place)
  | _ => none

/-- Whether one thing has been changed after another one. Where it is extended, a file is newer than
one that is not there. -/
def isNewer (extended : Bool) (t : FileTree) (a b : String) : Bool :=
  match timeOf? t a, timeOf? t b with
  | some m, some n => n < m
  | some _, none => extended
  | none, _ => false

/-- Whether an operator holds between two words. -/
def binary (extended : Bool) (t : FileTree) (op a b : String) : Except Fault Bool := do
  match op with
  | "=" | "==" => return a == b
  | "!=" => return a != b
  | "<" => return a < b
  | ">" => return b < a
  | "-nt" => return isNewer extended t a b
  | "-ot" => return isNewer extended t b a
  | "-ef" => return ofFile t "-e" a && (t.locate (textOf a)).toOption.map (·.1)
      == (t.locate (textOf b)).toOption.map (·.1)
  | _ =>
    let m ← integer a
    let n ← integer b
    match op with
    | "-eq" => return m == n
    | "-ne" => return m != n
    | "-ge" => return m ≥ n
    | "-gt" => return m > n
    | "-le" => return m ≤ n
    | _ => return m < n

/-- A row of words that is being read. The first word is the last one that counted. -/
abbrev Row := List String

/-- The operator that the first word of a row is. -/
def operator? (extended : Bool) : Row → Option String
  | [] => none
  | s :: rest =>
    if (binaryOperators extended ++ ["!", "-a", "-o", ")"]).contains s then some s
    else if s == "(" then (if rest.isEmpty then none else some s)
    else if unaryOperators.contains s then
      match rest with
      | [] => none
      | [_] => some s
      | next :: _ => if (binaryOperators extended).contains next then none else some s
    else none

/-- Reading a row: whether it holds, with what is left of it. -/
abbrev Reading := Except Fault (Bool × Row)

mutual

/-- Alternatives. -/
def alternatives (extended : Bool) (t : FileTree) : Nat → Row → Reading
  | 0, _ => .error .depth
  | n + 1, row => do
    let (a, row) ← conjuncts extended t n row
    if operator? extended (row.drop 1) == some "-o" then
      let (b, row) ← alternatives extended t n (row.drop 2)
      return (a || b, row)
    return (a, row)

/-- Conjuncts. -/
def conjuncts (extended : Bool) (t : FileTree) : Nat → Row → Reading
  | 0, _ => .error .depth
  | n + 1, row => do
    let (a, row) ← denial extended t n row
    if operator? extended (row.drop 1) == some "-a" then
      let (b, row) ← conjuncts extended t n (row.drop 2)
      return (a && b, row)
    return (a, row)

/-- A test that may be denied. -/
def denial (extended : Bool) (t : FileTree) : Nat → Row → Reading
  | 0, _ => .error .depth
  | n + 1, row => do
    if operator? extended row == some "!" then
      let (a, row) ← denial extended t n (row.drop 1)
      return (!a, row)
    primary extended t n row

/-- A test. -/
def primary (extended : Bool) (t : FileTree) : Nat → Row → Reading
  | 0, _ => .error .depth
  | _, [] => return (false, [])
  | n + 1, s :: rest => do
    let op := operator? extended (s :: rest)
    if op == some "(" then
      if operator? extended rest == some ")" then return (false, rest)
      let (a, row) ← alternatives extended t n rest
      if operator? extended (row.drop 1) != some ")" then throw .parenthesis
      return (a, row.drop 1)
    if op.any unaryOperators.contains then
      match rest with
      | [] => throw (.lacking s)
      | a :: _ => return (unary t s a, rest)
    match operator? extended rest with
    | some op =>
      if (binaryOperators extended).contains op then
        match rest with
        | _ :: b :: _ => return (← binary extended t op s b, rest.drop 1)
        | _ => throw (.lacking op)
      return (!s.isEmpty, s :: rest)
    | none => return (!s.isEmpty, s :: rest)

end

/-- Whether a row of words holds. -/
def whole (extended : Bool) (t : FileTree) (words : Row) : Except Fault Bool := do
  let (a, row) ← alternatives extended t (8 * words.length + 8) words
  match row with
  | s :: next :: _ => throw (.operator s next)
  | _ => return a

/-- Whether a condition holds: `whole`, after what three words or four decide. -/
def holds (extended : Bool) (t : FileTree) : Row → Except Fault Bool
  | [] => return false
  | [a, op, b] =>
    if (binaryOperators extended).contains op then binary extended t op a b
    else if a == "(" && b == ")" then whole extended t [op]
    else if a == "!" then return !(← holds extended t [op, b])
    else whole extended t [a, op, b]
  | [a, b, c, d] =>
    if a == "(" && d == ")" then whole extended t [b, c]
    else if a == "!" then return !(← holds extended t [b, c, d])
    else whole extended t [a, b, c, d]
  | words => whole extended t words

end Condition

end BuildingModel.Sandbox.Shell
