import BuildingModel.Decimal.Shortest
import BuildingModel.Step.Parameter
import BuildingModel.Text.Blank
import BuildingModel.Text.Digits
import BuildingModel.Text.Quoted

/-!
# Records

A record is a keyword and a list of parameters in parentheses. A reader takes its part off the
front of the text and returns it with the rest. A list takes as many parameters as it can: where
one cannot be read, the list ends before the comma, and the closing parenthesis is missed there.
-/

namespace BuildingModel.Step

open Text

/-- Why a text is not an instance. -/
inductive SyntaxError where
  /-- It does not start with a number sign. -/
  | missingNumberSign
  /-- No digit follows the number sign. -/
  | missingNumber
  /-- The number does not fit 32 bits. -/
  | numberOutOfRange
  /-- No equals sign follows the instance name. -/
  | missingEquals
  /-- No keyword follows. -/
  | missingKeyword
  /-- A parenthesis is missing at the front of the rest. -/
  | missingParenthesis (rest : List Char)
deriving DecidableEq, Repr

/-- The text of a syntax error. -/
def SyntaxError.message : SyntaxError → String
  | .missingNumberSign => "Expected # at start of entity"
  | .missingNumber => "Expected entity ID"
  | .numberOutOfRange => "Invalid entity ID"
  | .missingEquals => "Expected = after entity ID"
  | .missingKeyword => "Expected record keyword"
  | .missingParenthesis rest =>
    "Failed to parse parameters: Error(Error \x7b input: " ++ String.ofList (quoted rest)
      ++ ", code: Char \x7d)"

/-- The text without the blanks that may stand between tokens. -/
def dropBlanks (s : List Char) : List Char :=
  s.dropWhile isRecordBlank

/-- An instance number, if it fits 32 bits. -/
def entityId? (ds : List Char) : Option EntityId :=
  let n := digitsValue ds
  if n < UInt32.size then some (UInt32.ofNat n) else none

/-! ## Simple parameters -/

/-- A reference after its number sign. A number that does not fit 32 bits refers to instance 0. -/
def reference? (s : List Char) : Option (Parameter × List Char) :=
  let ds := s.takeWhile Char.isDigit
  if ds.isEmpty then none
  else some (.reference ((entityId? ds).getD 0), s.dropWhile Char.isDigit)

/-- The body of a string after its opening apostrophe, with the rest after the closing one. The
characters before are passed along in reverse. -/
def literal? (before : List Char) : List Char → Option (List Char × List Char)
  | [] => none
  | '\'' :: '\'' :: r => literal? ('\'' :: '\'' :: before) r
  | '\'' :: r => some (before.reverse, r)
  | c :: r => literal? (c :: before) r

/-- An enumeration item after its first point. -/
def enumeration? (s : List Char) : Option (Parameter × List Char) :=
  let word := s.takeWhile isWordChar
  if word.isEmpty then none
  else
    match s.dropWhile isWordChar with
    | '.' :: r => some (.enumeration (String.ofList word), r)
    | _ => none

/-- The exponent of a number, if one is written, with the rest. -/
def exponent? : List Char → Option (Int × List Char)
  | c :: r =>
    if c == 'e' || c == 'E' then
      let (negative, r) := match r with
        | '-' :: r => (true, r)
        | '+' :: r => (false, r)
        | r => (false, r)
      let ds := r.takeWhile Char.isDigit
      if ds.isEmpty then none
      else
        let n : Int := digitsValue ds
        some (if negative then -n else n, r.dropWhile Char.isDigit)
    else none
  | [] => none

/-- A whole number with its sign; numbers that do not fit 64 bits read as zero. -/
def integerValue (negative : Bool) (n : Nat) : Int :=
  let v : Int := if negative then -n else n
  if Int64.minValue.toInt ≤ v && v ≤ Int64.maxValue.toInt then v else 0

/-- The double nearest to a decimal, with its sign. -/
def realValue (negative : Bool) (digits : List Char) (exponent : Int) : Float :=
  let x := Decimal.toFloat ⟨digitsValue digits, exponent⟩
  if negative then -x else x

/-- A number: real if it has a point or an exponent, whole otherwise. -/
def number? (s : List Char) : Option (Parameter × List Char) :=
  let (negative, s) := match s with
    | '-' :: r => (true, r)
    | '+' :: r => (false, r)
    | s => (false, s)
  let ds := s.takeWhile Char.isDigit
  if ds.isEmpty then none
  else
    let (fraction, rest) := match s.dropWhile Char.isDigit with
      | '.' :: r => (some (r.takeWhile Char.isDigit), r.dropWhile Char.isDigit)
      | r => (none, r)
    match fraction, exponent? rest with
    | none, none => some (.integer (integerValue negative (digitsValue ds)), rest)
    | fraction, none =>
      let fs := fraction.getD []
      some (.real (realValue negative (ds ++ fs) (-(fs.length : Int))), rest)
    | fraction, some (e, rest) =>
      let fs := fraction.getD []
      some (.real (realValue negative (ds ++ fs) (e - fs.length)), rest)

/-! ## Lists -/

mutual

/-- A parameter, with the rest. `fuel` bounds the number of steps. -/
def parameterWithin : (fuel : Nat) → List Char → Option (Parameter × List Char)
  | 0, _ => none
  | fuel + 1, s =>
    match s with
    | '#' :: r => reference? r
    | '\'' :: r => (literal? [] r).map fun p => (.text (String.ofList p.1), p.2)
    | '$' :: r => some (.null, r)
    | '*' :: r => some (.derived, r)
    | '.' :: r => enumeration? r
    | '(' :: _ =>
      match enclosedWithin fuel s with
      | .ok (items, r) => some (.list items, r)
      | .error _ => none
    | s =>
      match number? s with
      | some found => some found
      | none =>
        let word := s.takeWhile isWordChar
        if word.isEmpty then none
        else
          match enclosedWithin fuel (dropBlanks (s.dropWhile isWordChar)) with
          | .ok (arguments, r) => some (.typed (String.ofList word) arguments, r)
          | .error _ => none

/-- A list of parameters in parentheses, with the rest; a failure shows the text at which a
parenthesis is missed. -/
def enclosedWithin : (fuel : Nat) → List Char → Except (List Char) (List Parameter × List Char)
  | 0, s => .error s
  | fuel + 1, s =>
    match s with
    | '(' :: r =>
      let (items, r) :=
        match parameterWithin fuel (dropBlanks r) with
        | none => ([], dropBlanks r)
        | some (p, r) =>
          let (ps, r) := furtherWithin fuel r
          (p :: ps, r)
      match dropBlanks r with
      | ')' :: r => .ok (items, r)
      | r => .error r
    | s => .error s

/-- The parameters that follow a first one, each after a comma, with the rest. -/
def furtherWithin : (fuel : Nat) → List Char → List Parameter × List Char
  | 0, s => ([], s)
  | fuel + 1, s =>
    match dropBlanks s with
    | ',' :: r =>
      match parameterWithin fuel (dropBlanks r) with
      | none => ([], s)
      | some (p, r) =>
        let (ps, r) := furtherWithin fuel r
        (p :: ps, r)
    | _ => ([], s)

end

/-- A list of parameters in parentheses, with the rest. -/
def enclosed (s : List Char) : Except (List Char) (List Parameter × List Char) :=
  enclosedWithin (3 * s.length + 3) s

/-! ## Records and instances -/

/-- A keyword with its parameters, whose strings are as written. -/
structure Record where
  /-- The keyword. -/
  keyword : String
  /-- The parameters in order. -/
  parameters : List Parameter
deriving BEq, Repr

/-- The record at the front of the text, after white space. What follows it is not looked at. -/
def Record.parse (s : List Char) : Except SyntaxError Record :=
  let s := trimLeft s
  let word := s.takeWhile isWordChar
  if word.isEmpty then .error .missingKeyword
  else
    match enclosed (dropBlanks (s.dropWhile isWordChar)) with
    | .ok (parameters, _) => .ok ⟨String.ofList word, parameters⟩
    | .error rest => .error (.missingParenthesis rest)

/-- A record under an instance name. -/
structure Instance where
  /-- The instance name. -/
  id : EntityId
  /-- The record. -/
  record : Record
deriving BEq, Repr

/-- The instance at the front of the text, after white space. -/
def Instance.parse (s : List Char) : Except SyntaxError Instance :=
  match trimLeft s with
  | '#' :: r =>
    let ds := r.takeWhile Char.isDigit
    if ds.isEmpty then .error .missingNumber
    else
      match entityId? ds with
      | none => .error .numberOutOfRange
      | some id =>
        match dropBlanks (r.dropWhile Char.isDigit) with
        | '=' :: r =>
          match Record.parse (dropBlanks r) with
          | .ok record => .ok ⟨id, record⟩
          | .error e => .error e
        | _ => .error .missingEquals
  | _ => .error .missingNumberSign

end BuildingModel.Step
