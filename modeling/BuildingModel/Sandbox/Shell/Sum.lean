import BuildingModel.Text.Digits

/-!
# Expressions

The expressions of the shell are those of integers of 64 bits, with variables that may be set. A
part that does not count, as a condition decides against it, sets nothing. The extended shell knows
powers, steps by one, numbers in any base, and expressions after one another.
-/

namespace BuildingModel.Sandbox.Shell

/-- How many integers of 64 bits there are. -/
def integerCount : Nat := 18446744073709551616

/-- The least integer. -/
def leastInteger : Int := -9223372036854775808

/-- The greatest integer. -/
def greatestInteger : Int := 9223372036854775807

/-- An expression that is being read. -/
structure Sum where
  /-- What is still to be read. -/
  rest : List Char
  /-- What has been set, the last first. -/
  assigned : List (String × Int) := []
  /-- Whether the shell knows more than the standard has. -/
  extended : Bool := false

/-- Reading an expression. A fault says why it has no value. -/
abbrev Reckon := StateT Sum (Except String)

namespace Sum

/-- An integer as one of 64 bits. -/
def wrap (n : Int) : Int := n.bmod integerCount

/-- The operators. -/
def operators : List String :=
  ["<<=", ">>=", "&&", "||", "<<", ">>", "<=", ">=", "==", "!=", "+=", "-=", "*=", "/=", "%=", "&=",
   "^=", "|=", "<", ">", "=", "+", "-", "*", "/", "%", "&", "^", "|", "!", "~", "?", ":", "(", ")"]

/-- The operators with two sides, those that bind loosest first. -/
def ranks : List (List String) :=
  [["|"], ["^"], ["&"], ["==", "!="], ["<=", ">=", "<", ">"], ["<<", ">>"], ["+", "-"],
   ["*", "/", "%"]]

/-- The blanks of expressions. -/
def isSumBlank (c : Char) : Bool := c == ' ' || c == '\t' || c == '\n'

/-- The operators that only the extended shell knows. -/
def extendedOperators : List String := ["++", "--", "**", ","]

/-- The operator ahead; none if there is something else. -/
def operator : Reckon String := do
  modify fun s => { s with rest := s.rest.dropWhile isSumBlank }
  let s ← get
  let known := if s.extended then extendedOperators ++ operators else operators
  return (known.find? (·.toList.isPrefixOf s.rest)).getD ""

/-- Passes over characters. -/
def pass (n : Nat) : Reckon Unit := modify fun s => { s with rest := s.rest.drop n }

/-- Passes over an operator that has to follow. -/
def expect (wanted : String) : Reckon Unit := do
  if (← operator) != wanted then throw ("expecting '" ++ wanted ++ "'")
  pass wanted.length

/-- The value of two integers under an operator; a quotient by zero has none if it counts. -/
def apply (counts : Bool) (op : String) (a b : Int) : Reckon Int :=
  let truth (p : Bool) : Reckon Int := pure (if p then 1 else 0)
  let bits (f : Nat → Nat → Nat) : Reckon Int :=
    pure (wrap (f (a % integerCount).toNat (b % integerCount).toNat))
  let shift := (b % 64).toNat
  match op with
  | "+" => pure (wrap (a + b))
  | "-" => pure (wrap (a - b))
  | "*" => pure (wrap (a * b))
  | "/" | "%" =>
    if b == 0 then
      if counts then throw "division by zero" else pure 0
    else pure (wrap (if op == "/" then Int.tdiv a b else Int.tmod a b))
  | "<<" => pure (wrap (a * Nat.pow 2 shift))
  | ">>" => pure (Int.fdiv a (Nat.pow 2 shift))
  | "<" => truth (a < b)
  | ">" => truth (a > b)
  | "<=" => truth (a ≤ b)
  | ">=" => truth (a ≥ b)
  | "==" => truth (a == b)
  | "!=" => truth (a != b)
  | "&" => bits Nat.land
  | "|" => bits Nat.lor
  | "^" => bits Nat.xor
  | _ => pure b

/-- The value of digits in a base. -/
def digits (base : Nat) (s : List Char) : Nat :=
  s.foldl (fun n c => n * base + (Text.hexDigit? c).getD 0) 0

/-- The number ahead, and how many characters it has. -/
def natural? (s : List Char) : Option (Nat × Nat) :=
  match s with
  | '0' :: x :: c :: rest =>
    let hexadecimal := (c :: rest).takeWhile fun d => (Text.hexDigit? d).isSome
    if (x == 'x' || x == 'X') && !hexadecimal.isEmpty then
      some (digits 16 hexadecimal, hexadecimal.length + 2)
    else
      let octal := (x :: c :: rest).takeWhile fun d => '0' ≤ d && d ≤ '7'
      some (digits 8 octal, octal.length + 1)
  | '0' :: rest =>
    let octal := rest.takeWhile fun d => '0' ≤ d && d ≤ '7'
    some (digits 8 octal, octal.length + 1)
  | _ =>
    let decimal := s.takeWhile Char.isDigit
    if decimal.isEmpty then none else some (digits 10 decimal, decimal.length)

/-- The value of a digit of a base above ten. -/
def digitOf (base : Nat) (c : Char) : Option Nat :=
  let value? : Option Nat :=
    if c.isDigit then some (c.toNat - '0'.toNat)
    else if c.isLower then some (c.toNat - 'a'.toNat + 10)
    else if c.isUpper then some (c.toNat - 'A'.toNat + if base ≤ 36 then 10 else 36)
    else if c == '@' then some 62
    else if c == '_' then some 63
    else none
  value?.filter (· < base)

/-- The number ahead that names its base, and how many characters it has. -/
def based? (s : List Char) : Option (Nat × Nat) :=
  let front := s.takeWhile Char.isDigit
  let base := digits 10 front
  match s.drop front.length with
  | '#' :: rest =>
    let tail := rest.takeWhile fun c => (digitOf base c).isSome
    if front.isEmpty || base < 2 || 64 < base || tail.isEmpty then none
    else
      let value := tail.foldl (fun n c => n * base + (digitOf base c).getD 0) 0
      some (value, front.length + 1 + tail.length)
  | _ => none

/-- The number ahead as an integer of 64 bits, the largest one in place of a larger one. -/
def number? (s : List Char) : Option (Int × Nat) :=
  (natural? s).map fun (n, length) => (min (n : Int) greatestInteger, length)

/-- The integer that a text is, with blanks around it and a sign in front. -/
def ofText? (s : String) : Option Int :=
  let s := s.toList.dropWhile fun c => isSumBlank c || c == '\r'
  let (sign, s) : Int × List Char := match s with
    | '-' :: s => (-1, s)
    | '+' :: s => (1, s)
    | _ => (1, s)
  match number? s with
  | some (n, length) =>
    if (s.drop length).all fun c => isSumBlank c || c == '\r' then some (sign * n) else none
  | none => none

/-- The value of a variable. -/
def held (value : String → Except String String) (name : String) : Reckon Int := do
  match (← get).assigned.lookup name with
  | some n => return n
  | none =>
    let text ← value name
    if text.isEmpty then return 0
    match ofText? text with
    | some n => return n
    | none => throw ("Illegal number: " ++ text)

/-- The name ahead; empty if there is something else. -/
def nameAhead : Reckon (List Char) := do
  let _ ← operator
  let rest := (← get).rest
  if rest.head?.any fun c => c.isAlpha || c == '_' then
    return rest.takeWhile fun c => c.isAlphanum || c == '_'
  return []

/-- A power of an integer, given an upper bound for how many binary digits the exponent has. -/
def powerOf (a : Int) : Nat → Nat → Int
  | 0, _ => 1
  | n + 1, b =>
    let half := powerOf a n (b / 2)
    let square := wrap (half * half)
    if b % 2 == 0 then square else wrap (square * a)

/-- Adds to a variable if it counts; its value before and after. -/
def step (value : String → Except String String) (counts : Bool) (op name : String) :
    Reckon (Int × Int) := do
  let old ← held value name
  let new := wrap (if op == "++" then old + 1 else old - 1)
  if counts then modify fun s => { s with assigned := (name, new) :: s.assigned }
  return (old, new)

mutual

/-- The value of the last of several expressions. -/
def series : Nat → (String → Except String String) → Bool → Reckon Int
  | 0, _, _ => throw "too deep"
  | n + 1, value, counts => do
    let a ← choice n value counts
    if (← operator) != "," then return a
    pass 1
    series n value counts

/-- The value of a choice, or of an assignment. -/
def choice : Nat → (String → Except String String) → Bool → Reckon Int
  | 0, _, _ => throw "too deep"
  | n + 1, value, counts => do
    let s ← get
    let name ← nameAhead
    pass name.length
    let op ← operator
    if !name.isEmpty && op.endsWith "=" && !(["==", "!=", "<=", ">="].contains op) then
      pass op.length
      let name := String.ofList name
      let b ← choice n value counts
      let new ←
        if op == "=" then pure b
        else do apply counts (String.ofList op.toList.dropLast) (← held value name) b
      if counts then modify fun s => { s with assigned := (name, new) :: s.assigned }
      return new
    set { (← get) with rest := s.rest }
    let test ← disjunction n value counts
    if (← operator) != "?" then return test
    pass 1
    let yes ← choice n value (counts && test != 0)
    expect ":"
    let no ← choice n value (counts && test == 0)
    return if test != 0 then yes else no

/-- The value of a disjunction. -/
def disjunction : Nat → (String → Except String String) → Bool → Reckon Int
  | 0, _, _ => throw "too deep"
  | n + 1, value, counts => do
    let a ← conjunction n value counts
    if (← operator) != "||" then return a
    pass 2
    let b ← disjunction n value (counts && a == 0)
    return if a != 0 || b != 0 then 1 else 0

/-- The value of a conjunction. -/
def conjunction : Nat → (String → Except String String) → Bool → Reckon Int
  | 0, _, _ => throw "too deep"
  | n + 1, value, counts => do
    let a ← ranked n value counts ranks
    if (← operator) != "&&" then return a
    pass 2
    let b ← conjunction n value (counts && a != 0)
    return if a != 0 && b != 0 then 1 else 0

/-- The value of an expression whose operators are of the given ranks. -/
def ranked : Nat → (String → Except String String) → Bool → List (List String) → Reckon Int
  | 0, _, _, _ => throw "too deep"
  | n + 1, value, counts, [] => power n value counts
  | n + 1, value, counts, ops :: tighter => do
    rankedAfter n value counts ops tighter (← ranked n value counts tighter)

/-- The value of an expression after its first part. -/
def rankedAfter : Nat → (String → Except String String) → Bool → List String →
    List (List String) → Int → Reckon Int
  | 0, _, _, _, _, _ => throw "too deep"
  | n + 1, value, counts, ops, tighter, a => do
    let op ← operator
    if !ops.contains op then return a
    pass op.length
    let b ← ranked n value counts tighter
    rankedAfter n value counts ops tighter (← apply counts op a b)

/-- The value of a power. -/
def power : Nat → (String → Except String String) → Bool → Reckon Int
  | 0, _, _ => throw "too deep"
  | n + 1, value, counts => do
    let a ← unary n value counts
    if (← operator) != "**" then return a
    pass 2
    let b ← power n value counts
    if b < 0 then throw "exponent less than 0"
    return powerOf a 64 b.toNat

/-- The value of an expression with operators in front or behind only. -/
def unary : Nat → (String → Except String String) → Bool → Reckon Int
  | 0, _, _ => throw "too deep"
  | n + 1, value, counts => do
    match ← operator with
    | "-" =>
      pass 1
      return wrap (-(← unary n value counts))
    | "+" =>
      pass 1
      unary n value counts
    | "!" =>
      pass 1
      return if (← unary n value counts) == 0 then 1 else 0
    | "~" =>
      pass 1
      return wrap (-(← unary n value counts) - 1)
    | "(" =>
      pass 1
      let a ← series n value counts
      expect ")"
      return a
    | op =>
      if op == "++" || op == "--" then
        pass 2
        let name ← nameAhead
        if name.isEmpty then
          let a ← unary n value counts
          return a
        pass name.length
        return (← step value counts op (String.ofList name)).2
      let name ← nameAhead
      if !name.isEmpty then
        pass name.length
        let op ← operator
        if op == "++" || op == "--" then
          pass 2
          return (← step value counts op (String.ofList name)).1
        return ← held value (String.ofList name)
      let s ← get
      if s.extended then
        if let some (a, length) := based? s.rest then
          pass length
          return wrap a
      match number? s.rest with
      | some (a, length) =>
        pass length
        return a
      | none => throw "expecting primary"

end

/-- The value of an expression, with what is set, the first first. The values of the variables are
given by a function, which may object. -/
def evaluate (extended : Bool) (value : String → Except String String) (text : List Char) :
    Except String (Int × List (String × Int)) := do
  let whole : Reckon Int := do
    if (text.all isSumBlank) then return 0
    let a ← series (16 * text.length + 64) value true
    let _ ← operator
    if !(← get).rest.isEmpty then throw "expecting EOF"
    return a
  let (a, s) ← whole.run { rest := text, extended }
  return (a, s.assigned.reverse)

end Sum

end BuildingModel.Sandbox.Shell
