import BuildingModel.Sandbox.Tool.Rules.Print

/-!
# Carrying rules out

A worker gives the values of terms and does what actions tell, on a bench. What it does is told in
terms of a worker for what is within, so that a worker is made for each depth.
-/

namespace BuildingModel.Sandbox.Tool.Rules

/-- A worker. -/
structure Worker where
  /-- Gives the value of a term. -/
  value : Term → Working Value
  /-- Does what is told. -/
  act : Action → Working Unit

namespace Worker

variable (w : Worker)

/-! ## Places -/

/-- The key of a value of a table. -/
def key (keys : List Term) : Working Key := do
  let format ← textFormat
  match keys with
  | [t] => return .ofValue format (← w.value t)
  | ts =>
    let between ← variableText "SUBSEP"
    let texts ← ts.mapM fun t => do textOf (← w.value t)
    return .text (between.intercalate texts)

/-- A place that can be given a value. -/
inductive Place where
  /-- A variable. -/
  | named (name : String)
  /-- A field. -/
  | field (n : Nat)
  /-- A value of a table. -/
  | element (table : Nat) (key : Key)

/-- The place that a term tells. -/
def place (t : Term) : Working Place := do
  match t with
  | .named name => return .named name
  | .element table keys =>
    let key ← w.key keys
    return .element (← tableOf table) key
  | .field t => return .field (← fieldNumber (← w.value t).toNumber)
  | _ => throw (.fault "line 1: syntax error")

/-- The value at a place. -/
def Place.get : Place → Working Value
  | named name => valueOf name
  | field n => fieldAt n
  | element table key => onTable table (Table.get key)

/-- Gives a place a value. -/
def Place.put (v : Value) : Place → Working Unit
  | named name => assign name v
  | field n => setField n v
  | element table key => onTable table fun t => ((), t.put key v)

/-! ## Functions -/

/-- The regular expression of a term, which may be written in a text. -/
def pattern (t : Term) : Working Regex := do
  match t with
  | .regex r => return r
  | t =>
    match regexOf (← textOf (← w.value t)).toList with
    | .ok r => return r
    | .error message => throw (.fault ("run time error: " ++ message))

/-- What an argument of a function is, and the name of the variable that becomes a table if the
argument does. -/
def argument (t : Term) : Working (Option Slot × Option String) := do
  match t with
  | .named name =>
    if name == "NF" then return (some (.value (← valueOf name)), none)
    match ← slot? name with
    | some slot => return (some slot, none)
    | none => return (none, some name)
  | t => return (some (.value (← w.value t)), none)

/-- Carries a function out. -/
def call (functions : List (String × Function)) (name : String) (arguments : List Term) :
    Working Value := do
  let some f := functions.lookup name
    | throw (.fault ("line 1: function " ++ name ++ " never defined"))
  let given ← arguments.mapM w.argument
  let outer := (← get).locals
  let locals := f.parameters.zip (List.range f.parameters.length) |>.map fun (x, i) =>
    (x, (given[i]?).bind (·.1))
  modify fun b => { b with locals }
  let v ← try
      w.act f.body
      pure Value.nothing
    catch
      | .give v => pure v
      | other => throw other
  let inner := (← get).locals
  modify fun b => { b with locals := outer }
  for ((_, slot), _, origin) in inner.zip given do
    if let some origin := origin then
      if let some (.table i) := slot then
        if (← slot? origin).isNone then setSlot origin (.table i)
  return v

/-- The part of a text from a place on, as long as told. Fractions do not count, and from a place
before the text on the part is longer by that. -/
def part (s : List Char) (first : Float) (length : Option Float) : List Char :=
  let start := integerPart first
  let rest := s.drop (start - 1).toNat
  match length with
  | some n => rest.take (integerPart n - min start 0).toNat
  | none => rest

/-- The regular expression or the text by which a text is cut. -/
def separator (t : Option Term) : Working Separator := do
  match t with
  | some (.regex r) => return .regex r
  | some t => separatorOf (← w.value t)
  | none => separatorOf (← plainValue "FS")

/-- Puts a replacement in the places where a regular expression stands; how many there are. -/
def replaceIn (all : Bool) (pattern replacement : Term) (target : Term) : Working Value := do
  let r ← w.pattern pattern
  let replacement ← textOf (← w.value replacement)
  if target.isPlace then
    let place ← w.place target
    let (text, count) := replace r all replacement.toList (← textOf (← place.get)).toList
    if count != 0 then place.put (.text (String.ofList text))
    return .ofNat count
  else
    let (_, count) := replace r all replacement.toList (← textOf (← w.value target)).toList
    return .ofNat count

/-- Cuts a text into the values of a table; how many there are. -/
def split (subject : Term) (table : String) (by_ : Option Term) : Working Value := do
  let text ← textOf (← w.value subject)
  let separator ← w.separator by_
  let pieces := (separator.cut text.toList).map fun s => Value.ofInput (String.ofList s)
  let i ← tableOf table
  onTable i fun _ => ((), .ofList pieces)
  return .ofNat pieces.length

/-- Seeks a regular expression in a text and keeps where it stands. -/
def seek (subject pattern : Term) : Working Value := do
  let text ← textOf (← w.value subject)
  let r ← w.pattern pattern
  let (start, length) : Nat × Int := match r.find? { rest := text.toList } with
    | some (a, b) => (a.passed.length + 1, (a.upTo b).length)
    | none => (0, -1)
  setVariable "RSTART" (.ofNat start)
  setVariable "RLENGTH" (.number (Float.ofInt length))
  return .ofNat start

/-- How long a text is, or how many values a table has. -/
def size (t : Option Term) : Working Value := do
  match t with
  | none => return .ofNat (← textOf (← fieldAt 0)).length
  | some (.named name) =>
    match ← slot? name with
    | some (.table i) => return .ofNat (← onTable i fun t => (t.size, t))
    | _ => return .ofNat (← textOf (← valueOf name)).length
  | some t => return .ofNat (← textOf (← w.value t)).length

/-- The place of a text within another, from one on. -/
def placeWithin (s t : List Char) : Nat :=
  ((List.range (s.length + 1)).find? fun i => t.isPrefixOf (s.drop i)).elim 0 (· + 1)

/-- The next number that is drawn. -/
def draw : Working Value := do
  let n := ((← get).drawn * 1103515245 + 12345) % 2147483648
  modify fun b => { b with drawn := n }
  return .number (Float.ofNat n / 2147483648)

/-- What a function of numbers gives. -/
def reckoned (name : String) (xs : List Float) : Float :=
  let x := xs.headD 0
  match name with
  | "sin" => x.sin
  | "cos" => x.cos
  | "exp" => x.exp
  | "log" => x.log
  | "sqrt" => x.sqrt
  | "int" => if x < 0 then x.ceil else x.floor
  | _ => Float.atan2 x ((xs[1]?).getD 0)

/-- What a function gives that is there without being told. -/
def builtin (s : Surroundings) (name : String) (arguments : List Term) : Working Value := do
  let text (t : Term) : Working String := do textOf (← w.value t)
  match name, arguments with
  | "length", ts => w.size ts.head?
  | "substr", t :: first :: rest =>
    let subject ← text t
    let first := (← w.value first).toNumber
    let length ← rest.head?.mapM fun t => do return (← w.value t).toNumber
    return .text (String.ofList (part subject.toList first length))
  | "index", [a, b] => do
    let subject ← text a
    return .ofNat (placeWithin subject.toList (← text b).toList)
  | "split", t :: table :: rest =>
    match table with
    | .named x => w.split t x rest.head?
    | _ => throw (.fault "line 1: syntax error at or near split")
  | "sub", a :: b :: rest => w.replaceIn false a b (rest.headD (.field (.number 0)))
  | "gsub", a :: b :: rest => w.replaceIn true a b (rest.headD (.field (.number 0)))
  | "match", [a, b] => w.seek a b
  | "sprintf", ts =>
    let (text, fault) ← formatted (← ts.mapM w.value)
    if let some message := fault then failWhileWorking message
    return .text text
  | "tolower", [t] => return .text ((← text t).map Char.toLower)
  | "toupper", [t] => return .text ((← text t).map Char.toUpper)
  | "system", [t] => do
    let command ← text t
    flush
    return .ofNat (← s.command command)
  | "close", [t] => do
    match ← close? s (← text t) with
    | some status => return .ofNat status
    | none => return .number (-1)
  | "fflush", ts => do
    let _ ← ts.mapM w.value
    flush
    return .number 0
  | "rand", _ => draw
  | "srand", ts => do
    let old := (← get).seed
    let seed ← ts.head?.elim (pure 0) fun t => do return (← w.value t).toNumber
    modify fun b => { b with seed, drawn := (integerPart seed).toNat }
    return .number old
  | _, ts => return .number (reckoned name (← ts.mapM fun t => do return (← w.value t).toNumber))

/-! ## Terms -/

/-- Whether a regular expression stands in a text. -/
def stands (r : Regex) (v : Value) : Working Bool := do
  return (r.find? { rest := (← textOf v).toList }).isSome

/-- Reads a line, to a place or as the record; whether that is possible. -/
def readLine (s : Surroundings) (kind : LineKind) (source : Term) (target : Option Term) :
    Working Value := do
  let target ← target.mapM w.place
  let keep (line : String) : Working Unit := do
    match target with
    | some place => place.put (.ofInput line)
    | none => setRecord (.ofInput line)
  if kind == .given then
    match ← nextRecord? fileLimit with
    | some line =>
      keep line
      return .number 1
    | none => return .number 0
  match ← sourceRecord? s kind (← textOf (← w.value source)) with
  | none => return .number (-1)
  | some none => return .number 0
  | some (some line) =>
    keep line
    return .number 1

/-- The value of a term. -/
def valueOfTerm (s : Surroundings) (functions : List (String × Function)) (t : Term) :
    Working Value := do
  let number (t : Term) : Working Float := do return (← w.value t).toNumber
  match t with
  | .number x => return .number x
  | .text s => return .text s
  | .regex r => return .ofBool (← stands r (← fieldAt 0))
  | .named name => valueOf name
  | .field t => fieldAt (← fieldNumber (← number t))
  | .element .. => (← w.place t).get
  | .joined how a b =>
    let x ← number a
    return .number (how.apply x (← number b))
  | .beside a b =>
    let x ← textOf (← w.value a)
    return .text (x ++ (← textOf (← w.value b)))
  | .related how a b =>
    let x ← w.value a
    let y ← w.value b
    return .ofBool (how.holds (← textFormat) x y)
  | .matched denied subject pattern =>
    let v ← w.value subject
    return .ofBool ((← stands (← w.pattern pattern) v) != denied)
  | .member keys table =>
    let key ← w.key keys
    return .ofBool (← onTable (← tableOf table) (Table.has key))
  | .both a b =>
    if !(← w.value a).isTrue then return .ofBool false
    return .ofBool (← w.value b).isTrue
  | .either a b =>
    if (← w.value a).isTrue then return .ofBool true
    return .ofBool (← w.value b).isTrue
  | .denied a => return .ofBool !(← w.value a).isTrue
  | .signed negative a =>
    let x ← number a
    return .number (if negative then -x else x)
  | .chosen test yes no => w.value (if (← w.value test).isTrue then yes else no)
  | .assigned how target value =>
    let place ← w.place target
    match how with
    | none =>
      let v ← w.value value
      place.put v
      return v
    | some o =>
      let y ← number value
      let v := Value.number (o.apply (← place.get).toNumber y)
      place.put v
      return v
  | .stepped target step before =>
    let place ← w.place target
    let x := (← place.get).toNumber
    place.put (.number (x + step))
    return .number (if before then x else x + step)
  | .call name arguments => w.call functions name arguments
  | .builtin name arguments => w.builtin s name arguments
  | .line kind source target => w.readLine s kind source target
  | .several [t] => w.value t
  | .several ts => return .text (← w.key ts).name

/-! ## Actions -/

/-- The turns of a loop, so many at most. -/
def turns (step : Working Bool) : Nat → Working Unit
  | 0 => return
  | n + 1 => do
    if ← step then turns step n

/-- How many turns a loop has at most. -/
def loopLimit : Nat := 1048576

/-- Does something in a loop; whether the loop goes on. -/
def inLoop (work : Working Unit) : Working Bool := do
  try
    work
    return true
  catch
    | .leave => return false
    | .again => return true
    | other => throw other

/-- A value as it is written. -/
def shown (v : Value) : Working String := do
  match v with
  | .number x => return numberText (← variableText "OFMT") x
  | v => textOf v

/-- Where something is written. -/
def target (o : Outlet) : Working (Option (OutletKind × String)) := do
  match o with
  | none => return none
  | some (kind, t) => return some (kind, ← textOf (← w.value t))

/-- Does what is told. -/
def carryOut (a : Action) : Working Unit := do
  let isTrue (t : Term) : Working Bool := do return (← w.value t).isTrue
  match a with
  | .reckon t =>
    let _ ← w.value t
  | .write terms outlet =>
    let texts ← terms.mapM fun t => do shown (← w.value t)
    let outlet ← w.target outlet
    let between ← variableText "OFS"
    writeTo outlet (between.intercalate texts ++ (← variableText "ORS"))
  | .format terms outlet =>
    let (text, fault) ← formatted (← terms.mapM w.value)
    writeTo (← w.target outlet) text
    if let some message := fault then failWhileWorking message
  | .block actions => for action in actions do w.act action
  | .choice test yes no =>
    if ← isTrue test then w.act yes
    else if let some other := no then w.act other
  | .whilst test body =>
    turns (do if ← isTrue test then inLoop (w.act body) else return false) loopLimit
  | .repeated body test =>
    turns (do if ← inLoop (w.act body) then isTrue test else return false) loopLimit
  | .count first test next body =>
    if let some t := first then
      let _ ← w.value t
    let step : Working Bool := do
      if !(← test.elim (pure true) isTrue) then return false
      if !(← inLoop (w.act body)) then return false
      if let some t := next then
        let _ ← w.value t
      return true
    turns step loopLimit
  | .each name table body =>
    let i ← tableOf table
    let keys ← onTable i fun t => (t.keys, t.visited)
    let mut goesOn := true
    for key in keys do
      if goesOn then
        assign name (.text key)
        goesOn ← inLoop (w.act body)
  | .leave => throw .leave
  | .again => throw .again
  | .next => throw .next
  | .nextFile => throw .nextFile
  | .exit t =>
    if let some t := t then
      let n := integerPart (← w.value t).toNumber
      modify fun b => { b with status := (n % 256).toNat }
    throw .exit
  | .give t => throw (.give (← t.elim (pure .nothing) w.value))
  | .delete table keys =>
    let i ← tableOf table
    match keys with
    | some ts =>
      let key ← w.key ts
      onTable i fun t => ((), t.erase key)
    | none => onTable i fun _ => ((), {})

end Worker

/-- A worker for what is within so many levels. -/
def worker (s : Surroundings) (functions : List (String × Function)) : Nat → Worker
  | 0 =>
    { value := fun _ => throw (.fault "function call nesting too deep")
      act := fun _ => throw (.fault "function call nesting too deep") }
  | n + 1 =>
    let w : Worker :=
      { value := fun t => (worker s functions n).value t
        act := fun a => (worker s functions n).act a }
    { value := w.valueOfTerm s functions, act := w.carryOut }

/-- How deep the work may go. -/
def depthLimit : Nat := 65536

end BuildingModel.Sandbox.Tool.Rules
