import BuildingModel.Sandbox.Tool.Rules.Reader
import BuildingModel.Sandbox.Tool.Rules.Record

/-!
# The bench of rules

Rules work on a bench: the record with its fields, variables and tables, the files and commands that
are read and written. What is written waits until the work ends, or until something else may need
it.
-/

namespace BuildingModel.Sandbox.Tool.Rules

open Shell (Run say)

/-- What a name stands for. -/
inductive Slot where
  /-- A value. -/
  | value (v : Value)
  /-- A table by its number. -/
  | table (i : Nat)
deriving Inhabited

/-- A file or a command that is written to. -/
structure Sink where
  /-- The path or the command. -/
  name : String
  /-- Where it is written. -/
  kind : OutletKind
  /-- The channel of a file. -/
  channel : Nat := 0
  /-- What waits to be written, the last first. -/
  waiting : List String := []

/-- A file or a command that is read. -/
structure Source where
  /-- The path or the command. -/
  name : String
  /-- What is left to read. -/
  rest : List UInt8
  /-- The status of a command. -/
  status : Nat := 0

/-- A bench. -/
structure Bench where
  /-- The variables. -/
  globals : Std.TreeMap String Slot := {}
  /-- The variables of the function that is being carried out; some have no value yet. -/
  locals : List (String × Option Slot) := []
  /-- The tables. -/
  tables : Array Table := #[]
  /-- The record. -/
  record : Value := .nothing
  /-- The fields. -/
  fields : Array Value := #[]
  /-- What is left of the file that is worked on. -/
  given : Option (List UInt8) := none
  /-- The pipe that gives more of it. -/
  more : Option Nat := none
  /-- The number of the next argument. -/
  argument : Nat := 1
  /-- Whether there has been a file. -/
  hasOpened : Bool := false
  /-- The files and commands that are read. -/
  sources : List Source := []
  /-- The files and commands that are written to, the last first. -/
  sinks : List Sink := []
  /-- What waits to be written as usual, the last first. -/
  waiting : List String := []
  /-- The numbers of the rules that have begun with a record and have not ended. -/
  begun : List Nat := []
  /-- The last number that was drawn. -/
  drawn : Nat := 1
  /-- The number that drawing began with. -/
  seed : Float := 0
  /-- The status of the work. -/
  status : Nat := 0

/-- Why what is done is cut short. -/
inductive Jump where
  /-- The loop ends. -/
  | leave
  /-- The loop goes on. -/
  | again
  /-- The next record is worked on. -/
  | next
  /-- The next file is worked on. -/
  | nextFile
  /-- The function gives a value. -/
  | give (v : Value)
  /-- The work ends. -/
  | exit
  /-- The work fails. -/
  | fault (message : String)

/-- Work on a bench. -/
abbrev Working := ExceptT Jump (StateT Bench Run)

/-- What is left of the surroundings of the work: how a command is carried out. -/
structure Surroundings where
  /-- Carries a command out; its status. -/
  command : String → Run Nat

/-! ## Variables -/

/-- Sets a variable. -/
def setVariable (name : String) (v : Value) : Working Unit :=
  modify fun b => { b with globals := b.globals.insert name (.value v) }

/-- What a name stands for. -/
def slot? (name : String) : Working (Option Slot) := do
  let b ← get
  match b.locals.lookup name with
  | some slot => return slot
  | none => return b.globals[name]?

/-- Sets what a name stands for. -/
def setSlot (name : String) (slot : Slot) : Working Unit :=
  modify fun b =>
    if (b.locals.lookup name).isSome then
      { b with locals := b.locals.map fun (x, old) =>
          if x == name then (x, some slot) else (x, old) }
    else { b with globals := b.globals.insert name slot }

/-- The value of a variable that is no field. -/
def plainValue (name : String) : Working Value := do
  match ← slot? name with
  | some (.value v) => return v
  | some (.table _) =>
    throw (.fault ("line 1: illegal reference to array " ++ name))
  | none => return .nothing

/-- The format of numbers that become texts. -/
def textFormat : Working String :=
  return (← plainValue "CONVFMT").toText "%.6g"

/-- The text of a value. -/
def textOf (v : Value) : Working String := do
  match v with
  | .number x => return numberText (← textFormat) x
  | v => return v.toText ""

/-- The text of a variable. -/
def variableText (name : String) : Working String := do
  textOf (← plainValue name)

/-! ## Tables -/

/-- A new table. -/
def addTable (t : Table) : Working Nat := do
  let i := (← get).tables.size
  modify fun b => { b with tables := b.tables.push t }
  return i

/-- The number of the table that a name stands for. -/
def tableOf (name : String) : Working Nat := do
  match ← slot? name with
  | some (.table i) => return i
  | some (.value _) => throw (.fault ("line 1: illegal reference to variable " ++ name))
  | none =>
    let i ← addTable {}
    setSlot name (.table i)
    return i

/-- Does something with a table. -/
def onTable {α : Type} (i : Nat) (f : Table → α × Table) : Working α := do
  let (a, t) := f (((← get).tables[i]?).getD {})
  modify fun b => { b with tables := b.tables.setIfInBounds i t }
  return a

/-! ## Fields -/

/-- What cuts texts where a value is given as the separator. -/
def separatorOf (v : Value) : Working Separator := do
  match (← textOf v).toList with
  | [] => return .nothing
  | [' '] => return .blanks
  | [c] => return .one c
  | s =>
    match regexOf s with
    | .ok r => return .regex r
    | .error message => throw (.fault ("line 1: " ++ message))

/-- Sets the record and cuts it into fields. -/
def setRecord (v : Value) : Working Unit := do
  let text ← textOf v
  let separator ← separatorOf (← plainValue "FS")
  let pieces := (separator.cut text.toList).map fun s => Value.ofInput (String.ofList s)
  modify fun b => { b with record := v, fields := pieces.toArray }

/-- Makes the record of the fields. -/
def joinFields : Working Unit := do
  let between ← variableText "OFS"
  let texts ← (← get).fields.toList.mapM textOf
  modify fun b => { b with record := .ofInput (between.intercalate texts) }

/-- Complains while records are worked on. -/
def failWhileWorking {α : Type} (message : String) : Working α := do
  throw (.fault ("run time error: " ++ message ++ "\n\tFILENAME=\"" ++ (← variableText "FILENAME")
    ++ "\" FNR=" ++ (← variableText "FNR") ++ " NR=" ++ (← variableText "NR")))

/-- The number of a field. -/
def fieldNumber (x : Float) : Working Nat := do
  if x < 0 then failWhileWorking ("negative field index $" ++ numberText "%.6g" x)
  return (integerPart x).toNat

/-- The greatest number of a field. -/
def fieldLimit : Nat := 65536

/-- A field. -/
def fieldAt (n : Nat) : Working Value := do
  let b ← get
  if n == 0 then return b.record
  return (b.fields[n - 1]?).getD .nothing

/-- Makes the number of fields what it is to be. -/
def resizeFields (n : Nat) : Working Unit := do
  let n := min n fieldLimit
  modify fun b => { b with
    fields := b.fields.extract 0 n ++ Array.replicate (n - b.fields.size) (.text "") }

/-- Sets a field. -/
def setField (n : Nat) (v : Value) : Working Unit := do
  if n == 0 then setRecord (.ofInput (← textOf v))
  else
    if (← get).fields.size < n then resizeFields n
    modify fun b => { b with fields := b.fields.setIfInBounds (n - 1) v }
    joinFields

/-- The value of a variable. -/
def valueOf (name : String) : Working Value := do
  if name == "NF" then return .ofNat (← get).fields.size
  plainValue name

/-- Gives a variable a value. -/
def assign (name : String) (v : Value) : Working Unit := do
  if name == "NF" then
    resizeFields (integerPart v.toNumber).toNat
    joinFields
  else
    if let some (.table _) := ← slot? name then
      throw (.fault ("line 1: illegal reference to array " ++ name))
    setSlot name (.value v)

/-! ## Writing -/

/-- Writes what waits to a file. -/
def Sink.flush (o : Sink) : Run Sink := do
  if o.kind == .command || o.waiting.isEmpty then return o
  let _ ← Shell.writeTo o.channel (bytesOf (String.join o.waiting.reverse))
  return { o with waiting := [] }

/-- Writes what waits, but for what commands are to read. -/
def flush : Working Unit := do
  let b ← get
  if !b.waiting.isEmpty then say 1 (String.join b.waiting.reverse)
  let sinks ← b.sinks.mapM fun o => o.flush
  modify fun b => { b with waiting := [], sinks }

/-- Work whose input is given. -/
def reading (bytes : List UInt8) (work : Run Nat) : Run Nat := do
  let i ← Shell.addChannel (.source bytes)
  Shell.withDescriptor 0 i work

/-- Work whose output is taken; its status, and the output. -/
def taking (work : Run Nat) : Run (Nat × List UInt8) := do
  let i ← Shell.addChannel (.sink .empty)
  let status ← Shell.withDescriptor 1 i work
  match (← get).channels[i]? with
  | some (.sink bytes) => return (status, bytes.toList)
  | _ => return (status, [])

/-- Ends what is written to a file or to a command; the status. -/
def Sink.finish (s : Surroundings) (o : Sink) : Run Nat := do
  if o.kind == .command then
    reading (bytesOf (String.join o.waiting.reverse)) (s.command o.name)
  else
    let _ ← o.flush
    return 0

/-- The file or the command that something is written to. One that is not known is opened. -/
def openSink (kind : OutletKind) (name : String) : Working Sink := do
  if let some o := (← get).sinks.find? (·.name == name) then return o
  if kind == .command then
    flush
    return { name, kind }
  let empties := kind == .file
  match ← Shell.openPath { writes := true, empties, appends := !empties } name with
  | .ok channel => return { name, kind, channel }
  | .error e =>
    throw (.fault ("cannot open " ++ "\"" ++ name ++ "\" for output (" ++ e.words ++ ")"))

/-- Writes a text where it is told. -/
def writeTo (outlet : Option (OutletKind × String)) (s : String) : Working Unit := do
  match outlet with
  | none => modify fun b => { b with waiting := s :: b.waiting }
  | some (kind, name) =>
    if kind != .command && (name == "/dev/stdout" || name == "-") then
      modify fun b => { b with waiting := s :: b.waiting }
    else if kind != .command && name == "/dev/stderr" then say 2 s
    else
      let o ← openSink kind name
      modify fun b => { b with
        sinks := { o with waiting := s :: o.waiting } :: b.sinks.filter (·.name != name) }

/-- Closes files and commands; the status of the last, if there is one. -/
def close? (s : Surroundings) (name : String) : Working (Option Nat) := do
  let b ← get
  let mut status := none
  for o in b.sinks.filter (·.name == name) do
    status := some (← o.finish s)
  for o in b.sources.filter (·.name == name) do
    status := some o.status
  modify fun b => { b with
    sinks := b.sinks.filter (·.name != name), sources := b.sources.filter (·.name != name) }
  return status

/-- Ends all that is written. -/
def closeAll (s : Surroundings) : Working Unit := do
  for o in (← get).sinks do
    let _ ← o.finish s
  modify fun b => { b with sinks := [] }
  flush

/-! ## Reading -/

/-- What ends records. -/
def recordEnd : Working RecordEnd := do
  match (← variableText "RS").toList with
  | [] => return .emptyLines
  | [c] => return .one c.toNat.toUInt8
  | s =>
    match regexOf s with
    | .ok r => return .regex r
    | .error message => throw (.fault ("line 1: " ++ message))

/-- Sets a variable as an argument tells, with escapes. -/
def assignArgument (word : String) : Working Unit := do
  let name := word.toList.takeWhile (· != '=')
  let value := textWithin (word.toList.drop (name.length + 1))
  assign (String.ofList name) (.ofInput value)

/-- Whether an argument sets a variable. -/
def isAssignment (word : String) : Bool :=
  let name := word.toList.takeWhile (· != '=')
  word.contains '=' && name.all Regex.isWordChar && name.head?.any (!·.isDigit)

/-- The path of the next file among the arguments. Those before it that set variables do so. -/
def nextPath? : Nat → Working (Option String)
  | 0 => return none
  | n + 1 => do
    let i := (← get).argument
    if (← plainValue "ARGC").toNumber ≤ Float.ofNat i then return none
    modify fun b => { b with argument := i + 1 }
    let words ← tableOf "ARGV"
    let (isThere, value) ← onTable words fun t =>
      match t.values[toString i]? with
      | some v => ((true, v), t)
      | none => ((false, .nothing), t)
    let word ← textOf value
    if !isThere || word.isEmpty then nextPath? n
    else if isAssignment word then
      assignArgument word
      nextPath? n
    else return some word

/-- Begins to work on a file. -/
def openFile (path : String) (title : String) : Working Unit := do
  let opened ← Tool.openGiven path
  let found ← match opened with
    | .error e => pure (.error e)
    | .ok i =>
      if ← Tool.isPipe i then pure (.ok ([], some i))
      else pure ((← Tool.readAll i).map (·, none))
  match found with
  | .ok (bytes, more) =>
    modify fun b => { b with given := some bytes, more, hasOpened := true }
    setVariable "FILENAME" (.text title)
    setVariable "FNR" (.number 0)
  | .error .isADirectory => throw (.fault "read error (Is a directory)")
  | .error e => throw (.fault ("cannot open \"" ++ path ++ "\" (" ++ e.words ++ ")"))

/-- Counts a record up. -/
def countUp (name : String) : Working Unit := do
  setVariable name (.number ((← plainValue name).toNumber + 1))

/-- How many texts wait to be written before they are. -/
def waitingLimit : Nat := 512

/-- Sees to it that the next record is there as a whole. There is a turn for each time that a pipe
gives something. -/
def fetch : Nat → Working Unit
  | 0 => return
  | n + 1 => do
    let b ← get
    match b.given, b.more with
    | some bytes, some i =>
      let isWhole := match ← recordEnd with
        | .one e => bytes.contains e
        | _ => false
      if isWhole then return
      if waitingLimit < b.waiting.length then flush
      let some (new :: rest) ← Shell.takeSome? i blockSize | modify ({ · with more := none })
      modify ({ · with given := some (bytes ++ new :: rest) })
      fetch n
    | _, _ => return

/-- The next record of what is worked on. Files are tried so many times. -/
def nextRecord? : Nat → Working (Option String)
  | 0 => return none
  | n + 1 => do
    fetch Shell.takeLimit
    match (← get).given with
    | some bytes =>
      match (← recordEnd).first? bytes with
      | some (record, rest) =>
        modify fun b => { b with given := some rest }
        countUp "NR"
        countUp "FNR"
        return some record
      | none =>
        modify fun b => { b with given := none }
        nextRecord? n
    | none =>
      match ← nextPath? 65536 with
      | some path =>
        openFile path path
        nextRecord? n
      | none =>
        if (← get).hasOpened then return none
        openFile "-" ""
        nextRecord? n

/-- How many files are tried. -/
def fileLimit : Nat := 65536

/-- The file or the command that is read. One that is not known is opened. -/
def openSource? (s : Surroundings) (kind : LineKind) (name : String) :
    Working (Option Source) := do
  if let some o := (← get).sources.find? (·.name == name) then return some o
  if kind == .command then
    flush
    let (status, rest) ← taking (s.command name)
    return some { name, rest, status }
  match ← Tool.contents name with
  | .ok rest => return some { name, rest }
  | .error .isADirectory => throw (.fault "read error (Is a directory)")
  | .error _ => return none

/-- The next record of a file or of a command: none if it cannot be read, and nothing in it at its
end. -/
def sourceRecord? (s : Surroundings) (kind : LineKind) (name : String) :
    Working (Option (Option String)) := do
  match ← openSource? s kind name with
  | none => return none
  | some o =>
    let first? := (← recordEnd).first? o.rest
    let rest := (first?.map (·.2)).getD []
    modify fun b => { b with sources := { o with rest } :: b.sources.filter (·.name != name) }
    return some (first?.map (·.1))

end BuildingModel.Sandbox.Tool.Rules
