import BuildingModel.Sandbox.Shell.Format
import BuildingModel.Sandbox.Tool.Machine
import BuildingModel.Sandbox.Tool.Modes

/-!
# Places and sizes

The programs that tell where paths lead and what is there, that make files with names of their own,
and that copy or cut files by their bytes.
-/

namespace BuildingModel.Sandbox.Tool

open Shell (Run say tree changeTree)

/-! ## Where paths lead -/

/-- The path from the root of the place that a path leads to. Either all of it has to be there, or
all but the last name, or nothing. -/
def wholePath (t : FileTree) (needsAll needsNothing : Bool) (path : String) :
    Except FileError String :=
  let whole (names : List String) : String := octets ("/" ++ "/".intercalate names)
  match t.locate (textOf path) with
  | .ok (names, place?) =>
    if needsAll && place?.isNone then .error .notFound else .ok (whole names)
  | .error e =>
    if !needsNothing then .error e
    else .ok (whole ((FileTree.namesOf (textOf path)).foldl t.enter (t.origin (textOf path))))

/-- Tells the paths from the root of places. -/
def realpath : Program := fun name words =>
  withOptions { flags := "emqLPsz", names := [("canonicalize-existing", 'e'),
      ("canonicalize-missing", 'm'), ("quiet", 'q'), ("no-symlinks", 's'), ("zero", 'z')] } 1
      name words fun p => do
    if p.operands.isEmpty then return ← misuse 1 name "missing operand"
    onEach p.operands fun path => do
      match wholePath (← tree) (p.has 'e') (p.has 'm') path with
      | .ok s =>
        sayLine s (lineEnd p)
        return true
      | .error e =>
        if !p.has 'q' then report name (plainly path e)
        return false

/-- Tells what links stand for, or where paths lead. -/
def readlink : Program := fun name words =>
  withOptions { flags := "efmnqsvz", names := [("canonicalize", 'f'),
      ("canonicalize-existing", 'e'), ("canonicalize-missing", 'm'), ("no-newline", 'n'),
      ("quiet", 'q'), ("verbose", 'v'), ("zero", 'z')] } 1 name words fun p => do
    if p.operands.isEmpty then return ← misuse 1 name "missing operand"
    let follows := ['e', 'f', 'm'].any p.has
    onEach p.operands fun path => do
      let t ← tree
      let found := if follows then (wholePath t (p.has 'e') (p.has 'm') path).toOption
        else linkText? t path
      match found with
      | some s =>
        if p.has 'n' && p.operands.length == 1 then say 1 s else sayLine s (lineEnd p)
        return true
      | none => return false

/-- Tells the paths of programs. -/
def which : Program := fun name words =>
  withOptions { flags := "as" } 2 name words fun p => do
    let t ← tree
    let directories := (((← Shell.environment).lookup "PATH").getD "").splitOn ":"
    let runs (path : String) : Bool := match t.find (textOf path) with
      | .ok (.file f) => f.runs
      | _ => false
    let statuses ← p.operands.mapM fun word => do
      let paths := if word.contains '/' then [word]
        else directories.map (FileTree.pathIn · word)
      let found := paths.filter runs
      for path in if p.has 'a' then found else found.take 1 do
        if !p.has 's' then sayLine path
      return !found.isEmpty
    return statusOf (!statuses.isEmpty && statuses.all id)

/-! ## What is there -/

/-- The time of a file, in a form that a format tells. -/
def placeTime (time : Int) (format : String) : String :=
  String.ofList (timeText (secondsOf time) (16 * format.length) format.toList)

/-- What a directive of a format tells of something. -/
def sightText (path : String) (x : Sight) (directive : Char) : String :=
  let kindBits := match x.kind with
    | 'd' => 0o40000
    | 'l' => 0o120000
    | 'c' => 0o20000
    | 'p' => 0o10000
    | _ => 0o100000
  match directive with
  | 'n' => path
  | 'N' => quoted path ++ ((x.target.map fun s => " -> " ++ quoted s).getD "")
  | 's' => toString x.size
  | 'a' => permissionDigits x.mode
  | 'A' => x.letters
  | 'f' => String.ofList (Nat.toDigits 16 (x.mode + kindBits))
  | 'F' => x.kindText
  | 'h' => toString x.names
  | 'b' => toString (2 * x.blocks)
  | 'B' => "512"
  | 'o' => "4096"
  | 'U' | 'G' => "root"
  | 'u' | 'g' | 't' | 'T' => "0"
  | 'x' | 'y' | 'z' => placeTime x.time "%F %T.%N %z"
  | 'X' | 'Y' | 'Z' => placeTime x.time "%s"
  | 'w' => "-"
  | 'W' => "0"
  | '%' => "%"
  | _ => "?"

/-- A format for something, in which escapes may be carried out. There is a step for each
character. -/
def sightFormat (path : String) (x : Sight) (escapes : Bool) : Nat → List Char → List Char
  | 0, s => s
  | _, [] => []
  | n + 1, '%' :: s =>
    let flags := s.takeWhile fun c => "-0123456789".contains c
    match s.drop flags.length with
    | c :: rest =>
      let width := (String.ofList (flags.filter (· != '-'))).toNat?.getD 0
      Shell.pad flags width (sightText path x c).toList
        ++ sightFormat path x escapes n rest
    | [] => ['%']
  | n + 1, '\\' :: s =>
    if !escapes then '\\' :: sightFormat path x escapes n s
    else
      let (front, length) := Shell.escape {} s
      front ++ sightFormat path x escapes n (s.drop length)
  | n + 1, c :: s => c :: sightFormat path x escapes n s

/-- The format in which things are told of where none is given. -/
def usualFormat : String :=
  "  File: %n\n  Size: %-10s\tBlocks: %-10b IO Block: %-6o %F\nDevice: 0,1\tInode: 1           "
    ++ "Links: %h\nAccess: (0%a/%A)  Uid: (    0/    root)   Gid: (    0/    root)\n"
    ++ "Access: %x\nModify: %y\nChange: %z\n Birth: %w"

/-- Tells what is at the ends of paths. -/
def stat : Program := fun name words =>
  withOptions { flags := "Lft", valued := "c#", names := [("format", 'c'), ("printf", '#'),
      ("dereference", 'L'), ("terse", 't')] } 1 name words fun p => do
    if p.operands.isEmpty then return ← misuse 1 name "missing operand"
    let (format, escapes, ending) := match p.value? '#', p.value? 'c' with
      | some s, _ => (s, true, "")
      | none, some s => (s, false, "\n")
      | none, none => (usualFormat, false, "\n")
    onEach p.operands fun path => do
      match Sight.ofPath (← tree) (p.has 'L') path with
      | .ok x =>
        say 1 (String.ofList (sightFormat path x escapes format.length format.toList) ++ ending)
        return true
      | .error e => complainOf name "cannot statx" path e.words

/-! ## Files with names of their own -/

/-- So many letters and digits that tell a number. -/
def letteredNumber : Nat → Nat → List Char
  | 0, _ => []
  | n + 1, i =>
    let letters := "abcdefghijklmnopqrstuvwxyzABCDEFGHIJKLMNOPQRSTUVWXYZ0123456789".toList
    (letters[i % 62]?).getD 'a' :: letteredNumber n (i / 62)

/-- The path of something that is not there yet, given what is before and after the letters that
are told by a number. So many numbers are tried. -/
def freePath? (t : FileTree) (front ending : String) (length : Nat) : Nat → Nat → Option String
  | 0, _ => none
  | n + 1, i =>
    let path := front ++ String.ofList (letteredNumber length (i * 7919 + 104729)) ++ ending
    match t.locate (textOf path) with
    | .ok (_, none) => some path
    | .ok (_, some _) => freePath? t front ending length n (i + 1)
    | .error _ => some path

/-- Makes a file or a directory with a name of its own. -/
def mktemp : Program := fun name words =>
  withOptions { flags := "dqut~", valued := "p#", names := [("directory", 'd'), ("dry-run", 'u'),
      ("quiet", 'q'), ("suffix", '#'), ("tmpdir", '~')] } 1 name words fun p => do
    if (p.operands.drop 1).length != 0 then return ← misuse 1 name "too many templates"
    let complain (message : String) : Run Nat := do
      if !p.has 'q' then report name message
      return 1
    let usual := ((← Shell.environment).lookup "TMPDIR").getD "/tmp"
    let given := if p.has '~' && (p.value? '~').any (!·.isEmpty) then p.value? '~'
      else p.value? 'p'
    let isBelow := p.operands.isEmpty || p.has 'p' || p.has 't' || p.has '~'
    let directory := given.getD usual
    let template := p.operands.headD "tmp.XXXXXXXXXX"
    let path := if isBelow then directory ++ "/" ++ template else template
    let ending := (p.value? '#').getD ""
    let back := path.toList.reverse.dropWhile (· != 'X')
    let ending := String.ofList (path.toList.drop back.length) ++ ending
    let marks := (back.takeWhile (· == 'X')).length
    if marks < 3 then return ← complain ("too few X's in template " ++ quoted template)
    let front := String.ofList (back.drop marks).reverse
    match freePath? (← tree) front ending marks 4096 (← tree).files.length with
    | none => complain "failed"
    | some found =>
      match (← tree).locate (textOf found) with
      | .ok (names, none) =>
        if !p.has 'u' then
          if p.has 'd' then
            let time ← Shell.now
            changeTree (·.makeDirectory names 0o700 time)
          else Shell.putFile names { mode := 0o600 }
        sayLine found
        return 0
      | _ =>
        complain ("failed to create " ++ (if p.has 'd' then "directory" else "file")
          ++ " via template " ++ quoted (path ++ (p.value? '#').getD "")
          ++ ": No such file or directory")

/-! ## Bytes -/

/-- A size with its unit. -/
def sizeOf? (s : String) : Option Nat := do
  let digits := s.toList.takeWhile Char.isDigit
  if digits.isEmpty then none
  let unit ← [("", 1), ("c", 1), ("w", 2), ("b", 512), ("k", 1024), ("K", 1024), ("kB", 1000),
    ("KB", 1000), ("KiB", 1024), ("M", 1048576), ("MB", 1000000), ("MiB", 1048576),
    ("G", 1073741824), ("GB", 1000000000)].lookup (String.ofList (s.toList.drop digits.length))
  return Text.digitsValue digits * unit

/-- The size that a word asks for, given the size that there is. -/
def sizeAsked? (old : Nat) (word : String) : Option Nat :=
  let rest := (word.drop 1).toString
  match word.toList.head? with
  | some '+' => (sizeOf? rest).map (old + ·)
  | some '-' => (sizeOf? rest).map (old - ·)
  | some '<' => (sizeOf? rest).map (min old)
  | some '>' => (sizeOf? rest).map (max old)
  | some '/' => (sizeOf? rest).map fun n => if n == 0 then old else old / n * n
  | some '%' => (sizeOf? rest).map fun n => if n == 0 then old else (old + n - 1) / n * n
  | _ => sizeOf? word

/-- Makes files as long as told. -/
def truncate : Program := fun name words =>
  withOptions { flags := "co", valued := "sr", names := [("size", 's'), ("no-create", 'c'),
      ("reference", 'r')] } 1 name words fun p => do
    let some size := p.value? 's'
      | misuse 1 name "you must specify either '--size' or '--reference'"
    if p.operands.isEmpty then return ← misuse 1 name "missing file operand"
    if (sizeAsked? 0 size).isNone then
      return ← failWith 1 name ("Invalid number: " ++ quoted size)
    onEach p.operands fun path => do
      match (← tree).locate (textOf path) with
      | .ok (names, some (.file f)) =>
        let n := (sizeAsked? f.bytes.length size).getD 0
        let bytes := f.bytes.take n ++ List.replicate (n - f.bytes.length) 0
        Shell.putFile names { f with bytes }
        return true
      | .ok (names, none) =>
        if !p.has 'c' then
          let mode ← Shell.newMode 0o666
          let bytes := List.replicate ((sizeAsked? 0 size).getD 0) 0
          Shell.putFile names { bytes, mode }
        return true
      | .ok (_, some .directory) =>
        complainOf name "cannot open" path ("for writing: Is a directory")
      | .error e =>
        report name ("cannot open " ++ quoted path ++ " for writing: " ++ e.words)
        return false

/-- What the words of `dd` ask for. -/
structure BlockCopy where
  /-- The file that is read. -/
  source : Option String := none
  /-- The file that is written. -/
  target : Option String := none
  /-- How many bytes are read at a time. -/
  readSize : Nat := 512
  /-- How many bytes are written at a time. -/
  writeSize : Nat := 512
  /-- How many times bytes are read. -/
  count : Option Nat := none
  /-- How many blocks are passed over where bytes are read. -/
  skip : Nat := 0
  /-- How many blocks are passed over where bytes are written. -/
  seek : Nat := 0
  /-- How bytes are changed. -/
  changes : List String := []
  /-- What is told of the work. -/
  told : String := ""

/-- With one more word; or what is wrong with it. -/
def BlockCopy.add (o : BlockCopy) (word : String) : Except String BlockCopy := do
  let key := String.ofList (word.toList.takeWhile (· != '='))
  let value := (word.drop (key.length + 1)).toString
  let number : Except String Nat := match sizeOf? value with
    | some n => .ok n
    | none => .error ("invalid number: " ++ quoted value)
  if !word.contains '=' then throw ("unrecognized operand " ++ quoted word)
  match key with
  | "if" => return { o with source := some value }
  | "of" => return { o with target := some value }
  | "ibs" => return { o with readSize := max 1 (← number) }
  | "obs" => return { o with writeSize := max 1 (← number) }
  | "bs" => return { o with readSize := max 1 (← number), writeSize := max 1 (← number) }
  | "count" => return { o with count := some (← number) }
  | "skip" | "iseek" => return { o with skip := ← number }
  | "seek" | "oseek" => return { o with seek := ← number }
  | "conv" => return { o with changes := value.splitOn "," }
  | "status" => return { o with told := value }
  | "iflag" | "oflag" | "cbs" => return o
  | _ => throw ("unrecognized operand " ++ quoted word)

/-- Bytes with the two of each pair exchanged. -/
def swapPairs : List UInt8 → List UInt8
  | a :: b :: rest => b :: a :: swapPairs rest
  | rest => rest

/-- Bytes changed as asked for. -/
def BlockCopy.changed (o : BlockCopy) (bytes : List UInt8) : List UInt8 :=
  let case (f : Char → Char) (bytes : List UInt8) : List UInt8 :=
    bytes.map fun b => (f (Char.ofNat b.toNat)).toNat.toUInt8
  let bytes := if o.changes.contains "ucase" then case Char.toUpper bytes else bytes
  let bytes := if o.changes.contains "lcase" then case Char.toLower bytes else bytes
  if o.changes.contains "swab" then swapPairs bytes else bytes

/-- How many whole and broken blocks bytes make. -/
def blockCount (size length : Nat) : String :=
  toString (length / size) ++ "+" ++ (if length % size == 0 then "0" else "1")

/-- Copies bytes, as words such as "bs=1" tell. -/
def dd : Program := fun name words => do
  match words.foldlM BlockCopy.add {} with
  | .error message =>
    if message.startsWith "unrecognized" then misuse 1 name message else failWith 1 name message
  | .ok o =>
    let limit := o.count.map (· * o.readSize)
    let channel? ← match o.source with
      | none => pure (Except.ok ((← Shell.channelOf? 0).getD 0))
      | some path => Shell.openPath { reads := true } path
    match channel? with
    | .error e =>
      failWith 1 name ("failed to open " ++ quoted (o.source.getD "") ++ ": " ++ e.words)
    | .ok channel =>
      let _ ← Shell.take? channel (some (o.skip * o.readSize))
      let bytes := (← Shell.take? channel limit).getD []
      let changed := o.changed bytes
      match o.target with
      | none => emit changed
      | some path =>
        match ← Shell.openPath { writes := true } path with
        | .error e => return ← failWith 1 name ("failed to open " ++ quoted path ++ ": " ++ e.words)
        | .ok i =>
          match ((← get).channels[i]?).getD .closed with
          | .file names .. =>
            let offset := o.seek * o.writeSize
            let old := ((← tree).files.lookup names).getD {}
            let kept := if o.changes.contains "notrunc" then old.bytes else old.bytes.take offset
            Shell.putFile names { old with bytes := Shell.overwrite kept changed offset }
          | _ =>
            let _ ← Shell.writeTo i changed
      if o.told != "none" then
        say 2 (blockCount o.readSize bytes.length ++ " records in\n"
          ++ blockCount o.writeSize changed.length ++ " records out\n")
        if o.told != "noxfer" then
          say 2 (toString changed.length ++ (if changed.length == 1 then " byte" else " bytes")
            ++ " copied, 0 s, 0 B/s\n")
      return 0

end BuildingModel.Sandbox.Tool
