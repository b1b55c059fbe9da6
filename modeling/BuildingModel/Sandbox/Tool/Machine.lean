import BuildingModel.Sandbox.Shell.Format
import BuildingModel.Sandbox.Tool.Calendar

/-!
# The machine and its clock

The programs that tell about the machine, its user and the time.
-/

namespace BuildingModel.Sandbox.Tool

open Shell (Run tree)

/-! ## The machine -/

/-- Tells about the system. -/
def uname : Program := fun name words =>
  withOptions { flags := "asnrvmpio", names := [("all", 'a'), ("kernel-name", 's'),
      ("machine", 'm'), ("operating-system", 'o')] } 1 name words fun p => do
    if let some extra := p.operands.head? then
      return ← misuse 1 name ("extra operand " ++ quoted extra)
    let known := [('s', "Linux"), ('n', "localhost"), ('r', "6.0.0"), ('v', "#1 SMP"),
      ('m', "x86_64"), ('p', "x86_64"), ('i', "x86_64"), ('o', "GNU/Linux")]
    let asked := known.filter fun (c, _) =>
      p.has c || (p.has 'a' && c != 'p' && c != 'i') || (p.options.isEmpty && c == 's')
    sayLine (" ".intercalate (asked.map (·.2)))
    return 0

/-- Tells who the user is. -/
def userId : Program := fun name words =>
  withOptions { flags := "agGnruz", names := [("user", 'u'), ("group", 'g'), ("groups", 'G'),
      ("name", 'n'), ("real", 'r')] } 1 name words fun p => do
    let asked := ['u', 'g', 'G'].any p.has
    if !asked then sayLine "uid=0(root) gid=0(root) groups=0(root)"
    else sayLine (if p.has 'n' then "root" else "0")
    return 0

/-- Writes a text that does not depend on anything. -/
def fixedAnswer (text : String) (status : Nat := 0) : Program := fun _ _ => do
  sayLine text
  return status

/-! ## The time -/

/-- The formats of times that may be asked for by their names. -/
def isoFormats : List (String × String) :=
  [("date", "%F"), ("hours", "%FT%H+00:00"), ("minutes", "%FT%H:%M+00:00"),
   ("seconds", "%FT%T+00:00"), ("ns", "%FT%T,%N+00:00")]

/-- A word in which the name of a format is apart from its option. -/
def isoWord (word : String) : String :=
  if word.startsWith "-I" && word.length > 2 then "--format=" ++ (word.drop 2).toString
  else if word.startsWith "--iso-8601=" then "--format=" ++ (word.drop 11).toString
  else word

/-- Tells the time in a format. -/
def date : Program := fun name words =>
  withOptions { flags := "uRI", valued := "dfrs#", names := [("format", '#'), ("date", 'd'),
      ("utc", 'u'), ("universal", 'u'), ("rfc-email", 'R'), ("iso-8601", 'I'),
      ("reference", 'r')] } 1 name (words.map isoWord) fun p => do
    let present ← presentTime
    let asked := (p.value? 'd').getD "now"
    let ofFile ← match p.value? 'r' with
      | none => pure none
      | some path =>
        match (← tree).locate (textOf path) with
        | .ok (names, some place) => pure (some (secondsOf ((← tree).timeAt names place)))
        | .ok (_, none) => return ← failWith 1 name (plainly path .notFound)
        | .error e => return ← failWith 1 name (plainly path e)
    let some seconds := ofFile <|> timeOf? present asked
      | failWith 1 name ("invalid date " ++ quoted asked)
    let iso? := (p.value? '#').bind fun s => isoFormats.lookup s
    let usual := if let some format := iso? then format
      else if p.has 'R' then "%a, %d %b %Y %H:%M:%S %z" else if p.has 'I' then "%F"
      else "%a %b %e %H:%M:%S %Z %Y"
    match p.operands with
    | _ :: extra :: _ => misuse 1 name ("extra operand " ++ quoted extra)
    | [word] =>
      if !word.startsWith "+" then return ← failWith 1 name ("invalid date " ++ quoted word)
      let format := (word.drop 1).toString
      sayLine (String.ofList (timeText seconds (4 * format.length * 9) format.toList))
      return 0
    | [] =>
      sayLine (String.ofList (timeText seconds 256 usual.toList))
      return 0

end BuildingModel.Sandbox.Tool
