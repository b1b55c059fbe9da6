/-!
# Options of programs

The programs of the system take options anywhere among their arguments: letters after a dash, and
names after two, with values where the program expects them. A name may be cut short as long as it
is the only one with its start.
-/

namespace BuildingModel.Sandbox.Tool

/-- The options that a program knows. -/
structure Grammar where
  /-- The letters without a value. -/
  flags : String := ""
  /-- The letters with a value. -/
  valued : String := ""
  /-- The names, each with the letter it stands for. -/
  names : List (String × Char) := []
  /-- Whether no option follows an argument. -/
  early : Bool := false
  /-- Which words are arguments although a dash is in front. -/
  takes : String → Bool := fun _ => false

/-- What is found among arguments. -/
structure Parsed where
  /-- The options with their values. -/
  options : List (Char × String) := []
  /-- The other arguments. -/
  operands : List String := []
deriving Inhabited

namespace Parsed

/-- Whether an option is given. -/
def has (p : Parsed) (c : Char) : Bool := p.options.any (·.1 == c)

/-- The value of an option, the last one if there are several. -/
def value? (p : Parsed) (c : Char) : Option String := p.options.reverse.lookup c

/-- With one more option. -/
def withOption (c : Char) (value : String) (p : Parsed) : Parsed :=
  { p with options := (c, value) :: p.options }

/-- With one more argument. -/
def withOperand (s : String) (p : Parsed) : Parsed := { p with operands := s :: p.operands }

end Parsed

namespace Grammar

/-- The options in a row of letters, with the value that the last one takes from the row, or the
letter that still needs one. What fails is a letter that is not known. -/
def letters (g : Grammar) : List Char → Except Char (List (Char × String) × Option Char)
  | [] => .ok ([], none)
  | c :: rest => do
    if g.valued.contains c then
      return if rest.isEmpty then ([], some c) else ([(c, String.ofList rest)], none)
    else if g.flags.contains c then
      let (options, needy) ← letters g rest
      return ((c, "") :: options, needy)
    else throw c

/-- What is wrong with a letter that is not known. -/
def unknown (c : Char) : String := "invalid option -- '" ++ c.toString ++ "'"

/-- The letter that a name stands for. -/
def named (g : Grammar) (name : String) : Except String Char :=
  match g.names.lookup name with
  | some c => .ok c
  | none =>
    match g.names.filter fun (n, _) => n.startsWith name with
    | [(_, c)] => .ok c
    | [] => .error ("unrecognized option '--" ++ name ++ "'")
    | several =>
      .error ("option '--" ++ name ++ "' is ambiguous; possibilities:"
        ++ String.join (several.map fun (n, _) => " '--" ++ n ++ "'"))

/-- What is found among arguments, or what is wrong with them. -/
def parse (g : Grammar) : List String → Except String Parsed
  | [] => .ok {}
  | "--" :: rest => .ok { operands := rest }
  | [word] => do
    if g.takes word then return { operands := [word] }
    else if word.startsWith "--" then
      let name := String.ofList ((word.toList.drop 2).takeWhile (· != '='))
      let c ← g.named name
      let value := String.ofList (word.toList.drop (name.length + 3))
      if !word.contains '=' && g.valued.contains c then
        throw ("option '--" ++ name ++ "' requires an argument")
      return { options := [(c, value)] }
    else if word.startsWith "-" && word != "-" then
      match ← (g.letters (word.toList.drop 1)).mapError unknown with
      | (options, none) => return { options }
      | (_, some c) => throw ("option requires an argument -- '" ++ c.toString ++ "'")
    else return { operands := [word] }
  | word :: next :: rest => do
    if g.takes word then return { operands := word :: next :: rest }
    else if word.startsWith "--" then
      let name := String.ofList ((word.toList.drop 2).takeWhile (· != '='))
      let c ← g.named name
      if !word.contains '=' && g.valued.contains c then
        return (← g.parse rest).withOption c next
      let value := String.ofList (word.toList.drop (name.length + 3))
      return (← g.parse (next :: rest)).withOption c value
    else if word.startsWith "-" && word != "-" then
      match ← (g.letters (word.toList.drop 1)).mapError unknown with
      | (options, none) =>
        let p ← g.parse (next :: rest)
        return { p with options := options ++ p.options }
      | (options, some c) =>
        let p ← g.parse rest
        return { p with options := options ++ (c, next) :: p.options }
    else if g.early then return { operands := word :: next :: rest }
    else return (← g.parse (next :: rest)).withOperand word

end Grammar

end BuildingModel.Sandbox.Tool
