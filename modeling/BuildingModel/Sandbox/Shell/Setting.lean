import BuildingModel.Sandbox.Shell.State
import BuildingModel.Sandbox.Tool.Options
import BuildingModel.Text.Digits

/-!
# Commands on variables and options

The commands of the shell itself that change variables, options and arguments. Each gives its
status.
-/

namespace BuildingModel.Sandbox.Shell

/-! ## Arguments of commands -/

/-- The options in a word, with the letter that still needs a value. -/
def optionsIn (g : Tool.Grammar) (word : String) : Run (List (Char × String) × Option Char) := do
  match g.letters (word.toList.drop 1) with
  | .ok found => return found
  | .error c => refuse ("Illegal option -" ++ c.toString)

/-- Takes the options off the arguments of a command; the options with their values, and the other
arguments. -/
def takeOptions (g : Tool.Grammar) : List String → Run (List (Char × String) × List String)
  | [] => return ([], [])
  | [word] => do
    if word == "--" then return ([], [])
    else if word == "-" || !word.startsWith "-" then return ([], [word])
    match ← optionsIn g word with
    | (found, none) => return (found, [])
    | (_, some c) => refuse ("No arg for -" ++ c.toString ++ " option")
  | word :: next :: rest => do
    if word == "--" then return ([], next :: rest)
    else if word == "-" || !word.startsWith "-" then return ([], word :: next :: rest)
    match ← optionsIn g word with
    | (found, none) =>
      let (more, rest) ← takeOptions g (next :: rest)
      return (found ++ more, rest)
    | (found, some c) =>
      let (more, rest) ← takeOptions g rest
      return (found ++ (c, next) :: more, rest)

/-- Whether an option is among those that were taken off. -/
def isTaken (found : List (Char × String)) (c : Char) : Bool := found.any (·.1 == c)

/-- The number that an argument is. -/
def numberIn (word : String) : Run Nat := do
  match word.toNat? with
  | some n => return n
  | none =>
    let extended := (← context).extended
    refuse (if extended then word ++ ": numeric argument required" else "Illegal number: " ++ word)

/-- The number in front of arguments. -/
def countIn (words : List String) (default : Nat) : Run Nat := do
  match words with
  | [] => return default
  | word :: _ => numberIn word

/-! ## Variables -/

/-- Whether a text is the name of a variable. -/
def isVariableName (s : String) : Bool :=
  match s.toList with
  | c :: rest => (c.isAlpha || c == '_') && rest.all fun c => c.isAlphanum || c == '_'
  | [] => false

/-- Refuses what is not the name of a variable. -/
def needName (name : String) : Run Unit := do
  if !isVariableName name then refuse (name ++ ": bad variable name")

/-- The name and the value in an argument. -/
def splitAssignment (s : String) : String × Option String :=
  let name := s.toList.takeWhile (· != '=')
  (String.ofList name,
    if name.length == s.length then none
    else some (String.ofList (s.toList.drop (name.length + 1))))

/-- A text between quotes, as a shell would read it. Each step takes off a text without a quote, and
the quotes after it. -/
def quotedText : Nat → List Char → List Char
  | 0, _ => []
  | n + 1, s =>
    let front := s.takeWhile (· != '\'')
    let rest := s.drop front.length
    let quotes := rest.takeWhile (· == '\'')
    let after := rest.drop quotes.length
    let shown := '\'' :: front ++ ['\'']
    if quotes.isEmpty then shown
    else
      shown ++ '"' :: quotes ++ '"' :: if after.isEmpty then [] else quotedText n after

/-- A text between quotes. -/
def quoteText (s : String) : String := String.ofList (quotedText (s.length + 1) s.toList)

/-- Writes variables with their values, in order of their names. -/
def showVariables (front : String) (shown : Variable → Bool) : Run Nat := do
  let found := (← context).bindings.filter fun (_, v) => shown v
  for (name, v) in found.mergeSort fun a b => decide (a.1 ≤ b.1) do
    say 1 (front ++ name ++ (match v.value with
      | some value => "=" ++ quoteText value
      | none => "") ++ "\n")
  return 0

/-- Changes the variables that are named, after setting those that are given a value. Without a
name, writes those that are so. -/
def mark (front : String) (f : Variable → Variable) (has : Variable → Bool) (words : List String) :
    Run Nat := do
  let (found, words) ← takeOptions { flags := "p" } words
  if isTaken found 'p' || words.isEmpty then return ← showVariables (front ++ " ") has
  for word in words do
    let (name, value) := splitAssignment word
    needName name
    if let some v := value then assign name v
    putVariable name (some (f ((← lookUp? name).getD {})))
  return 0

/-- Makes variables a function's own. -/
def ownVariables (words : List String) : Run Nat := do
  match (← context).locals with
  | [] => refuse "not in a function"
  | own :: outer =>
    let mut own := own
    for word in words do
      let (name, value) := splitAssignment word
      if isVariableName name then
        if (own.lookup name).isNone then own := (name, ← lookUp? name) :: own
        change ({ · with locals := own :: outer })
        if let some v := value then assign name v
      else if word != "-" then refuse (name ++ ": bad variable name")
    return 0

/-- Removes variables or functions. -/
def unset (words : List String) : Run Nat := do
  let (found, words) ← takeOptions { flags := "fv" } words
  for word in words do
    if isTaken found 'f' then
      change fun c => { c with functions := c.functions.filter (·.1 != word) }
    else
      needName word
      if ((← lookUp? word).getD {}).fixed then refuse (word ++ ": is read only")
      putVariable word none
  return 0

/-! ## Options and arguments -/

/-- The names of the options with their letters, in the order in which they are shown. -/
def namedOptions : List (String × Char) :=
  [("errexit", 'e'), ("noglob", 'f'), ("ignoreeof", 'I'), ("interactive", 'i'), ("monitor", 'm'),
   ("noexec", 'n'), ("stdin", 's'), ("xtrace", 'x'), ("verbose", 'v'), ("vi", 'V'), ("emacs", 'E'),
   ("noclobber", 'C'), ("allexport", 'a'), ("notify", 'b'), ("nounset", 'u'), ("privileged", 'p'),
   ("nolog", 'N'), ("debug", 'D')]

/-- Turns an option on or off. -/
def turn (on : Bool) (c : Char) : Run Unit :=
  change fun s =>
    let others := s.options.filter (· != c)
    { s with options := if on then c :: others else others }

/-- Writes which options are on, for a reader or for a shell. -/
def showOptions (forShell : Bool) : Run Unit := do
  let on := (← context).options
  if !forShell then say 1 "Current option settings\n"
  for (name, c) in namedOptions do
    let blanks := String.ofList (List.replicate (16 - name.length) ' ')
    if forShell then
      say 1 ("set " ++ (if on.contains c then "-o " else "+o ") ++ name ++ "\n")
    else say 1 (name ++ blanks ++ (if on.contains c then "on" else "off") ++ "\n")

/-- Turns the option with a name on or off. -/
def turnNamed (on : Bool) (name : String) : Run Unit := do
  match namedOptions.lookup name with
  | some c => turn on c
  | none =>
    if (← context).extended && name == "pipefail" then turn on 'P'
    else refuse ("Illegal option " ++ (if on then "-o " else "+o ") ++ name)

/-- Turns the options in front of arguments on and off, some more among them; the arguments after
them, if any are named. -/
def turnOptions (more : String) : List String → Run (Option (List String))
  | [] => return none
  | word :: rest => do
    let on := word.startsWith "-"
    let letters := word.toList.drop 1
    if word == "--" then return some rest
    else if word == "-" then
      turn false 'x'
      turn false 'v'
      return if rest.isEmpty then none else some rest
    else if letters.isEmpty || !(on || word.startsWith "+") then return some (word :: rest)
    for c in letters do
      if !("efIimnsxvVECabuop" ++ more).contains c then
        refuse ("Illegal option " ++ (if on then "-" else "+") ++ c.toString)
      if c != 'o' then turn on c
    if !letters.contains 'o' then turnOptions more rest
    else
      match rest with
      | [] =>
        showOptions (!on)
        return none
      | name :: rest =>
        turnNamed on name
        turnOptions more rest

/-- Begins anew to take options off the arguments. -/
def resetOptions : Run Unit :=
  change ({ · with optionIndex := 1, within := none })

/-- Sets options and arguments. Without any, writes the variables. -/
def setOptions (words : List String) : Run Nat := do
  if words.isEmpty then return ← showVariables "" (·.value.isSome)
  if let some arguments ← turnOptions "" words then
    change ({ · with arguments })
    resetOptions
  return 0

/-- Removes arguments from the front. -/
def shift (words : List String) : Run Nat := do
  let n ← countIn words 1
  if n > (← context).arguments.length then
    if (← context).extended then return 1
    refuse "can't shift that many"
  change fun c => { c with arguments := c.arguments.drop n }
  resetOptions
  return 0

/-! ## Permissions of new files -/

/-- The bits of a letter of a permission, for each of those that may have it. -/
def permissionBits : Char → Option Nat
  | 'r' => some 0o444
  | 'w' => some 0o222
  | 'x' => some 0o111
  | 's' => some 0
  | _ => none

/-- The bits of the letter of those who may have permissions. -/
def holderBits : Char → Option Nat
  | 'u' => some 0o700
  | 'g' => some 0o070
  | 'o' => some 0o007
  | 'a' => some 0o777
  | _ => none

/-- The permissions, for each of those that may have them, that one of them has. -/
def permissionsOf (granted : Nat) (c : Char) : Option Nat :=
  let digit? : Option Nat := match c with
    | 'u' => some (granted / 64 % 8)
    | 'g' => some (granted / 8 % 8)
    | 'o' => some (granted % 8)
    | _ => none
  digit?.map (· * 0o111)

/-- The permissions that are granted after the changes of a clause, each a sign with letters; none
if it is no clause. There is a step for each change. -/
def afterChanges (holders : Nat) : Nat → List Char → Nat → Option Nat
  | 0, _, granted | _, [], granted => some granted
  | n + 1, sign :: rest, granted => do
    if !(['+', '-', '='].contains sign) then none
    else
      let letters := rest.takeWhile fun c => !(['+', '-', '='].contains c)
      let bits ← match letters.mapM permissionBits, letters with
        | some found, _ => some (found.foldl Nat.lor 0)
        | none, [c] => permissionsOf granted c
        | none, _ => none
      let bits := bits.land holders
      let granted := match sign with
        | '+' => granted.lor bits
        | '-' => granted - granted.land bits
        | _ => (granted - granted.land holders).lor bits
      afterChanges holders n (rest.drop letters.length) granted

/-- The permissions that are granted after a clause. -/
def afterClause (clause : List Char) (granted : Nat) : Option Nat := do
  let letters := clause.takeWhile fun c => (holderBits c).isSome
  let holders := (letters.filterMap holderBits).foldl Nat.lor 0
  let changes := clause.drop letters.length
  if changes.isEmpty then none
  else afterChanges (if letters.isEmpty then 0o777 else holders) clause.length changes granted

/-- The mask after a mode in words; none if it is no mode. -/
def maskAfter (mode : String) (mask : Nat) : Option Nat :=
  if mode.isEmpty then some mask
  else
    ((mode.splitOn ",").foldlM (fun granted clause => afterClause clause.toList granted)
      (0o777 - mask)).map (0o777 - ·)

/-- Shows the permissions that new files are not given, or changes them. -/
def umask (words : List String) : Run Nat := do
  let (found, words) ← takeOptions { flags := "S" } words
  let mask := (← context).mask
  let digit (n : Nat) : Nat := mask / Nat.pow 8 n % 8
  match words with
  | [] =>
    if isTaken found 'S' then
      let letters (n : Nat) : String := String.ofList ((['r', 'w', 'x'].zip [4, 2, 1]).filterMap
        fun (c, bit) => if (digit n).land bit == 0 then some c else none)
      say 1 ("u=" ++ letters 2 ++ ",g=" ++ letters 1 ++ ",o=" ++ letters 0 ++ "\n")
    else say 1 ("0" ++ String.join ([2, 1, 0].map fun n => toString (digit n)) ++ "\n")
  | word :: _ =>
    if word.toList.head?.any Char.isDigit then
      if !word.toList.all fun c => '0' ≤ c && c ≤ '7' then refuse ("Illegal number: " ++ word)
      change ({ · with
        mask := word.toList.foldl (fun n c => n * 8 + Text.digitValue c) 0 % 512 })
    else match maskAfter word mask with
      | some mask => change ({ · with mask })
      | none => refuse ("Illegal mode: " ++ word)
  return 0

/-! ## Texts that stand for commands -/

/-- The place of a name among so many lists of a table of names. -/
def namePlace (size : Nat) (name : String) : Nat :=
  let codes := name.toList.map Char.toNat
  (codes.foldl (· + ·) (16 * codes.headD 0)) % size

/-- The text that stands for a command as a shell would read it. -/
def aliasText (name text : String) : String := name ++ "=" ++ quoteText text

/-- Shows texts that stand for commands, or sets them. -/
def setAliases (words : List String) : Run Nat := do
  let c ← context
  let front := if c.extended then "alias " else ""
  if words.isEmpty then
    let place (a : String × String) : Nat := namePlace 39 a.1
    for (name, text) in c.aliases.mergeSort fun a b => place a ≤ place b do
      say 1 (front ++ aliasText name text ++ "\n")
  let mut status := 0
  for word in words do
    let (name, value) := splitAssignment word
    match value with
    | some text =>
      if !name.isEmpty then
        change fun c =>
          let isOld := (c.aliases.lookup name).isSome
          { c with aliases :=
              if isOld then c.aliases.map fun (x, t) => if x == name then (x, text) else (x, t)
              else c.aliases ++ [(name, text)] }
        continue
    | none => pure ()
    match (← context).aliases.lookup word with
    | some text => say 1 (front ++ aliasText word text ++ "\n")
    | none =>
      if c.extended then complain (word ++ ": not found")
      else say 2 ("alias: " ++ word ++ " not found\n")
      status := 1
  return status

/-- Removes texts that stand for commands. -/
def dropAliases (words : List String) : Run Nat := do
  let (found, words) ← takeOptions { flags := "a" } words
  if isTaken found 'a' then change ({ · with aliases := [] })
  let mut status := 0
  for word in words do
    let c ← context
    if (c.aliases.lookup word).isSome then
      change ({ · with aliases := c.aliases.filter (·.1 != word) })
    else
      if c.extended then complain (word ++ ": not found")
      else say 2 ("unalias: " ++ word ++ " not found\n")
      status := 1
  return status

/-! ## Options of scripts -/

/-- What follows a letter in a row of options. -/
def afterLetter (letter : Char) : List Char → Option (List Char)
  | [] => none
  | c :: ':' :: rest => if c == letter then some (':' :: rest) else afterLetter letter rest
  | c :: rest => if c == letter then some rest else afterLetter letter rest

/-- The word whose options are taken off, what is left of it, and the place of the next word; none
if no option is left. -/
def currentOption? (c : Context) (arguments : List String) : Option (List Char × Nat) × Nat :=
  let index := c.optionIndex
  let before := if index ≤ 1 then [] else ((arguments[index - 2]?).getD "").toList
  let left := match c.within with
    | some offset => before.drop offset
    | none => []
  if !left.isEmpty then (some (left, index), index)
  else
    match arguments[index - 1]? with
    | none => (none, index)
    | some word =>
      if word == "--" then (none, index + 1)
      else if word.startsWith "-" && word.length > 1 then
        (some (word.toList.drop 1, index + 1), index + 1)
      else (none, index)

/-- Takes an option off the arguments. -/
def getopts (words : List String) : Run Nat := do
  match words with
  | options :: name :: given =>
    needName name
    let silent := options.startsWith ":"
    let known := if silent then options.toList.drop 1 else options.toList
    let c ← context
    let arguments := if given.isEmpty then c.arguments else given
    let finish (letter : Char) (index : Nat) (within : Option Nat) (status : Nat) : Run Nat := do
      assign "OPTIND" (toString index)
      assign name letter.toString
      change ({ · with optionIndex := index, within })
      return status
    match currentOption? c arguments with
    | (none, index) => finish '?' index none 1
    | (some ([], index), _) => finish '?' index none 1
    | (some (letter :: rest, index), _) =>
      let size := ((arguments[index - 2]?).getD "").length
      let within := some (size - rest.length)
      match if letter == ':' then none else afterLetter letter known with
      | none =>
        if silent then assign "OPTARG" letter.toString
        else
          putVariable "OPTARG" none
          say 2 ("Illegal option -" ++ letter.toString ++ "\n")
        finish '?' index within 0
      | some after =>
        if after.head? != some ':' then
          assign "OPTARG" ""
          finish letter index within 0
        else if !rest.isEmpty then
          assign "OPTARG" (String.ofList rest)
          finish letter index none 0
        else
          match arguments[index - 1]? with
          | some value =>
            assign "OPTARG" value
            finish letter (index + 1) none 0
          | none =>
            if silent then
              assign "OPTARG" letter.toString
              finish ':' index none 0
            else
              putVariable "OPTARG" none
              say 2 ("No arg for -" ++ letter.toString ++ " option\n")
              finish '?' index none 0
  | _ => refuse "Usage: getopts optstring var [arg...]"

end BuildingModel.Sandbox.Shell
