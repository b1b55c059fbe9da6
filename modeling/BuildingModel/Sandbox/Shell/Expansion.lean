import BuildingModel.Sandbox.Shell.Braces
import BuildingModel.Sandbox.Shell.Control
import BuildingModel.Sandbox.Shell.Fields
import BuildingModel.Sandbox.Shell.Names
import BuildingModel.Sandbox.Shell.Sum

/-!
# Expansions

The parts of a word are expanded one after another into glyphs, which are split into fields. A field
that is a pattern becomes the paths that it stands for.
-/

namespace BuildingModel.Sandbox.Shell

/-! ## Values -/

/-- The glyphs of the arguments, which end where an argument does. -/
def argumentGlyphs (quoted : Bool) (between : String) (arguments : List String) : List Glyph :=
  ((arguments.map (Glyph.ofValue quoted)).intersperse [.cut between]).flatten

/-- Glyphs of which those that are not quoted may separate fields. -/
def asValue (glyphs : List Glyph) : List Glyph :=
  glyphs.map fun
    | .char c quoted _ => .char c quoted (!quoted)
    | glyph => glyph

/-- Ends the shell, as a parameter is not set. -/
def lacking {α : Type} (name message : String) : Run α := do
  give (name ++ ": " ++ message) (if (← context).extended then 1 else 2)

/-- The value of a variable in an expression. In the extended shell a value that is a name stands
for the value of that one, down to a few levels. -/
def sumValue (c : Context) : Nat → String → Except String String
  | levels, name =>
    match (c.bindings.lookup name).bind (·.value), levels with
    | some value, n + 1 =>
      if c.extended && isName value then sumValue c n value else .ok value
    | some value, 0 => .ok value
    | none, _ =>
      if c.extended && c.options.contains 'u' then .error (name ++ ": unbound variable") else .ok ""

/-- Whether what is wrong with an expression is wrong with a variable in it. -/
def isValueFault (message : String) : Bool :=
  message.startsWith "Illegal number" || message.endsWith "unbound variable"

/-- The value of an expression, which may set variables. -/
def reckon (text : String) : Run Int := do
  let c ← context
  match Sum.evaluate c.extended (sumValue c 8) text.toList with
  | .ok (n, assigned) =>
    for (name, value) in assigned do orEnd (assign name (toString value))
    return n
  | .error message =>
    if isValueFault message then give message
    else if c.extended then
      let last := text.toList.reverse.takeWhile fun c => c != '/' && c != '%'
      let token := (last.reverse.dropWhile (· == ' '))
      give (text ++ ": " ++ (if message == "division by zero" then
        "division by 0 (error token is \"" ++ String.ofList token ++ "\")" else message)) 1
    else give ("arithmetic expression: " ++ message ++ ": \"" ++ text ++ "\"")

/-- The glyphs before the first slash that is not quoted, and those after it. -/
def splitAtSlash (glyphs : List Glyph) : List Glyph × List Glyph :=
  let isSlash : Glyph → Bool
    | .char '/' false _ => true
    | _ => false
  let front := glyphs.takeWhile (!isSlash ·)
  (front, glyphs.drop (front.length + 1))

/-- A value with what matches a pattern replaced. A pattern may hold only at the front, or only at
the end. -/
def replaceIn (all : Bool) (pattern : List PatternChar) (replacement value : List Char) :
    List Char :=
  match pattern with
  | ('#', false) :: rest =>
    let left := dropFront true (pieces true rest) value
    if left.length < value.length then replacement ++ left else value
  | ('%', false) :: rest =>
    let left := dropBack true (pieces true rest) value
    if left.length < value.length then left ++ replacement else value
  | _ => replaceWithin all (pieces true pattern) replacement (value.length + 1) value

/-- A part of a list, from a place on that may be counted from the end. -/
def sliceOf {α : Type} (start : Int) (length : Option Int) (xs : List α) : List α :=
  let size : Int := xs.length
  let first := if start < 0 then start + size else start
  if first < 0 then []
  else
    let rest := xs.drop first.toNat
    match length with
    | none => rest
    | some n => if n < 0 then rest.take (size + n - first).toNat else rest.take n.toNat

/-- A text with letters in one case. -/
def recased (upper all : Bool) (s : List Char) : List Char :=
  let recase (c : Char) := if upper then c.toUpper else c.toLower
  match s with
  | [] => []
  | c :: rest => recase c :: if all then rest.map recase else rest

/-! ## Parts -/

/-- What a command writes, without the ends of lines at its end. -/
def outputOf (body : Command) : Run String := do
  let status := (← context).status
  let bytes ← collect body
  change fun c => { c with taken := c.status, status }
  let octets := (octetsOf bytes.data.toList).toList.filter (· != '\x00')
  return String.ofList (octets.reverse.dropWhile (· == '\n')).reverse

/-- The value of a parameter, which has to be set where the shell asks for that. -/
def neededValue (name : String) : Run String := do
  match ← parameter? name with
  | some value => return value
  | none =>
    if (← hasOption 'u') && name != "@" && name != "*" then
      lacking name (if (← context).extended then "unbound variable" else "parameter not set")
    return ""

/-- The glyphs of a changed parameter, given what expands its argument. -/
def changed (name : String) (change : Change) (quoted : Bool) (argument : Run (List Glyph)) :
    Run (List Glyph) := do
  let c ← context
  let given (empty : Bool) : Run (Option String) := do
    match ← parameter? name with
    | some value => return if empty && value.isEmpty then none else some value
    | none => return none
  let between := if name == "@" then " " else match (c.bindings.lookup "IFS").bind (·.value) with
    | some separators => (separators.take 1).toString
    | none => " "
  let plain (value : String) : List Glyph :=
    if name == "@" || (name == "*" && !quoted) then argumentGlyphs quoted between c.arguments
    else Glyph.ofValue quoted value
  let other : Run (List Glyph) := do
    let glyphs ← argument
    return if quoted then .mark :: glyphs else asValue glyphs
  let ofChars (s : List Char) : List Glyph := Glyph.ofValue quoted (String.ofList s)
  match change with
  | .keep => return plain (← neededValue name)
  | .length =>
    let value ← neededValue name
    return Glyph.ofValue quoted (toString <|
      if c.extended && (name == "@" || name == "*") then c.arguments.length else value.length)
  | .orElse empty =>
    match ← given empty with
    | some value => return plain value
    | none => other
  | .orAssign empty =>
    match ← given empty with
    | some value => return plain value
    | none =>
      let value := Glyph.text (← argument)
      if !isName name then lacking name "bad variable name"
      orEnd (assign name value)
      return Glyph.ofValue quoted value
  | .orFail empty =>
    match ← given empty with
    | some value => return plain value
    | none =>
      let message := Glyph.text (← argument)
      lacking name <|
        if !message.isEmpty then message
        else if !empty then "parameter not set"
        else if c.extended then "parameter null or not set"
        else "parameter not set or null"
  | .ifSet empty =>
    match ← given empty with
    | some _ => other
    | none => return if quoted then [.mark] else []
  | .dropFront longest =>
    let value ← neededValue name
    return ofChars (dropFront longest (pieces c.extended (Glyph.pattern (← argument))) value.toList)
  | .dropBack longest =>
    let value ← neededValue name
    return ofChars (dropBack longest (pieces c.extended (Glyph.pattern (← argument))) value.toList)
  | .slice =>
    let value ← neededValue name
    let bounds := (Glyph.text (← argument)).splitOn ":"
    let start ← reckon (bounds.headD "")
    let length ← bounds[1]?.mapM reckon
    if name == "@" || name == "*" then
      return argumentGlyphs quoted between (sliceOf start length (c.name :: c.arguments))
    return ofChars (sliceOf start length value.toList)
  | .replace all =>
    let value ← neededValue name
    let (pattern, replacement) := splitAtSlash (← argument)
    return ofChars
      (replaceIn all (Glyph.pattern pattern) (Glyph.text replacement).toList value.toList)
  | .recase upper all => return ofChars (recased upper all (← neededValue name).toList)
  | .invalid =>
    if c.extended then give ("$\x7b" ++ name ++ "\x7d: bad substitution") 1
    else give "Bad substitution"

mutual

/-- The glyphs of a part. -/
def expandPart (run : Runner) : Part → Run (List Glyph)
  | .text s quoted =>
    let chars := s.map (.char · quoted false)
    return if quoted then .mark :: chars else chars
  | .parameter name change argument quoted => changed name change quoted (expandParts run argument)
  | .output body quoted => return Glyph.ofValue quoted (← outputOf body)
  | .sum expression quoted => do
    let text := Glyph.text (← expandParts run expression)
    return Glyph.ofValue quoted (toString (← reckon text))

/-- The glyphs of parts. -/
def expandParts (run : Runner) : List Part → Run (List Glyph)
  | [] => return []
  | part :: rest => do
    let glyphs ← expandPart run part
    return glyphs ++ (← expandParts run rest)

end

/-! ## Words -/

/-- A word with the home directory in place of a tilde at its front. -/
def withHome (word : List Part) : Run (List Part) := do
  match word with
  | .text ('~' :: s) false :: rest =>
    let user := s.takeWhile (· != '/')
    if s.length == user.length && !rest.isEmpty then return word
    let home? ←
      if user.isEmpty then do pure ((← lookUp? "HOME").bind (·.value))
      else pure (if user == ['r', 'o', 'o', 't'] then some "/root" else none)
    match home? with
    | some home => return .text home.toList true :: .text (s.drop user.length) false :: rest
    | none => return word
  | _ => return word

/-- The glyphs of a word. -/
def expandWord (run : Runner) (word : List Part) : Run (List Glyph) := do
  expandParts run (← withHome word)

/-- A word that is not split. -/
def expandWhole (run : Runner) (word : List Part) : Run String :=
  return Glyph.text (← expandWord run word)

/-- The pieces of a word between colons that are not quoted. -/
def betweenColons : List Part → List (List Part)
  | [] => [[]]
  | part :: rest =>
    let after := betweenColons rest
    match part with
    | .text s false =>
      let pieces := (String.ofList s).splitOn ":"
      let last := .text (pieces.getLastD "").toList false :: after.headD []
      pieces.dropLast.map (fun piece => [.text piece.toList false]) ++ last :: after.drop 1
    | _ => (part :: after.headD []) :: after.drop 1

/-- The value of a variable that a word is, where a tilde may follow a colon, too. -/
def expandAssigned (run : Runner) (word : List Part) : Run String := do
  let texts ← (betweenColons word).mapM fun piece =>
    expandWhole run (piece.filter fun
      | .text [] false => false
      | _ => true)
  return ":".intercalate texts

/-- The pattern that a word is. -/
def expandPattern (run : Runner) (word : List Part) : Run (List Piece) :=
  return pieces (← context).extended (Glyph.pattern (← expandWord run word))

/-- The fields of a word. -/
def expandFields (run : Runner) (word : List Part) : Run (List String) := do
  let glyphs ← expandWord run word
  let separators := ((← lookUp? "IFS").bind (·.value)).getD " \t\n"
  let fields := Fields.ofGlyphs separators glyphs
  if (← hasOption 'f') || !fields.any isPattern then return fields.map patternText
  let t ← tree
  let extended := (← context).extended
  return fields.flatMap fun field =>
    let paths := if isPattern field then pathsLike extended t field else []
    if paths.isEmpty then [patternText field] else paths

/-- The words that words stand for before they are expanded. -/
def unfolded (words : List (List Part)) : Run (List (List Part)) :=
  return if (← context).extended then words.flatMap Braces.words else words

/-- The fields of words. -/
def expandAll (run : Runner) (words : List (List Part)) : Run (List String) := do
  let mut fields := #[]
  for word in ← unfolded words do
    for field in ← expandFields run word do fields := fields.push field
  return fields.toList

/-- The commands whose arguments may be assignments, which are not split. -/
def assigners : List String := ["export", "readonly", "local"]

/-- The fields of the words of a command. -/
def expandCommand (run : Runner) (words : List (List Part)) : Run (List String) := do
  match ← unfolded words with
  | [] => return []
  | first :: rest =>
    let name ← expandFields run first
    if !(name.head?.any assigners.contains) then return name ++ (← expandAll run rest)
    let extended := (← context).extended
    let fields ← rest.mapM fun word =>
      match assignment? extended word with
      | some (x, value) => do return [x ++ "=" ++ (← expandAssigned run value)]
      | none => expandFields run word
    return name ++ fields.flatten

end BuildingModel.Sandbox.Shell
