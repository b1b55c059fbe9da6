import BuildingModel.Sandbox.Tool.Calendar

/-!
# Programs on files

The programs that make, change and remove files and directories, and those on their names.
-/

namespace BuildingModel.Sandbox.Tool

open Shell (Run say tree changeTree)

/-! ## Names -/

/-- A path without the slashes at its end. -/
def dropSlashes (s : List Char) : List Char := (s.reverse.dropWhile (· == '/')).reverse

/-- The last name of a path. -/
def lastName (path : String) : String :=
  let s := dropSlashes path.toList
  if s.isEmpty then (if path.isEmpty then "" else "/")
  else String.ofList (s.reverse.takeWhile (· != '/')).reverse

/-- A path without its last name. -/
def parentPath (path : String) : String :=
  let s := dropSlashes path.toList
  let front := dropSlashes (s.reverse.dropWhile (· != '/')).reverse
  if !s.contains '/' then (if path.startsWith "/" then "/" else ".")
  else if front.isEmpty then "/" else String.ofList front

/-- A name without an ending, unless that is all of it. -/
def dropEnding (name ending : String) : String :=
  if name != ending && name.endsWith ending then (name.dropEnd ending.length).toString else name

/-- Writes the last names of paths. -/
def basename : Program := fun name words =>
  withOptions { flags := "az", valued := "s", early := true, names := [("multiple", 'a'),
      ("suffix", 's'), ("zero", 'z')] } 1 name words fun p => do
    let several := p.has 'a' || p.has 's'
    let show_ (ending path : String) : Run Unit :=
      sayLine (dropEnding (lastName path) ending) (lineEnd p)
    match p.operands with
    | [] => misuse 1 name "missing operand"
    | path :: rest =>
      if several then
        for path in p.operands do show_ ((p.value? 's').getD "") path
        return 0
      match rest with
      | [] => show_ "" path
      | [ending] => show_ ending path
      | _ :: extra :: _ => return ← misuse 1 name ("extra operand " ++ quoted extra)
      return 0

/-- Writes paths without their last names. -/
def dirname : Program := fun name words =>
  withOptions { flags := "z", names := [("zero", 'z')] } 1 name words fun p => do
    if p.operands.isEmpty then return ← misuse 1 name "missing operand"
    for path in p.operands do sayLine (parentPath path) (lineEnd p)
    return 0

/-! ## Making -/

/-- Complains about a path. -/
def complainOf (name front path : String) (words : String) : Run Bool := do
  report name (front ++ " " ++ quoted path ++ ": " ++ words)
  return false

/-- The time that options ask for, as files are given it, or what is wrong with them. -/
def timeAsked (p : Parsed) : Run (Except String Int) := do
  let present ← presentTime
  match p.value? 'r', p.value? 'd', p.value? 't' with
  | some path, _, _ =>
    match (← tree).locate (textOf path) with
    | .ok (names, some place) => return .ok ((← tree).timeAt names place)
    | .ok (_, none) =>
      return .error ("failed to get attributes of " ++ quoted path ++ ": "
        ++ FileError.notFound.words)
    | .error e => return .error ("failed to get attributes of " ++ quoted path ++ ": " ++ e.words)
  | _, some s, _ | _, none, some s =>
    let found := if p.has 'd' then timeOf? present s else timeOfDigits? present s
    match found with
    | some seconds => return .ok (fileTime seconds)
    | none => return .error ("invalid date format " ++ quoted s)
  | none, none, none => return .ok (← Shell.now)

/-- Makes files, or sets when they were changed. -/
def touch : Program := fun name words =>
  withOptions { flags := "acfhm", valued := "drt", names := [("no-create", 'c'), ("date", 'd'),
      ("reference", 'r')] } 1 name words fun p => do
    let time ← match ← timeAsked p with
      | .ok time => pure time
      | .error message => return ← failWith 1 name message
    if p.operands.isEmpty then return ← misuse 1 name "missing file operand"
    let isSet := !p.has 'a' || p.has 'm'
    onEach p.operands fun path => do
      match (← tree).locate (textOf path) with
      | .ok (names, none) =>
        let mode ← Shell.newMode 0o666
        if !p.has 'c' then changeTree (·.put names { mode, time })
        return true
      | .ok (names, some _) =>
        if isSet then changeTree (·.withTime names time)
        return true
      | .error e =>
        let front := if path.endsWith "/" then "setting times of" else "cannot touch"
        complainOf name front path e.words

/-! ## Removing -/

/-- Whether nothing is in a directory. -/
def isEmptyPlace (t : FileTree) (names : List String) : Bool :=
  let below (path : List String) : Bool := names.isPrefixOf path && path != names
  !(t.files.any fun (path, _) => below path) && !t.directories.any below

/-- Removes directories. -/
def rmdir : Program := fun name words =>
  withOptions { flags := "pvi", names := [("parents", 'p'), ("verbose", 'v'),
      ("ignore-fail-on-non-empty", 'i')] } 1 name words fun p => do
    if p.operands.isEmpty then return ← misuse 1 name "missing operand"
    let remove (front path : String) : Run Bool := do
      let failed (words : String) : Run Bool := complainOf name front path words
      if p.has 'v' then sayLine (name ++ ": removing directory, " ++ quoted path)
      let t ← tree
      match t.locate (textOf path) with
      | .ok (names, some .directory) =>
        if lastName path == "." then failed "Invalid argument"
        else if isEmptyPlace t names then
          changeTree (·.erase names)
          return true
        else if p.has 'i' then return true
        else failed "Directory not empty"
      | .ok (_, some _) => failed FileError.notADirectory.words
      | .ok (_, none) => failed FileError.notFound.words
      | .error e => failed e.words
    onEach p.operands fun path => do
      if !(← remove "failed to remove" path) then return false
      if !p.has 'p' then return true
      let parts := (String.ofList (dropSlashes path.toList)).splitOn "/"
      let parents := ((List.range parts.length).drop 1).map fun n => "/".intercalate (parts.take n)
      for parent in parents.reverse do
        if !(← remove "failed to remove directory" parent) then return false
      return true

/-- The paths of what is in a directory and below it, each after what is in it. -/
def pathsBelow (t : FileTree) : Nat → List String → String → List (String × Bool)
  | 0, _, _ => []
  | n + 1, names, path =>
    (((t.namesAt names).mergeSort fun a b => a ≤ b).map fun s =>
      let here := names ++ [s]
      let isDirectory := t.place? here == some .directory
      pathsBelow t n here (path ++ "/" ++ octets s) ++ [(path ++ "/" ++ octets s, isDirectory)])
      |>.flatten

/-- How deep directories may be within each other. -/
def depthLimit : Nat := 256

/-- What is told of something that is removed. -/
def removalText (path : String) (isDirectory : Bool) : String :=
  (if isDirectory then "removed directory " else "removed ") ++ quoted path

/-- Removes files and directories. -/
def rm : Program := fun name words =>
  withOptions { flags := "dfiIrRv", names := [("force", 'f'), ("recursive", 'r'),
      ("dir", 'd'), ("verbose", 'v')] } 1 name words fun p => do
    if p.operands.isEmpty && !p.has 'f' then return ← misuse 1 name "missing operand"
    onEach p.operands fun path => do
      let failed (words : String) : Run Bool := complainOf name "cannot remove" path words
      let t ← tree
      if let some place := t.linkAt? (textOf path) then
        if !path.endsWith "/" then
          if p.has 'v' then sayLine (removalText path false)
          changeTree (·.withoutLink place)
          return true
      let recursive := p.has 'r' || p.has 'R'
      match t.locate (textOf path) with
      | .ok (names, some place) =>
        let isDirectory := place == .directory
        if isDirectory && !recursive && !p.has 'd' then failed FileError.isADirectory.words
        else if isDirectory && [".", ".."].contains (lastName path) then
          report name ("refusing to remove '.' or '..' directory: skipping " ++ quoted path)
          return false
        else if names.isEmpty then
          report name "it is dangerous to operate recursively on '/'"
          report name "use --no-preserve-root to override this failsafe"
          return false
        else if isDirectory && !recursive && !isEmptyPlace t names then failed "Directory not empty"
        else if !isDirectory && path.endsWith "/" then
          if p.has 'f' then return true
          failed FileError.notADirectory.words
        else
          if p.has 'v' then
            if isDirectory then
              for (inner, isDirectory) in pathsBelow t depthLimit names path do
                sayLine (removalText inner isDirectory)
            sayLine (removalText path isDirectory)
          changeTree (·.erase names)
          return true
      | .ok (_, none) =>
        if p.has 'f' then return true
        failed FileError.notFound.words
      | .error e =>
        if p.has 'f' && (e == .notFound || e == .notADirectory) then return true
        failed e.words

/-- Removes a file. -/
def unlink : Program := fun name words =>
  withOptions {} 1 name words fun p => do
    match p.operands with
    | [] => misuse 1 name "missing operand"
    | _ :: extra :: _ => misuse 1 name ("extra operand " ++ quoted extra)
    | [path] =>
      let t ← tree
      let failed (words : String) : Run Nat := do
        let _ ← complainOf name "cannot unlink" path words
        return 1
      match t.linkAt? (textOf path), t.locate (textOf path) with
      | some place, _ =>
        changeTree (·.withoutLink place)
        return 0
      | none, .ok (names, some (.file _)) =>
        changeTree (·.erase names)
        return 0
      | none, .ok (_, some .directory) => failed FileError.isADirectory.words
      | none, .ok (_, none) => failed FileError.notFound.words
      | none, .error e => failed e.words

/-! ## Linking -/

/-- What a link stands for, if a path names one: a path from its directory on, or from the root. -/
def linkText? (t : FileTree) (path : String) : Option String := do
  let place ← t.linkAt? (textOf path)
  let target ← t.links.lookup place
  let directory := place.dropLast
  let shared := ((directory.zip target).takeWhile fun (a, b) => a == b).length
  let up := List.replicate (directory.length - shared) ".."
  if shared == 0 || target.take 1 == ["dev"] || up.length > 1 then
    return octets ("/" ++ "/".intercalate target)
  return octets ("/".intercalate (up ++ target.drop shared))

/-- The names of the place that a link in a directory stands for. -/
def linkTarget (t : FileTree) (directory : List String) (target : String) : List String :=
  let start := if target.startsWith "/" then [] else directory
  (FileTree.namesOf (textOf target)).foldl t.enter start

/-- Makes a file known under one more path; whether that is possible. A link that is not symbolic
holds what the file holds. -/
def makeLink (name : String) (p : Parsed) (target path : String) : Run Bool := do
  let t ← tree
  let symbolic := p.has 's'
  let failed (words : String) : Run Bool :=
    complainOf name ("failed to create " ++ (if symbolic then "symbolic" else "hard") ++ " link")
      path words
  let old? := t.linkAt? (textOf path)
  let source := if symbolic then .ok none else (t.find (textOf target)).map some
  match source, t.locate (textOf path) with
  | .error e, _ => complainOf name "failed to access" target e.words
  | .ok (some .directory), _ =>
    report name (target ++ ": hard link not allowed for directory")
    return false
  | _, .error e => failed e.words
  | .ok source, .ok (names, place?) =>
    let place := old?.getD names
    if (place?.isSome || old?.isSome) && !p.has 'f' then return ← failed "File exists"
    if old?.isSome then changeTree (·.withoutLink place)
    else if place?.isSome then changeTree (·.erase place)
    match source with
    | some (.file f) => changeTree (·.put place f)
    | _ => changeTree (·.withLink place (linkTarget t place.dropLast target))
    if p.has 'v' then
      sayLine (quoted path ++ (if symbolic then " -> " else " => ") ++ quoted target)
    return true

/-- Makes files known under more paths. -/
def ln : Program := fun name words =>
  withOptions { flags := "bdfFinLPrsTv", valued := "tS", names := [("symbolic", 's'),
      ("force", 'f'), ("verbose", 'v'), ("no-dereference", 'n'), ("target-directory", 't'),
      ("no-target-directory", 'T')] } 1 name words fun p => do
    let t ← tree
    let isDirectory (path : String) : Bool := match t.find (textOf path) with
      | .ok .directory => !(p.has 'T' || (p.has 'n' && (t.linkAt? (textOf path)).isSome))
      | _ => false
    let within (directory path : String) : String :=
      (if directory.endsWith "/" then directory else directory ++ "/") ++ lastName path
    match p.value? 't', p.operands with
    | _, [] => misuse 1 name "missing file operand"
    | some directory, paths => onEach paths fun path => makeLink name p path (within directory path)
    | none, [target] => return statusOf (← makeLink name p target (within "." target))
    | none, [target, path] =>
      return statusOf (← makeLink name p target
        (if isDirectory path then within path target else path))
    | none, paths =>
      let directory := paths.getLastD ""
      if !isDirectory directory then
        let words := if (t.find (textOf directory)).toOption.isSome then
          FileError.notADirectory.words else FileError.notFound.words
        return ← failWith 1 name ("target " ++ quoted directory ++ ": " ++ words)
      onEach paths.dropLast fun path => makeLink name p path (within directory path)

/-- Makes a file known under one more path. -/
def link : Program := fun name words =>
  withOptions {} 1 name words fun p => do
    match p.operands with
    | [] => misuse 1 name "missing operand"
    | [one] => misuse 1 name ("missing operand after " ++ quoted one)
    | _ :: _ :: extra :: _ => misuse 1 name ("extra operand " ++ quoted extra)
    | [target, path] => return statusOf (← makeLink name p target path)

end BuildingModel.Sandbox.Tool
