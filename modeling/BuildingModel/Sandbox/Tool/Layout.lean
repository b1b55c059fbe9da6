import BuildingModel.Sandbox.Regex
import BuildingModel.Sandbox.Shell.Format
import BuildingModel.Sandbox.Tool.Basic

/-!
# Laying lines out

The programs that put lines beside each other, number them, break them, turn them around, and tell
which ones two files have in common.
-/

namespace BuildingModel.Sandbox.Tool

open Shell (Run say)

/-! ## Beside each other -/

/-- The texts between which a list of delimiters alternates; none if the list ends within an
escape. -/
def delimiters? : List Char → Option (List String)
  | [] => some []
  | ['\\'] => none
  | '\\' :: c :: rest => do
    let escapes := [('0', ""), ('b', "\x08"), ('f', "\x0c"), ('n', "\n"), ('r', "\r"), ('t', "\t"),
      ('v', "\x0b")]
    return (escapes.lookup c).getD c.toString :: (← delimiters? rest)
  | c :: rest => return c.toString :: (← delimiters? rest)

/-- Texts with delimiters between them, which alternate. -/
def alternate (delimiters : List String) (texts : List String) : String :=
  match texts with
  | [] => ""
  | first :: rest =>
    rest.zipIdx.foldl (fun s (t, i) =>
      s ++ delimiters.getD (i % max delimiters.length 1) "" ++ t) first

/-- Rows of the lines of several files, where a file that is named several times gives each of its
lines once. -/
def rowsOf : Nat → List String → List (String × List String) → List (List String)
  | 0, _, _ => []
  | n + 1, paths, found =>
    if found.all (·.2.isEmpty) then []
    else
      let (row, left) := paths.foldl
        (fun ((row, left) : List String × List (String × List String)) path =>
          let ahead := (left.lookup path).getD []
          (ahead.headD "" :: row,
            left.map fun (p, lines) => if p == path then (p, lines.drop 1) else (p, lines)))
        ([], found)
      row.reverse :: rowsOf n paths left

/-- Puts the lines of files beside each other. -/
def paste : Program := fun name words =>
  withOptions { flags := "sz", valued := "d", names := [("delimiters", 'd'), ("serial", 's'),
      ("zero-terminated", 'z')] } 1 name words fun p => do
    let list := (p.value? 'd').getD "\t"
    let some delimiters := delimiters? list.toList
      | failWith 1 name ("delimiter list ends with an unescaped backslash: " ++ list)
    let delimiters := if delimiters.isEmpty then [""] else delimiters
    let ending := lineEnd p
    if p.has 's' then
      onEach (pathsOf p) fun path => do
        match ← contents path with
        | .ok bytes =>
          sayLine (alternate delimiters (lineTexts bytes ending)) ending
          return true
        | .error e =>
          if e == .isADirectory then sayLine "" ending
          report name (plainly path e)
          return false
    else
      let mut found : List (String × List String) := []
      let mut fine := true
      for path in pathsOf p do
        if (found.lookup path).isNone || path != "-" then
          match ← contents path with
          | .ok bytes => found := found ++ [(path, lineTexts bytes ending)]
          | .error e =>
            report name (plainly path e)
            if e != .isADirectory then return 1
            fine := false
      let keys := found.zipIdx.map fun ((path, texts), i) =>
        (if path == "-" then path else toString i ++ "/" ++ path, texts)
      let order := (pathsOf p).foldl (fun ((done, i) : List String × Nat) path =>
        if path == "-" && done.contains "-" then (path :: done, i)
        else ((keys.map (·.1)).getD i "" :: done, i + 1)) ([], 0)
      let total := (found.map (·.2.length)).foldl (· + ·) 0
      for row in rowsOf total order.1.reverse keys do
        sayLine (alternate delimiters row) ending
      return statusOf fine

/-! ## Numbers -/

/-- How lines are numbered. -/
structure Numbering where
  /-- The styles of the lines of heads, bodies and feet. -/
  styles : List (Char × String)
  /-- What is before a line that begins a part of a page. -/
  mark : String
  /-- The first number. -/
  first : Int
  /-- What is added for each line. -/
  step : Int
  /-- How many characters a number has. -/
  width : Nat
  /-- What is between a number and its line. -/
  separator : String
  /-- How numbers are put in their places. -/
  format : String
  /-- Whether numbers go on on the next page. -/
  goesOn : Bool
  /-- How many empty lines count as one. -/
  joined : Nat

/-- A number in its place. -/
def Numbering.number (o : Numbering) (n : Int) : String :=
  let s := (toString n).toList
  String.ofList (match o.format with
    | "ln" => Shell.pad ['-'] o.width s
    | "rz" =>
      Shell.padNumber ['0'] o.width true (Shell.signOf [] (n < 0)) (toString n.natAbs).toList
    | _ => Shell.pad [] o.width s)

/-- Whether a style asks that a line has a number. -/
def isNumbered (style : String) (line : String) : Bool :=
  match style.toList with
  | 'a' :: _ => true
  | 't' :: _ => !line.isEmpty
  | 'p' :: rest =>
    match Regex.read false rest with
    | .ok (r, _) => (r.find? { rest := line.toList }).isSome
    | .error _ => false
  | _ => false

/-- The part of a page that a line begins. -/
def Numbering.part? (o : Numbering) (line : String) : Option Char :=
  if o.mark.isEmpty then none
  else [(o.mark ++ o.mark ++ o.mark, 'h'), (o.mark ++ o.mark, 'b'), (o.mark, 'f')].lookup line

/-- The lines with their numbers. -/
def Numbering.lines (o : Numbering) (texts : List String) : List String :=
  let (done, _, _, _) := texts.foldl
    (fun ((done, part, n, empty) : List String × Char × Int × Nat) line =>
      match o.part? line with
      | some part => ("" :: done, part, if o.goesOn then n else o.first, 0)
      | none =>
        let style := (o.styles.lookup part).getD "n"
        let empty := if line.isEmpty then empty + 1 else 0
        let counts := isNumbered style line
          && (!line.isEmpty || style != "a" || empty % o.joined == 0)
        if counts then
          ((o.number n ++ o.separator ++ line) :: done, part, n + o.step, empty)
        else
          let blanks := List.replicate (o.width + o.separator.length) ' '
          ((String.ofList blanks ++ line) :: done, part, n, empty)) ([], 'b', o.first, 0)
  done.reverse

/-- What is wrong with the value of an option of the program that numbers lines. -/
def numberingFault? (p : Parsed) : Option (Bool × String) :=
  p.options.findSome? fun (c, value) =>
    let styleFault (title : String) : Option (Bool × String) :=
      if ["a", "t", "n"].contains value || value.startsWith "p" then none
      else some (true, "invalid " ++ title ++ " numbering style: " ++ quoted value)
    match c with
    | 'h' => styleFault "header"
    | 'b' => styleFault "body"
    | 'f' => styleFault "footer"
    | 'n' =>
      if ["ln", "rn", "rz"].contains value then none
      else some (true, "invalid line numbering format: " ++ quoted value)
    | 'w' | 'l' =>
      let title := if c == 'w' then "line number field width" else "line number of blank lines"
      match value.toNat? with
      | some 0 => some (false, "invalid " ++ title ++ ": " ++ quoted value
          ++ ": Numerical result out of range")
      | some _ => none
      | none => some (false, "invalid " ++ title ++ ": " ++ quoted value)
    | 'v' =>
      if value.toInt?.isSome then none
      else some (false, "invalid starting line number: " ++ quoted value)
    | 'i' =>
      if value.toInt?.isSome then none
      else some (false, "invalid line number increment: " ++ quoted value)
    | _ => none

/-- Numbers lines. -/
def nl : Program := fun name words =>
  withOptions { flags := "p", valued := "bdfhilnsvw", names := [("body-numbering", 'b'),
      ("section-delimiter", 'd'), ("footer-numbering", 'f'), ("header-numbering", 'h'),
      ("line-increment", 'i'), ("join-blank-lines", 'l'), ("number-format", 'n'),
      ("no-renumber", 'p'), ("number-separator", 's'), ("starting-line-number", 'v'),
      ("number-width", 'w')] } 1 name words fun p => do
    match numberingFault? p with
    | some (true, message) => misuse 1 name message
    | some (false, message) => failWith 1 name message
    | none =>
      let (bytes, fine) ← allContents plainly name (pathsOf p)
      let mark := (p.value? 'd').getD "\\:"
      let o : Numbering := {
        styles := [('h', (p.value? 'h').getD "n"), ('b', (p.value? 'b').getD "t"),
          ('f', (p.value? 'f').getD "n")]
        mark := if mark.length == 1 then mark ++ ":" else mark
        first := ((p.value? 'v').bind String.toInt?).getD 1
        step := ((p.value? 'i').bind String.toInt?).getD 1
        width := ((p.value? 'w').bind String.toNat?).getD 6
        separator := (p.value? 's').getD "\t"
        format := (p.value? 'n').getD "rn"
        goesOn := p.has 'p'
        joined := ((p.value? 'l').bind String.toNat?).getD 1 }
      for line in o.lines (lineTexts bytes) do sayLine line
      return statusOf fine

/-! ## Breaks -/

/-- The column after a character. -/
def columnAfter (byBytes : Bool) (column : Nat) (c : Char) : Nat :=
  if byBytes then column + 1
  else match c with
    | '\x08' => column - 1
    | '\r' => 0
    | '\t' => (column / 8 + 1) * 8
    | _ => column + 1

/-- The column after characters. -/
def columnAfterAll (byBytes : Bool) (s : List Char) : Nat := s.foldl (columnAfter byBytes) 0

/-- The rows of a line that are at most so wide, each broken after a blank if that is asked for. The
row that is being filled is given from behind. There is a step for each character and each break. -/
def foldedRows (byBytes atBlanks : Bool) (width : Nat) :
    Nat → List Char → List Char → List (List Char)
  | 0, row, rest => [row.reverse ++ rest]
  | _, row, [] => [row.reverse]
  | n + 1, row, c :: rest =>
    if columnAfter byBytes (columnAfterAll byBytes row.reverse) c ≤ width then
      foldedRows byBytes atBlanks width n (c :: row) rest
    else if row.isEmpty then foldedRows byBytes atBlanks width n [c] rest
    else
      let tail := if atBlanks then row.takeWhile fun c => c != ' ' && c != '\t' else []
      if atBlanks && tail.length < row.length then
        (row.drop tail.length).reverse
          :: foldedRows byBytes atBlanks width n tail (c :: rest)
      else row.reverse :: foldedRows byBytes atBlanks width n [] (c :: rest)

/-- Breaks lines. -/
def foldLines : Program := fun name words =>
  let words := words.map fun word => match word.toList with
    | '-' :: d :: _ => if d.isDigit then "-w" ++ (word.drop 1).toString else word
    | _ => word
  withOptions { flags := "bs", valued := "w", names := [("bytes", 'b'), ("spaces", 's'),
      ("width", 'w')] } 1 name words fun p => do
    let value := (p.value? 'w').getD "80"
    match value.toNat? with
    | none => failWith 1 name ("invalid number of columns: " ++ quoted value)
    | some 0 =>
      failWith 1 name ("invalid number of columns: " ++ quoted value
        ++ ": Numerical result out of range")
    | some width =>
      onEach (pathsOf p) fun path => do
        match ← contents path with
        | .error e =>
          report name (plainly path e)
          return false
        | .ok bytes =>
          for line in lines bytes do
            let text := (lineText line).toList
            let rows := foldedRows (p.has 'b') (p.has 's') width (2 * text.length + 2) [] text
            say 1 ("\n".intercalate (rows.map String.ofList))
            if line.getLast? == some 10 then say 1 "\n"
          return true

/-- Turns lines around. -/
def rev : Program := fun name words =>
  withOptions {} 1 name words fun p =>
    onEach (pathsOf p) fun path => do
      match ← inPieces path (some 10) fun bytes => (lines bytes).forM fun line =>
        emit (if line.getLast? == some 10 then line.dropLast.reverse ++ [10] else line.reverse) with
      | .error e =>
        report name ("cannot open " ++ plainly path e)
        return false
      | .ok () => return true

/-! ## In common -/

/-- How a line is told where it is: in the first file, in the second, or in both. -/
inductive Share where
  /-- In the first file. -/
  | first
  /-- In the second file. -/
  | second
  /-- In both. -/
  | both
deriving DecidableEq, Repr

/-- The lines of two files in order, each with where it is. The number of lines is limited by the
first argument. -/
def shared : Nat → List String → List String → List (Share × String)
  | 0, _, _ => []
  | _, [], bs => bs.map (.second, ·)
  | _, as, [] => as.map (.first, ·)
  | n + 1, a :: as, b :: bs =>
    if a == b then (.both, a) :: shared n as bs
    else if a < b then (.first, a) :: shared n as (b :: bs)
    else (.second, b) :: shared n (a :: as) bs

/-- Whether lines are in order. -/
def areOrdered : List String → Bool
  | a :: b :: rest => a ≤ b && areOrdered (b :: rest)
  | _ => true

/-- Tells which lines two files have in common. -/
def comm : Program := fun name words =>
  withOptions { flags := "123z~!", valued := "o", names := [("output-delimiter", 'o'),
      ("total", '~'), ("zero-terminated", 'z'), ("check-order", '~'), ("nocheck-order", '!')] } 1
      name words fun p => do
    match p.operands with
    | [] => misuse 1 name "missing operand"
    | [path] => misuse 1 name ("missing operand after " ++ quoted path)
    | _ :: _ :: extra :: _ => misuse 1 name ("extra operand " ++ quoted extra)
    | [first, second] =>
      let ending := lineEnd p
      match ← contents first, ← contents second with
      | .error e, _ => failWith 1 name (plainly first e)
      | _, .error e => failWith 1 name (plainly second e)
      | .ok a, .ok b =>
        let as := lineTexts a ending
        let bs := lineTexts b ending
        let between := (p.value? 'o').getD "\t"
        for (share, line) in shared (as.length + bs.length) as bs do
          let front (hidden : List Char) : String :=
            String.join ((hidden.filter (!p.has ·)).map fun _ => between)
          match share with
          | .first => if !p.has '1' then sayLine line ending
          | .second => if !p.has '2' then sayLine (front ['1'] ++ line) ending
          | .both => if !p.has '3' then sayLine (front ['1', '2'] ++ line) ending
        if p.has '!' then return 0
        let faults := [(as, "1"), (bs, "2")].filter fun (lines, _) => !areOrdered lines
        for (_, number) in faults do
          report name ("file " ++ number ++ " is not in sorted order")
        if faults.isEmpty then return 0
        failWith 1 name "input is not in sorted order"

end BuildingModel.Sandbox.Tool
