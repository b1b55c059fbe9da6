import BuildingModel.Sandbox.Shell.Format
import BuildingModel.Sandbox.Tool.Basic

/-!
# Programs on lines

The programs that count lines, take doubles away, and cut fields out.
-/

namespace BuildingModel.Sandbox.Tool

open Shell (Run say)

/-! ## Counting -/

/-- How many words bytes have. -/
def wordCount (bytes : List UInt8) : Nat :=
  (bytes.foldl (fun (n, within) b =>
    let blank := b == 32 || (9 ≤ b && b ≤ 13)
    (if blank || within then n else n + 1, !blank)) (0, false)).1

/-- How long the longest line is. A tab leads to the next column of eight, and characters that do
not show have no length. -/
def longestLine (bytes : List UInt8) : Nat :=
  let (longest, last) := bytes.foldl
    (fun ((longest, at_) : Nat × Nat) b =>
      if b == 10 || b == 12 || b == 13 then (max longest at_, 0)
      else if b == 9 then (longest, (at_ / 8 + 1) * 8)
      else if 32 ≤ b && b < 127 then (longest, at_ + 1)
      else (longest, at_)) (0, 0)
  max longest last

/-- The letters of what is counted, in the order of the columns. -/
def countLetters : List Char := ['l', 'w', 'm', 'c', 'L']

/-- The letters of what options ask to be counted. -/
def countedLetters (p : Parsed) : List Char :=
  let asked := countLetters.filter p.has
  if asked.isEmpty then ['l', 'w', 'c'] else asked

/-- What is counted of bytes under a letter. -/
def countUnder (bytes : List UInt8) (letter : Char) : Nat :=
  match letter with
  | 'l' => bytes.count 10
  | 'w' => wordCount bytes
  | 'L' => longestLine bytes
  | _ => bytes.length

/-- The size of the file that a path leads to. -/
def sizeAt? (path : String) : Run (Option Nat) := do
  match ← sourceAt path with
  | .error _ => return some 0
  | .ok (.file names ..) => return some (← fileSize names)
  | .ok _ => return none

/-- How wide columns are: as wide as the sum of the sizes, and wide enough for what is no file. -/
def columnWidth (paths : List String) : Run Nat := do
  let mut total := 0
  let mut least := 1
  for path in paths do
    match ← sizeAt? path with
    | some n => total := total + n
    | none => least := 7
  return max least (toString total).length

/-- Counts lines, words and bytes. -/
def wc : Program := fun name words =>
  withOptions { flags := "clmwL", valued := "#", names := [("bytes", 'c'), ("chars", 'm'),
      ("lines", 'l'), ("words", 'w'), ("max-line-length", 'L'), ("total", '#')] } 1 name words
      fun p => do
    let paths := pathsOf p
    let letters := countedLetters p
    let total := (p.value? '#').getD "auto"
    if let some fault := choiceFault? "total" total ["auto", "always", "only", "never"] then
      return ← misuse 1 name fault
    let width ←
      if total == "only" || paths.length == 1 && letters.length == 1 then pure 1
      else columnWidth paths
    let row (counts : List Nat) (title : String) : Run Unit :=
      sayLine (" ".intercalate (counts.map fun n =>
        String.ofList (Shell.pad [] width (toString n).toList)) ++ title)
    let mut fine := true
    let mut sums := letters.map fun _ => 0
    for path in paths do
      let title := if p.operands.isEmpty then "" else " " ++ path
      match ← contents path with
      | .ok bytes =>
        let counts := letters.map (countUnder bytes)
        if total != "only" then row counts title
        sums := (letters.zip (sums.zip counts)).map fun (letter, a, b) =>
          if letter == 'L' then max a b else a + b
      | .error e =>
        report name (plainly path e)
        if e == .isADirectory && total != "only" then row (letters.map fun _ => 0) title
        fine := false
    if total == "only" then row sums ""
    else if total == "always" || total == "auto" && paths.length > 1 then row sums " total"
    return statusOf fine

/-! ## Doubles -/

/-- What of a line counts where it is compared: what is left after fields and characters are passed
over, at most so many characters. -/
structure Comparison where
  /-- How many fields are passed over. -/
  fields : Nat := 0
  /-- How many characters are passed over after them. -/
  skipped : Nat := 0
  /-- How many characters count. -/
  length : Option Nat := none
  /-- Whether case does not count. -/
  fold : Bool := false

/-- A text without its first field. -/
def dropField (s : List Char) : List Char :=
  (s.dropWhile (" \t".contains ·)).dropWhile fun c => !" \t".contains c

/-- What of a line counts. -/
def Comparison.key (c : Comparison) (line : String) : List Char :=
  let rest := (c.fields.repeat dropField line.toList).drop c.skipped
  let counted := match c.length with
    | some n => rest.take n
    | none => rest
  if c.fold then counted.map Char.toUpper else counted

/-- Lines in groups of those that follow each other and are the same. -/
def groups (c : Comparison) (texts : List String) : List (List String) :=
  (texts.foldr (fun s (done : List (List String)) =>
    match done with
    | (t :: ts) :: rest =>
      if c.key s == c.key t then (s :: t :: ts) :: rest else [s] :: done
    | _ => [s] :: done) [])

/-- What is wrong with how groups are asked to be set apart. -/
def groupFault? (p : Parsed) : Option String :=
  let fault? (letter : Char) (option : String) (choices : List String) : Option String :=
    ((p.value? letter).filter (!·.isEmpty)).bind (choiceFault? option · choices)
  match fault? 'D' "all-repeated" ["none", "prepend", "separate"],
      fault? '#' "group" ["prepend", "append", "separate", "both"] with
  | some fault, _ => some fault
  | none, some fault => some fault
  | none, none =>
    if p.has '#' && ['c', 'd', 'D', 'u'].any p.has then
      some "--group is mutually exclusive with -c/-d/-D/-u"
    else none

/-- Copies lines that do not follow themselves. -/
def uniq : Program := fun name words =>
  withOptions { flags := "cdDuiz#", valued := "fsw", names := [("count", 'c'), ("repeated", 'd'),
      ("all-repeated", 'D'), ("unique", 'u'), ("ignore-case", 'i'), ("skip-fields", 'f'),
      ("skip-chars", 's'), ("check-chars", 'w'), ("zero-terminated", 'z'), ("group", '#')] } 1
      name words fun p => do
    if let some fault := groupFault? p then return ← misuse 1 name fault
    if let some extra := (p.operands.drop 2).head? then
      return ← misuse 1 name ("extra operand " ++ quoted extra)
    if p.has 'c' && p.has 'D' then
      return ← misuse 1 name "printing all duplicated lines and repeat counts is meaningless"
    for (letter, meaning) in [('f', "fields to skip"), ('s', "bytes to skip"),
        ('w', "bytes to compare")] do
      if let some wrong := (p.value? letter).filter fun s => s.toNat?.isNone then
        return ← failWith 1 name (wrong ++ ": invalid number of " ++ meaning)
    let number (letter : Char) : Option Nat := (p.value? letter).bind String.toNat?
    let comparison : Comparison :=
      { fields := (number 'f').getD 0, skipped := (number 's').getD 0, length := number 'w'
        fold := p.has 'i' }
    let path := p.operands.headD "-"
    match ← contents path with
    | .error .isADirectory =>
      failWith 1 name ("error reading " ++ quoted path ++ ": Is a directory")
    | .error e => failWith 1 name (plainly path e)
    | .ok bytes =>
      let ending := lineEnd p
      let setsApart := (p.value? (if p.has '#' then '#' else 'D')).getD "none"
      let setsApart :=
        if setsApart.isEmpty then if p.has '#' then "separate" else "none" else setsApart
      let work : Run Unit := do
        let mut isFirst := true
        for group in groups comparison (lineTexts bytes ending) do
          let n := group.length
          let front := if p.has 'c' then
            String.ofList (Shell.pad [] 7 (toString n).toList) ++ " " else ""
          let repeats := p.has 'd' || p.has 'D'
          let shown := if n > 1 then !p.has 'u' else !repeats
          let kept := if p.has 'D' || p.has '#' then group else group.take 1
          if shown then
            let apart :=
              if isFirst then ["prepend", "both"].contains setsApart
              else ["prepend", "separate", "both"].contains setsApart
            if apart then sayLine "" ending
            for s in kept do sayLine (front ++ s) ending
            if setsApart == "append" then sayLine "" ending
            isFirst := false
        if setsApart == "both" && !isFirst then sayLine "" ending
      match p.operands with
      | [_, target] =>
        if target == "-" then work
        else if let .error e ← writingTo target work then
          return ← failWith 1 name (plainly target e)
      | _ => work
      return 0

/-! ## Fields -/

/-- A range of positions, with an end or without one. -/
structure Range where
  /-- The first position. -/
  low : Nat
  /-- The last one. -/
  high : Option Nat
deriving DecidableEq, Repr

/-- Whether a position is in a range. -/
def Range.has (r : Range) (i : Nat) : Bool := r.low ≤ i && r.high.all (i ≤ ·)

/-- A range in words, or what is wrong with it. -/
def rangeOf (fields : Bool) (s : String) : Except String Range := do
  let zero := if fields then "fields are numbered from 1"
    else "byte/character positions are numbered from 1"
  let number (part : String) : Except String Nat :=
    let rest := part.toList.dropWhile Char.isDigit
    if rest.isEmpty then .ok (Text.digitsValue part.toList)
    else
      let wrong := quoted (String.ofList (s.toList.dropWhile Char.isDigit))
      .error ((if fields then "invalid field value " else "invalid byte/character position ")
        ++ wrong)
  match s.splitOn "-" with
  | [a] =>
    let n ← number a
    if n == 0 then throw zero
    return ⟨n, some n⟩
  | ["", ""] => throw "invalid range with no endpoint: -"
  | [a, b] =>
    let m ← if a.isEmpty then pure 1 else number a
    if m == 0 then throw zero
    if b.isEmpty then return ⟨m, none⟩
    let n ← number b
    if n < m then throw "invalid decreasing range"
    return ⟨m, some n⟩
  | _ =>
    throw (if fields then "invalid field range" else "invalid byte or character range")

/-- Ranges in order, where those that have positions in common are one. -/
def mergeRanges (ranges : List Range) : List Range :=
  let sorted := ranges.mergeSort fun a b => a.low ≤ b.low
  (sorted.foldl (fun (done : List Range) r =>
    match done with
    | last :: rest =>
      if last.has r.low then
        let high := match last.high, r.high with
          | some a, some b => some (max a b)
          | _, _ => none
        ⟨last.low, high⟩ :: rest
      else r :: done
    | [] => [r]) []).reverse

/-- The ranges of all positions from the given one on that are in none of others, which are in
order. -/
def complementRanges (low : Nat) : List Range → List Range
  | [] => [⟨low, none⟩]
  | r :: rest =>
    let before := if low < r.low then [⟨low, some (r.low - 1)⟩] else []
    match r.high with
    | some high => before ++ complementRanges (high + 1) rest
    | none => before

/-- What a list has in a range of positions. -/
def Range.pick {α : Type} (xs : List α) (r : Range) : List α :=
  let rest := xs.drop (r.low - 1)
  match r.high with
  | some high => rest.take (high + 1 - r.low)
  | none => rest

/-- What options ask to be cut out: whether it is fields, and the ranges of positions; or what is
wrong with the options. -/
def cuts (p : Parsed) : Except String (Bool × List Range) := do
  match p.options.filter fun (c, _) => "bcf".contains c with
  | [] => throw "you must specify a list of bytes, characters, or fields"
  | [(kind, list)] =>
    let fields := kind == 'f'
    if !fields && p.has 'd' then
      throw "an input delimiter may be specified only when operating on fields"
    if !fields && p.has 's' then
      throw "suppressing non-delimited lines makes sense\n\tonly when operating on fields"
    if (p.value? 'd').any (·.length > 1) then throw "the delimiter must be a single character"
    let parts := (list.replace " " ",").replace "\t" ","
    let ranges := mergeRanges (← (parts.splitOn ",").mapM (rangeOf fields))
    return (fields, if p.has '~' then complementRanges 1 ranges else ranges)
  | _ => throw "only one list may be specified"

/-- Cuts columns or fields out of lines. -/
def cut : Program := fun name words =>
  withOptions { flags := "nsz~", valued := "bcdfo", names := [("bytes", 'b'), ("characters", 'c'),
      ("delimiter", 'd'), ("fields", 'f'), ("only-delimited", 's'), ("output-delimiter", 'o'),
      ("complement", '~'), ("zero-terminated", 'z')] } 1 name words fun p => do
    match cuts p with
    | .error message => misuse 1 name message
    | .ok (fields, ranges) =>
      let delimiter := match p.value? 'd' with
        | some d => if d.isEmpty then "\x00" else d
        | none => "\t"
      let ending := lineEnd p
      let cutLine (s : String) : Option String :=
        if !fields then
          let parts := (ranges.map (Range.pick s.toList)).filter (!·.isEmpty)
          some (((p.value? 'o').getD "").intercalate (parts.map String.ofList))
        else
          let found := s.splitOn delimiter
          if found.length > 1 then
            let chosen := (ranges.map (Range.pick found)).flatten
            some (((p.value? 'o').getD delimiter).intercalate chosen)
          else if p.has 's' then none
          else some s
      onEach (pathsOf p) fun path => do
        match ← inPieces path (some ending) fun bytes =>
          (lineTexts bytes ending).forM fun s =>
            (cutLine s).forM (sayLine · ending) with
        | .ok () => return true
        | .error e =>
          report name (plainly path e)
          return false

end BuildingModel.Sandbox.Tool
