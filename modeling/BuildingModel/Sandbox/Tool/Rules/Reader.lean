import BuildingModel.Sandbox.Tool.Rules.Term
import BuildingModel.Sandbox.Tool.Rules.Token

/-!
# Reading rules

`RuleSet.read` reads the text of rules, or tells what is wrong with it and in which line. Terms are
read by levels: what binds least is on the lowest one.
-/

namespace BuildingModel.Sandbox.Tool.Rules

/-! ## Regular expressions -/

/-- The characters that mean something in a regular expression. -/
def activeChars : List Char := ".[]()*+?\x7b\x7d|^$\\".toList

/-- What is between brackets, and the text after the closing one. The characters that escapes stand
for are set apart, as are those that have come before. -/
def bracketed : Nat → List Char → List Char → List Char → Option (List Char × List Char × List Char)
  | 0, _, _, _ => none
  | _, _, _, [] => none
  | n + 1, inner, apart, '\\' :: s =>
    let (front, length) := escapeIn s s
    bracketed n inner (front ++ apart) (s.drop length)
  | n + 1, inner, apart, '[' :: ':' :: s =>
    let name := s.takeWhile Char.isAlpha
    if ":]".toList.isPrefixOf (s.drop name.length) then
      bracketed n ("]:".toList ++ name.reverse ++ ":[".toList ++ inner) apart
        (s.drop (name.length + 2))
    else bracketed n ('[' :: inner) apart (':' :: s)
  | n + 1, inner, apart, c :: s =>
    if c == ']' then some (inner.reverse, apart, s) else bracketed n (c :: inner) apart s

/-- Brackets as they are written without escapes: a closing one is first, a caret and a dash are
last. -/
def brackets (negated : Bool) (closes : Bool) (inner apart : List Char) : List Char :=
  let closes := closes || apart.contains ']'
  let plain := apart.filter fun c => !"]^-".contains c
  let carets := if apart.contains '^' then ['^'] else []
  let dashes := if apart.contains '-' then ['-'] else []
  let front := (if closes then [']'] else []) ++ inner ++ plain
  if front.isEmpty && dashes.isEmpty && !negated then '\\' :: carets
  else if front.isEmpty && !negated then ['['] ++ dashes ++ carets ++ [']']
  else ['['] ++ (if negated then ['^'] else []) ++ front ++ carets ++ dashes ++ [']']

/-- A regular expression as it is written without the escapes that only rules know. There is a step
for each character. -/
def withoutEscapes : Nat → List Char → List Char
  | 0, s => s
  | _, [] => []
  | n + 1, '\\' :: s =>
    let (front, length) := escapeIn s s
    let shown := front.flatMap fun c => if activeChars.contains c then ['\\', c] else [c]
    shown ++ withoutEscapes n (s.drop length)
  | n + 1, '[' :: s =>
    let negated := s.head? == some '^'
    let rest := if negated then s.drop 1 else s
    let closes := rest.head? == some ']'
    match bracketed n [] [] (if closes then rest.drop 1 else rest) with
    | some (inner, apart, after) => brackets negated closes inner apart ++ withoutEscapes n after
    | none => '[' :: s
  | n + 1, c :: s => c :: withoutEscapes n s

/-- The regular expression that is written as a text, or what is wrong with it. -/
def regexOf (s : List Char) : Except String Regex :=
  match Regex.read true (withoutEscapes s.length s) with
  | .ok (r, _) => .ok r
  | .error message =>
    let cause := if message.startsWith "Unmatched (" then "missing ')'"
      else if message.startsWith "Unmatched [" then "bad class -- [], [^] or ["
      else "syntax error"
    .error ("regular expression compile failed (" ++ cause ++ ")\n" ++ String.ofList s)

/-! ## Steps of reading -/

/-- Reading tokens, which may be found to be wrong. -/
abbrev Reading := StateT (List (Nat × Token)) (Except String)

/-- The next token. -/
def ahead : Reading Token := return ((← get).head?.map (·.2)).getD .ended

/-- Passes over a token. -/
def skip : Reading Unit := modify (·.drop 1)

/-- Complains in the line of the next token, or so many lines later. -/
def wrong {α : Type} (message : String) (later : Nat := 0) : Reading α := do
  let line := ((← get).head?.map (·.1)).getD 1
  throw ("line " ++ toString (line + later) ++ ": " ++ message)

/-- Complains about the next token. -/
def unexpected {α : Type} : Reading α := do
  wrong ("syntax error at or near " ++ (← ahead).shown)

/-- Whether the next token is a mark, which is passed over then. -/
def took (s : String) : Reading Bool := do
  if (← ahead).isMark s then
    skip
    return true
  return false

/-- Whether the next token is a word, which is passed over then. -/
def tookWord (s : String) : Reading Bool := do
  if (← ahead).isWord s then
    skip
    return true
  return false

/-- Passes over a mark that has to be there. -/
def expect (s : String) : Reading Unit := do
  if !(← took s) then
    if s == ")" && (← ahead).isMark "\x7d" then wrong "missing ) near \x7d"
    unexpected

/-- Passes over the ends of lines. -/
def skipLines : Reading Unit :=
  modify (·.dropWhile fun (_, t) => match t with
    | .newline => true
    | _ => false)

/-- Passes over the ends of lines and of what is done. -/
def skipEnds : Reading Unit :=
  modify (·.dropWhile fun (_, t) => match t with
    | .newline => true
    | t => t.isMark ";")

/-- How many tokens are left. -/
def left : Reading Nat := return (← get).length

/-- What a step makes of something again and again, as long as it makes something. -/
def whileMore {α : Type} (step : α → Reading (Option α)) : Nat → α → Reading α
  | 0, a => return a
  | n + 1, a => do
    match ← step a with
    | some b => whileMore step n b
    | none => return a

/-! ## Terms -/

/-- How terms are read: on a level, and whether a greater-than sign is no part of a term. -/
abbrev TermReader := Nat → Bool → Reading Term

/-- The level of a term that is one part of others that stand beside each other. -/
def partLevel : Nat := 7

/-- The level of what has a sign. -/
def signLevel : Nat := 9

/-- The level of what may be given a value. -/
def placeLevel : Nat := 11

/-- The level of what stands for itself. -/
def atomLevel : Nat := 12

/-- The relations by their marks. -/
def relationMarks : List (String × Relation) :=
  [("<", .less), ("<=", .atMost), ("==", .equal), ("!=", .unequal), (">", .greater),
   (">=", .atLeast)]

/-- The operations by their marks. -/
def operationMarks : List (String × Operation) :=
  [("+", .add), ("-", .subtract), ("*", .multiply), ("/", .divide), ("%", .remainder),
   ("^", .power)]

/-- What one of several marks stands for, if it is next; it is passed over then. -/
def tookOne {α : Type} (table : List (String × α)) : Reading (Option α) := do
  match ← ahead with
  | .mark s =>
    match table.lookup s with
    | some a =>
      skip
      return some a
    | none => return none
  | _ => return none

/-- Terms with commas between them, up to a closing mark. -/
def termsUntil (read : TermReader) (closing : String) : Reading (List Term) := do
  skipLines
  if ← took closing then return []
  let first ← read 0 false
  let terms ← whileMore
    (fun terms => do
      skipLines
      if !(← took ",") then return none
      skipLines
      return some ((← read 0 false) :: terms))
    (← left) [first]
  skipLines
  expect closing
  return terms.reverse

/-- Whether a token may begin a part that stands beside another. -/
def beginsPart : Token → Bool
  | .number _ | .text _ | .name _ | .calling _ | .builtin _ => true
  | .mark s => ["$", "!", "(", "++", "--"].contains s
  | _ => false

/-- Whether a token may begin a place. -/
def beginsPlace : Token → Bool
  | .name _ => true
  | t => t.isMark "$"

/-- Reads a place, if one is next. -/
def placeAhead? (read : TermReader) : Reading (Option Term) := do
  if beginsPlace (← ahead) then return some (← read atomLevel false)
  return none

/-- Reads a function that is there without being told. -/
def builtinTerm (read : TermReader) (name : String) : Reading Term := do
  let (low, high) := (builtinNames.lookup name).getD (0, 0)
  if ← took "(" then
    let arguments ← termsUntil read ")"
    if arguments.length < low || high < arguments.length then
      wrong ("wrong number of arguments in call to " ++ name)
    return .builtin name arguments
  if name != "length" then unexpected
  return .builtin name []

/-- Reads what stands for itself. -/
def atom (read : TermReader) : Reading Term := do
  let t ← ahead
  match t with
  | .number x =>
    skip
    return .number x
  | .text s =>
    skip
    return .text s
  | .regex s =>
    match regexOf s with
    | .ok r =>
      skip
      return .regex r
    | .error message => wrong message
  | .name s =>
    skip
    if ← took "[" then return .element s (← termsUntil read "]")
    return .named s
  | .calling s =>
    skip
    expect "("
    return .call s (← termsUntil read ")")
  | .builtin s =>
    skip
    builtinTerm read s
  | .word "getline" =>
    skip
    let place ← placeAhead? read
    if ← took "<" then return .line .file (← read atomLevel false) place
    return .line .given (.text "") place
  | .mark "(" =>
    skip
    match ← termsUntil read ")" with
    | [] => unexpected
    | [one] => return if one.isPlace then .several [one] else one
    | several => return .several several
  | .mark "$" =>
    skip
    if ← took "-" then return .field (.signed true (← read atomLevel false))
    return .field (← read atomLevel false)
  | .mark "++" | .mark "--" =>
    skip
    let place ← read atomLevel false
    if !place.isPlace then unexpected
    return .stepped place (if t.isMark "++" then 1 else -1) false
  | .mark "-" | .mark "+" | .mark "!" => read signLevel false
  | _ => unexpected

/-- Reads what may be given a value, with what is given to it. -/
def placed (read : TermReader) (shut : Bool) : Reading Term := do
  let t ← read atomLevel shut
  let t ← if !t.isPlace then pure t else do
    if ← took "++" then pure (Term.stepped t 1 true)
    else if ← took "--" then pure (Term.stepped t (-1) true)
    else if ← took "=" then
      skipLines
      pure (Term.assigned none t (← read 0 shut))
    else
      match ← tookOne (operationMarks.map fun (s, o) => (s ++ "=", o)) with
      | some o =>
        skipLines
        pure (Term.assigned (some o) t (← read 0 shut))
      | none => pure t
  whileMore
    (fun t => do
      match ← get with
      | (_, .mark "|") :: (_, .word "getline") :: rest =>
        set rest
        return some (.line .command t (← placeAhead? read))
      | _ => return none)
    (← left) t

/-- Reads terms of a level that marks join, from the left. -/
def fromLeft (read : TermReader) (next : Nat) (shut : Bool)
    (step : Term → Reading (Option Term)) : Reading Term := do
  whileMore step (← left) (← read next shut)

/-- Reads a term that is one of two if there is a question mark. -/
def chosenTerm (read : TermReader) (shut : Bool) : Reading Term := do
  let test ← read 1 shut
  if !(← took "?") then return test
  skipLines
  let yes ← read 0 shut
  skipLines
  expect ":"
  skipLines
  return .chosen test yes (← read 0 shut)

/-- Reads a term of a level, given how terms within it are read. -/
def termAt (read : TermReader) : TermReader := fun level shut =>
  match level with
  | 0 => chosenTerm read shut
  | 1 => fromLeft read 2 shut fun t => do
    if !(← took "||") then return none
    skipLines
    return some (.either t (← read 2 shut))
  | 2 => fromLeft read 3 shut fun t => do
    if !(← took "&&") then return none
    skipLines
    return some (.both t (← read 3 shut))
  | 3 => fromLeft read 4 shut fun t => do
    if !(← tookWord "in") then return none
    match ← ahead with
    | .name s =>
      skip
      let keys := match t with
        | .several ts => ts
        | t => [t]
      return some (.member keys s)
    | _ => unexpected
  | 4 => fromLeft read 5 shut fun t => do
    match ← tookOne [("~", false), ("!~", true)] with
    | some denied => return some (.matched denied t (← read 5 shut))
    | none => return none
  | 5 => fromLeft read 6 shut fun t => do
    match ← tookOne (relationMarks.filter fun (s, _) => !shut || s != ">") with
    | some r => return some (.related r t (← read 6 shut))
    | none => return none
  | 6 => fromLeft read partLevel shut fun t => do
    if beginsPart (← ahead) then return some (.beside t (← read partLevel shut))
    return none
  | 7 => fromLeft read 8 shut fun t => do
    match ← tookOne [("+", Operation.add), ("-", Operation.subtract)] with
    | some o => return some (.joined o t (← read 8 shut))
    | none => return none
  | 8 => fromLeft read signLevel shut fun t => do
    match ← tookOne [("*", Operation.multiply), ("/", Operation.divide),
        ("%", Operation.remainder)] with
    | some o => return some (.joined o t (← read signLevel shut))
    | none => return none
  | 9 => do
    if ← took "!" then return .denied (← read signLevel shut)
    if ← took "-" then return .signed true (← read signLevel shut)
    if ← took "+" then return .signed false (← read signLevel shut)
    read 10 shut
  | 10 => do
    let base ← read placeLevel shut
    if ← took "^" then return .joined .power base (← read signLevel shut)
    return base
  | 11 => placed read shut
  | _ => atom read

/-- Reads terms, down to so many levels. -/
def termWithin : Nat → TermReader
  | 0 => fun _ _ => wrong "too deep"
  | n + 1 => termAt (termWithin n)

/-- How deep terms may be. -/
def termDepth : Nat := 65536

/-- Reads a term, of which a greater-than sign may be no part. -/
def term (shut : Bool := false) : Reading Term := termWithin termDepth 0 shut

/-! ## Actions -/

/-- Whether a token ends what is done. -/
def endsAction : Token → Bool
  | .newline | .ended => true
  | t => t.isMark ";" || t.isMark "\x7d"

/-- Passes over the end of what is done. -/
def endAction : Reading Unit := do
  if (← ahead).isMark ";" then
    skip
    skipLines
  else if endsAction (← ahead) then skipLines
  else unexpected

/-- Reads where something is written. -/
def outlet : Reading Outlet := do
  match ← tookOne [(">", OutletKind.file), (">>", .fileEnd), ("|", .command)] with
  | some kind => return some (kind, ← term true)
  | none => return none

/-- Reads terms that are written. -/
def writtenTerms : Reading (List Term) := do
  let t ← ahead
  if endsAction t || t.isMark ">" || t.isMark ">>" || t.isMark "|" then return []
  let first ← term true
  let terms ← whileMore
    (fun terms => do
      if !(← took ",") then return none
      skipLines
      return some ((← term true) :: terms))
    (← left) [first]
  match terms with
  | [.several ts] => return ts
  | _ => return terms.reverse

/-- Reads a term unless there is no more of what is done. -/
def termAhead? : Reading (Option Term) := do
  if endsAction (← ahead) then return none
  return some (← term)

/-- Reads a term between parentheses. -/
def test : Reading Term := do
  expect "("
  skipLines
  let t ← term
  skipLines
  expect ")"
  return t

/-- Reads something simple that is done. -/
def simpleAction : Reading Action := do
  let t ← ahead
  match t with
  | .word "print" =>
    skip
    let terms ← writtenTerms
    return .write (if terms.isEmpty then [.field (.number 0)] else terms) (← outlet)
  | .word "printf" =>
    skip
    let terms ← writtenTerms
    if terms.isEmpty then wrong "no arguments in call to printf"
    return .format terms (← outlet)
  | .word "delete" =>
    skip
    match ← ahead with
    | .name s =>
      skip
      if ← took "[" then
        return .delete s (some (← termsUntil (termWithin termDepth) "]"))
      return .delete s none
    | _ => unexpected
  | .word "break" =>
    skip
    return .leave
  | .word "continue" =>
    skip
    return .again
  | .word "next" =>
    skip
    return .next
  | .word "nextfile" =>
    skip
    return .nextFile
  | .word "exit" =>
    skip
    return .exit (← termAhead?)
  | .word "return" =>
    skip
    return .give (← termAhead?)
  | _ => return .reckon (← term)

/-- Reads what is done between braces, of which the first has been passed over. -/
def blockRest (read : Reading Action) : Reading Action := do
  skipEnds
  let actions ← whileMore
    (fun actions => do
      skipEnds
      match ← ahead with
      | .mark "\x7d" => return none
      | .ended => wrong "missing \x7d near end of file" 1
      | _ => return some ((← read) :: actions))
    (← left) []
  expect "\x7d"
  return .block actions.reverse

/-- Reads what is done in a loop or in a case. -/
def body (read : Reading Action) : Reading Action := do
  skipLines
  if (← ahead).isMark ";" then
    endAction
    return .block []
  read

/-- Reads a loop over keys, if there is one after the parenthesis. -/
def keysAhead? : Reading (Option (String × String)) := do
  match ← get with
  | (_, .name x) :: (_, .word "in") :: (_, .name t) :: (_, .mark ")") :: rest =>
    set rest
    return some (x, t)
  | _ => return none

/-- Reads what is done if a term is not true, if that is told. -/
def otherwise? (read : Reading Action) : Reading (Option Action) := do
  let before ← get
  skipEnds
  if ← tookWord "else" then return some (← body read)
  set before
  return none

/-- Reads something that is done, given how what is within it is read. -/
def actionWith (read : Reading Action) : Reading Action := do
  let t ← ahead
  match t with
  | .mark "\x7b" =>
    skip
    let block ← blockRest read
    skipEnds
    return block
  | .word "if" =>
    skip
    let t ← test
    let yes ← body read
    return .choice t yes (← otherwise? read)
  | .word "while" =>
    skip
    let t ← test
    return .whilst t (← body read)
  | .word "do" =>
    skip
    let inner ← body read
    skipEnds
    if !(← tookWord "while") then unexpected
    let t ← test
    endAction
    return .repeated inner t
  | .word "for" =>
    skip
    expect "("
    match ← keysAhead? with
    | some (x, t) => return .each x t (← body read)
    | none =>
      let first ← termAhead?
      expect ";"
      skipLines
      let t ← termAhead?
      expect ";"
      skipLines
      let next ← if (← ahead).isMark ")" then pure none else some <$> term
      expect ")"
      return .count first t next (← body read)
  | _ =>
    let action ← simpleAction
    endAction
    return action

/-- Reads something that is done, down to so many levels. -/
def actionWithin : Nat → Reading Action
  | 0 => wrong "too deep"
  | n + 1 => actionWith (actionWithin n)

/-- Reads what is done between braces. -/
def block : Reading Action := do
  expect "\x7b"
  blockRest (actionWithin termDepth)

/-! ## Rules -/

/-- Reads the names of the arguments of a function. -/
def parameters : Reading (List String) := do
  expect "("
  skipLines
  if ← took ")" then return []
  let name : Reading String := do
    match ← ahead with
    | .name s =>
      skip
      return s
    | _ => unexpected
  let first ← name
  let names ← whileMore
    (fun names => do
      skipLines
      if !(← took ",") then return none
      skipLines
      return some ((← name) :: names))
    (← left) [first]
  skipLines
  expect ")"
  return names.reverse

/-- Reads a rule or a function. -/
def item (s : RuleSet) : Reading RuleSet := do
  let withRule (selector : Selector) (action : Action) : RuleSet :=
    { s with rules := (selector, action) :: s.rules }
  match ← ahead with
  | .word "BEGIN" =>
    skip
    return withRule .start (← block)
  | .word "END" =>
    skip
    return withRule .finish (← block)
  | .word "function" =>
    skip
    match ← ahead with
    | .name name | .calling name =>
      skip
      let parameters ← parameters
      skipLines
      return { s with functions := (name, { parameters, body := ← block }) :: s.functions }
    | _ => unexpected
  | .mark "\x7b" => return withRule .always (← block)
  | .mark "\x7d" => wrong "extra '\x7d'"
  | _ =>
    let first ← term
    let selector ← if ← took "," then do
        skipLines
        pure (Selector.range first (← term))
      else pure (Selector.test first)
    if (← ahead).isMark "\x7b" then return withRule selector (← block)
    if !endsAction (← ahead) then unexpected
    return withRule selector (.write [.field (.number 0)] none)

/-- Reads rules and functions. -/
def items : Reading RuleSet := do
  let s ← whileMore
    (fun s => do
      skipEnds
      match ← ahead with
      | .ended => return none
      | _ => return some (← item s))
    (← left) {}
  return { s with rules := s.rules.reverse }

/-- Reads the text of rules. -/
def RuleSet.read (s : String) : Except String RuleSet := do
  let tokens ← scan s
  return (← items.run tokens).1

end BuildingModel.Sandbox.Tool.Rules
