import BuildingModel.Sandbox.Shell.Command

/-!
# Reading commands

A shell reads the text of a script a complete command at a time, and carries each out before it
reads on. `Reader.command?` reads one. What is read is taken apart into tokens, and words into their
parts. A document that a redirection asks for follows the line of the redirection.

The functions that read each other's matter go down a number of levels, which is never less than
what the length of the text allows.
-/

namespace BuildingModel.Sandbox.Shell

/-- A text that is no command. -/
structure Fault where
  /-- The line where this shows. -/
  line : Nat
  /-- What is wrong. -/
  message : String
  /-- What is told besides. -/
  more : Option String := none
deriving DecidableEq, Repr

/-- A fault in a document, given the line where this ends, and the last line of the text. What is
not closed in a document is sought up to there. -/
def Fault.inDocument (f : Fault) (documentEnd textEnd : Nat) : Fault :=
  if f.line < documentEnd then f
  else if f.message.endsWith "Unterminated quoted string" then
    { f with line := textEnd, message := "Syntax error: Missing '\x7d'" }
  else { f with line := textEnd }

/-- A token. -/
inductive Token where
  /-- The end of a line. -/
  | newline
  /-- The end of the text. -/
  | finished
  /-- An operator other than a redirection. -/
  | operator (s : String)
  /-- The start of a redirection. The document of one may lose the tabs at the front of its
  lines. -/
  | redirection (descriptor : Nat) (direction : Direction) (tabs : Bool)
  /-- A word. -/
  | word (parts : List Part)
  /-- A word with a meaning of its own. -/
  | keyword (s : String)

namespace Token

/-- How a complaint calls a token. -/
def shown : Token → String
  | .newline => "newline"
  | .finished => "end of file"
  | .operator s | .keyword s => "\"" ++ s ++ "\""
  | .redirection _ _ _ => "redirection"
  | .word _ => "word"

/-- How a complaint of the extended shell calls a token. -/
def name : Token → String
  | .newline | .finished => "newline"
  | .operator s | .keyword s => s
  | .redirection _ direction _ => match direction with
    | .read | .document _ | .line => "<"
    | _ => ">"
  | .word parts => ((parts.map fun part => match part with
    | .text s _ => String.ofList s
    | _ => "$").foldl (· ++ ·) "")

/-- Whether a token is an operator. -/
def isOperator (s : String) : Token → Bool
  | .operator t => s == t
  | _ => false

/-- Whether a token is a keyword. -/
def isKeyword (s : String) : Token → Bool
  | .keyword t => s == t
  | _ => false

/-- Whether a token cannot start a command but may follow one. -/
def endsList : Token → Bool
  | .operator s => s == ")" || s == ";;" || s == ";&"
  | .keyword s => ["do", "done", "elif", "else", "esac", "fi", "then", "\x7d"].contains s
  | _ => false

end Token

/-- The words with a meaning of their own. -/
def keywords : List String :=
  ["!", "case", "do", "done", "elif", "else", "esac", "fi", "for", "if", "in", "then", "until",
   "while", "\x7b", "\x7d"]

/-- A document that is to be read after the line. -/
structure Awaited where
  /-- Its number. -/
  index : Nat
  /-- The line after it. -/
  ending : String
  /-- Whether tabs at the front of its lines are dropped. -/
  tabs : Bool
  /-- Whether nothing in it is expanded. -/
  quoted : Bool

/-- A text that stands in place of a name. -/
structure Stand where
  /-- The name. -/
  name : String
  /-- How many characters follow the text. -/
  after : Nat
  /-- Whether a name may follow that another text stands in place of. -/
  goesOn : Bool

/-- A text that is being read. -/
structure Reader where
  /-- What is still to be read. -/
  rest : List Char
  /-- The whole text. -/
  whole : String := ""
  /-- The line on which the last quote stands. -/
  quoteLine : Nat := 1
  /-- The line that is being read. -/
  line : Nat := 1
  /-- Whether the shell knows more than the standard has. -/
  extended : Bool := false
  /-- The last token. -/
  token : Token := .newline
  /-- Whether the last token is to be read again. -/
  pushed : Bool := false
  /-- The documents that follow the line. -/
  awaited : List Awaited := []
  /-- The number of the next document. -/
  count : Nat := 0
  /-- The documents with their numbers. -/
  documents : List (Nat × List Part) := []
  /-- The texts that stand for commands, by their names. -/
  aliases : List (String × String) := []
  /-- The texts that are being read in place of names. -/
  stands : List Stand := []
  /-- Whether the next word may be a name that a text stands in place of. -/
  mayStand : Bool := false

/-- Reading. -/
abbrev Read := StateT Reader (Except Fault)

/-- Stops at a fault. -/
def fault {α : Type} (message : String) : Read α := do
  throw { line := (← get).line, message := "Syntax error: " ++ message }

/-- Stops at the last token, where another one may have been expected. -/
def unexpected {α : Type} (wanted : Option String) : Read α := do
  let r ← get
  match r.extended, r.token with
  | true, .finished => throw { line := r.line, message := "syntax error: unexpected end of file" }
  | true, token =>
    let line := match token with
      | .newline => r.line - 1
      | _ => r.line
    throw {
      line
      message := "syntax error near unexpected token \x60" ++ token.name ++ "'"
      more := some ("\x60" ++ (r.whole.splitOn "\n").getD (line - 1) "" ++ "'") }
  | false, token =>
    fault (token.shown ++ " unexpected" ++
      match wanted with
      | some s => " (expecting " ++ s ++ ")"
      | none => "")

/-- Stops at the end of the text, where a quote is not closed. -/
def unclosed {α : Type} (mark : String) : Read α := do
  let r ← get
  if r.extended then
    throw {
      line := r.quoteLine
      message := "unexpected EOF while looking for matching \x60" ++ mark ++ "'" }
  else fault "Unterminated quoted string"

/-- Notes that a quote stands on the line that is being read. -/
def noteQuote : Read Unit := modify fun r => { r with quoteLine := r.line }

/-- Passes over characters. -/
def pass (n : Nat) : Read Unit :=
  modify fun r => { r with rest := r.rest.drop n, line := r.line + (r.rest.take n).count '\n' }

/-- A text after the ends of lines that are no ends. -/
def dropJoins : List Char → List Char
  | '\\' :: '\n' :: rest => dropJoins rest
  | rest => rest

/-- The text after blanks and a comment. -/
def dropBlanks : List Char → List Char
  | ' ' :: rest => dropBlanks rest
  | '\t' :: rest => dropBlanks rest
  | '\\' :: '\n' :: rest => dropBlanks rest
  | '#' :: rest => rest.dropWhile (· != '\n')
  | rest => rest

/-- Passes over the front of the text that a function drops. -/
def passTo (f : List Char → List Char) : Read Unit := do
  let s := (← get).rest
  pass (s.length - (f s).length)

/-- The text, which does not start with the end of a line that is none. -/
def ahead : Read (List Char) := do
  passTo dropJoins
  return (← get).rest

/-- Whether the next token is a new one that follows a text after which a name may stand for
another. The texts that end before it are no longer read. -/
def followsStand : Read Bool := do
  if (← get).pushed then return false
  let before := (← get).rest.length
  passTo dropBlanks
  let start := (← get).rest.length
  let ended := (← get).stands.filter fun t => start ≤ t.after
  modify fun r => { r with stands := r.stands.filter fun t => t.after < start }
  return ended.any fun t => t.goesOn && t.after < before

/-- Puts the text in place of a name that it stands for, unless it does so already or may not;
whether that is done. -/
def putStand (may : Bool) (name : String) : Read Bool := do
  let r ← get
  if !may || r.stands.any (·.name == name) then return false
  match r.aliases.lookup name with
  | none => return false
  | some text =>
    let goesOn := text.endsWith " " || text.endsWith "\t"
    set { r with
      rest := text.toList ++ r.rest
      stands := ⟨name, r.rest.length, goesOn⟩ :: r.stands
      mayStand := true }
    return true

/-- Has the last token read again. -/
def push : Read Unit :=
  modify ({ · with pushed := true })

/-! ## Words -/

/-- Where a part of a word stands. -/
inductive Mode where
  /-- Outside of all else. -/
  | bare
  /-- Between braces. -/
  | braced
  /-- Between quotes. -/
  | quoted
  /-- Between braces that stand between quotes. -/
  | bracedQuoted
  /-- In a document. -/
  | document
  /-- In an expression, within so many parentheses. -/
  | sum (depth : Nat)

namespace Mode

/-- The characters that mean something. -/
def specials : Mode → String
  | .bare => "\\'\"$\x60 \t\n;&|<>()"
  | .braced => "\\'\"$\x60\x7d"
  | .quoted => "\\\"$\x60"
  | .bracedQuoted => "\\\"$\x60\x7d"
  | .document => "\\$\x60"
  | .sum _ => "\\$\x60()"

/-- Whether the parts are quoted. -/
def quotes : Mode → Bool
  | .bare | .braced => false
  | _ => true

/-- Whether a backslash makes a character stand for itself. -/
def escapes (m : Mode) (c : Char) : Bool :=
  match m with
  | .bare | .braced => true
  | .quoted => "\\\"$\x60".contains c
  | .bracedQuoted => "\\\"$\x60\x7d".contains c
  | .document => "\\$\x60".contains c
  | .sum _ => "\\\"$\x60".contains c

/-- Where the argument of an expansion stands. -/
def argument (m : Mode) : Change → Mode
  | .dropFront _ | .dropBack _ | .replace _ => .braced
  | _ => if m.quotes then .bracedQuoted else .braced

end Mode

/-- Whether a name may start with a character. -/
def isNameStart (c : Char) : Bool := c.isAlpha || c == '_'

/-- Whether a name may have a character after its start. -/
def isNameChar (c : Char) : Bool := c.isAlphanum || c == '_'

/-- Whether a text is a name. -/
def isName (s : String) : Bool :=
  match s.toList with
  | c :: rest => isNameStart c && rest.all isNameChar
  | [] => false

/-- Whether a parameter has a character for a name. -/
def isSpecial (c : Char) : Bool := "@*#?$!-".contains c

/-- The name of the parameter between braces, whether its length is asked for, and how many
characters say so. -/
def parameterName? : List Char → Option (String × Bool × Nat)
  | '#' :: c :: rest =>
    let name := (c :: rest).takeWhile isNameChar
    if !name.isEmpty then some (String.ofList name, true, name.length + 1)
    else if isSpecial c && rest.head? == some '\x7d' then some (c.toString, true, 2)
    else some ("#", false, 1)
  | c :: rest =>
    if isNameStart c then
      let name := c :: rest.takeWhile isNameChar
      some (String.ofList name, false, name.length)
    else if c.isDigit then
      let name := c :: rest.takeWhile Char.isDigit
      some (String.ofList name, false, name.length)
    else if isSpecial c then some (c.toString, false, 1)
    else none
  | [] => none

/-- What follows the name of a parameter between braces, and how many characters say so. -/
def change? (extended : Bool) : List Char → Option (Change × Nat)
  | ':' :: '-' :: _ => some (.orElse true, 2)
  | ':' :: '=' :: _ => some (.orAssign true, 2)
  | ':' :: '?' :: _ => some (.orFail true, 2)
  | ':' :: '+' :: _ => some (.ifSet true, 2)
  | '-' :: _ => some (.orElse false, 1)
  | '=' :: _ => some (.orAssign false, 1)
  | '?' :: _ => some (.orFail false, 1)
  | '+' :: _ => some (.ifSet false, 1)
  | '%' :: '%' :: _ => some (.dropBack true, 2)
  | '%' :: _ => some (.dropBack false, 1)
  | '#' :: '#' :: _ => some (.dropFront true, 2)
  | '#' :: _ => some (.dropFront false, 1)
  | ':' :: _ => if extended then some (.slice, 1) else none
  | '/' :: '/' :: _ => if extended then some (.replace true, 2) else none
  | '/' :: _ => if extended then some (.replace false, 1) else none
  | '^' :: '^' :: _ => if extended then some (.recase true true, 2) else none
  | '^' :: _ => if extended then some (.recase true false, 1) else none
  | ',' :: ',' :: _ => if extended then some (.recase false true, 2) else none
  | ',' :: _ => if extended then some (.recase false false, 1) else none
  | _ => none

/-- The text of a command between backquotes, and how many characters it takes with the backquote
at its end. -/
def backquoted? (quoted : Bool) : List Char → Option (List Char × Nat)
  | [] => none
  | '\x60' :: _ => some ([], 1)
  | '\\' :: '\n' :: rest => (backquoted? quoted rest).map fun (s, n) => (s, n + 2)
  | '\\' :: c :: rest =>
    (backquoted? quoted rest).map fun (s, n) =>
      (if "\\$\x60".contains c || (quoted && c == '"') then c :: s else '\\' :: c :: s, n + 2)
  | c :: rest => (backquoted? quoted rest).map fun (s, n) => (c :: s, n + 1)

/-- What a backslash and some characters stand for between dollar quotes, and how many
characters. -/
def dollarEscape (c : Char) (rest : List Char) : List Char × Nat :=
  match ("abefnrtv\\'\"?".toList.zip "\x07\x08\x1b\x0c\n\r\t\x0b\\'\"?".toList).lookup c with
  | some d => ([d], 1)
  | none =>
    let value (base : Nat) (ds : List Char) : Char :=
      Char.ofNat (ds.foldl (fun n d => n * base + (if d.isDigit then d.toNat - 48
        else d.toLower.toNat - 87)) 0 % 256)
    let octal := ((c :: rest).takeWhile fun d => '0' ≤ d && d ≤ '7').take 3
    let hexadecimal := (rest.takeWhile fun d =>
      d.isDigit || ('a' ≤ d.toLower && d.toLower ≤ 'f')).take 2
    if !octal.isEmpty then ([value 8 octal], octal.length)
    else if c == 'x' && !hexadecimal.isEmpty then ([value 16 hexadecimal], hexadecimal.length + 1)
    else (['\\', c], 1)

/-- The text between dollar quotes, if there are at most so many pieces, and how many characters it
takes with the quote at its end. -/
def dollarQuoted? : Nat → List Char → Option (List Char × Nat)
  | 0, _ | _, [] => none
  | _, '\'' :: _ => some ([], 1)
  | n + 1, '\\' :: c :: rest =>
    let (s, k) := dollarEscape c rest
    (dollarQuoted? n ((c :: rest).drop k)).map fun (t, m) => (s ++ t, m + k + 1)
  | n + 1, c :: rest => (dollarQuoted? n rest).map fun (t, m) => (c :: t, m + 1)

/-- The document before a line, and how many characters it takes with that line. -/
def documentBefore (a : Awaited) (s : List Char) : List Char × Nat :=
  let lines := s.splitOn '\n'
  let shorten (line : List Char) := if a.tabs then line.dropWhile (· == '\t') else line
  let body := lines.takeWhile fun line => shorten line != a.ending.toList
  let size := ((lines.take (body.length + 1)).map (·.length + 1)).foldl (· + ·) 0
  if body.length == lines.length then (List.intercalate ['\n'] (body.map shorten), s.length)
  else ((body.map fun line => shorten line ++ ['\n']).flatten, size)

/-- The assignment that a word is, if it is one. -/
def assignment? (extended : Bool) : List Part → Option (String × List Part)
  | .text s false :: rest =>
    let name := s.takeWhile (· != '=')
    let value (n : Nat) : List Part :=
      let s := s.drop n
      if s.isEmpty then rest else .text s false :: rest
    if s.length == name.length then none
    else if isName (String.ofList name) then some (String.ofList name, value (name.length + 1))
    else
      let name := name.dropLast
      if extended && s[name.length]? == some '+' && isName (String.ofList name) then
        some (String.ofList name,
          .parameter (String.ofList name) .keep [] true :: value (name.length + 2))
      else none
  | _ => none

/-- The descriptor that the parts before a redirection name; none if they are a word of their
own. -/
def descriptor? : List Part → Option (Option Nat)
  | [] => some none
  | [.text [c] false] => if c.isDigit then some (some (c.toNat - 48)) else none
  | _ => none

/-- The start of a redirection, and how many characters say so. -/
def redirection? (extended : Bool) (descriptor : Option Nat) : List Char → Option (Token × Nat)
  | '&' :: '>' :: '>' :: _ => if extended then some (.redirection 1 .appendAll false, 3) else none
  | '&' :: '>' :: _ => if extended then some (.redirection 1 .duplicate false, 2) else none
  | '>' :: '>' :: _ => some (.redirection (descriptor.getD 1) .append false, 2)
  | '>' :: '|' :: _ => some (.redirection (descriptor.getD 1) .overwrite false, 2)
  | '>' :: '&' :: _ => some (.redirection (descriptor.getD 1) .duplicate false, 2)
  | '>' :: _ => some (.redirection (descriptor.getD 1) .write false, 1)
  | '<' :: '<' :: '-' :: _ => some (.redirection (descriptor.getD 0) (.document 0) true, 3)
  | '<' :: '<' :: c :: _ =>
    if extended && c == '<' then some (.redirection (descriptor.getD 0) .line false, 3)
    else some (.redirection (descriptor.getD 0) (.document 0) false, 2)
  | '<' :: '<' :: _ => some (.redirection (descriptor.getD 0) (.document 0) false, 2)
  | '<' :: '&' :: _ => some (.redirection (descriptor.getD 0) .duplicate false, 2)
  | '<' :: '>' :: _ => some (.redirection (descriptor.getD 0) .both false, 2)
  | '<' :: _ => some (.redirection (descriptor.getD 0) .read false, 1)
  | _ => none

/-- The operator in front of a text, and how many characters it has. -/
def operator? (extended : Bool) : List Char → Option (String × Nat)
  | '&' :: '&' :: _ => some ("&&", 2)
  | '&' :: c :: _ => if extended && c == '>' then none else some ("&", 1)
  | '&' :: _ => some ("&", 1)
  | '|' :: '|' :: _ => some ("||", 2)
  | '|' :: c :: _ => if extended && c == '&' then some ("|&", 2) else some ("|", 1)
  | '|' :: _ => some ("|", 1)
  | ';' :: ';' :: _ => some (";;", 2)
  | ';' :: '&' :: _ => if extended then some (";&", 2) else some (";", 1)
  | ';' :: _ => some (";", 1)
  | '(' :: _ => some ("(", 1)
  | ')' :: _ => some (")", 1)
  | _ => none

/-! ## Commands -/

/-- A word that stands for the arguments. -/
def allArguments : List Part := [.parameter "@" .keep [] true]

/-- The word that a token is in a pattern or in a test. -/
def Token.asWord : Token → List Part
  | .word parts => parts
  | .keyword s | .operator s => [.text s.toList false]
  | .redirection _ .read _ => [.text ['<'] false]
  | .redirection _ _ _ => [.text ['>'] false]
  | _ => []

/-- Commands of which the last, which stands first, has its complaints read with what it writes. -/
def withComplaints : List Command → List Command
  | last :: rest => .redirected 0 last [.mk 2 .duplicate [.text ['1'] false]] :: rest
  | [] => []

/-- The parts of an expression between semicolons. -/
def betweenSemicolons : List Part → List (List Part)
  | [] => [[]]
  | part :: rest =>
    let after := betweenSemicolons rest
    match part with
    | .text s quoted =>
      let pieces := s.splitOn ';'
      let last := .text (pieces.getLastD []) quoted :: after.headD []
      pieces.dropLast.map (fun piece => [.text piece quoted]) ++ last :: after.drop 1
    | _ => (part :: after.headD []) :: after.drop 1

/-- A text is too deep. -/
def tooDeep {α : Type} : Read α := fault "too deep"

mutual

/-- The parts of a word up to its end, which is passed over unless it separates words. -/
def readParts : Nat → Mode → Read (List Part)
  | 0, _ => tooDeep
  | n + 1, mode => do
    let s := (← get).rest
    let run := s.takeWhile (!mode.specials.contains ·)
    if !run.isEmpty then
      pass run.length
      return .text run mode.quotes :: (← readParts n mode)
    match mode, s with
    | .bare, [] | .document, [] => return []
    | .braced, [] => fault "Missing '\x7d'"
    | .sum _, [] => fault "Missing '))'"
    | _, [] => unclosed "\""
    | _, '\\' :: '\n' :: _ =>
      pass 2
      readParts n mode
    | _, '\\' :: c :: _ =>
      pass 2
      return .text (if mode.escapes c then [c] else ['\\', c]) true :: (← readParts n mode)
    | _, '\\' :: [] =>
      pass 1
      return .text ['\\'] true :: (← readParts n mode)
    | _, '$' :: _ =>
      pass 1
      let part ← readExpansion n mode
      return part :: (← readParts n mode)
    | _, '\x60' :: rest =>
      match backquoted? mode.quotes rest with
      | none =>
        pass s.length
        fault "EOF in backquote substitution"
      | some (inner, length) =>
        pass (length + 1)
        let r ← get
        set { r with rest := inner, line := 1, pushed := false, awaited := [], stands := [] }
        let body ← readList n false true []
        modify fun t => { t with
          rest := r.rest, line := r.line, token := r.token, pushed := false, awaited := r.awaited
          stands := r.stands }
        return .output (.block body) mode.quotes :: (← readParts n mode)
    | .quoted, '"' :: _ | .braced, '\x7d' :: _ | .bracedQuoted, '\x7d' :: _ =>
      pass 1
      return []
    | _, '"' :: _ =>
      noteQuote
      pass 1
      let inner ← readParts n .quoted
      return (if inner.isEmpty then [.text [] true] else inner) ++ (← readParts n mode)
    | _, '\'' :: rest =>
      let inner := rest.takeWhile (· != '\'')
      if inner.length == rest.length then
        noteQuote
        pass s.length
        unclosed "'"
      pass (inner.length + 2)
      return .text inner true :: (← readParts n mode)
    | .sum depth, '(' :: _ =>
      pass 1
      return .text ['('] true :: (← readParts n (.sum (depth + 1)))
    | .sum (depth + 1), ')' :: _ =>
      pass 1
      return .text [')'] true :: (← readParts n (.sum depth))
    | .sum 0, ')' :: ')' :: _ =>
      pass 2
      return []
    | .sum 0, ')' :: _ =>
      pass 1
      return .text [')'] true :: (← readParts n mode)
    | _, _ => return []

/-- The expansion after a dollar sign. -/
def readExpansion : Nat → Mode → Read Part
  | 0, _ => tooDeep
  | n + 1, mode => do
    let s ← ahead
    match s with
    | '(' :: '(' :: _ =>
      pass 2
      return .sum (← readParts n (.sum 0)) mode.quotes
    | '(' :: _ =>
      pass 1
      let r ← get
      set { r with pushed := false, awaited := [] }
      let body ← readList n false true []
      expect n "\")\""
      modify fun t => { t with token := r.token, pushed := false, awaited := r.awaited }
      return .output (.block body) mode.quotes
    | '\x7b' :: after =>
      pass 1
      match parameterName? after with
      | none =>
        if after.head? == some '\n' then modify fun r => { r with rest := r.rest.drop 1 }
        let argument ← readParts n (mode.argument .keep)
        return .parameter "" .invalid argument mode.quotes
      | some (name, isLength, length) =>
        pass length
        let rest ← ahead
        let extended := (← get).extended
        let (change, length) :=
          if rest.head? == some '\x7d' then (if isLength then .length else .keep, 0)
          else if isLength then (.invalid, 0)
          else (change? extended rest).getD (.invalid, 0)
        pass length
        if change == .invalid && rest.head? == some '\n' then
          modify fun r => { r with rest := r.rest.drop 1 }
        let argument ← readParts n (mode.argument change)
        let taken := after.take (after.length - (← get).rest.length - 1)
        let shown := if change == .invalid && extended then String.ofList taken else name
        return .parameter shown change argument mode.quotes
    | '\'' :: rest =>
      if (← get).extended && !mode.quotes then
        match dollarQuoted? rest.length rest with
        | some (inner, length) =>
          pass (length + 1)
          return .text inner true
        | none =>
          noteQuote
          pass s.length
          unclosed "'"
      else return .text ['$'] mode.quotes
    | c :: rest =>
      if isNameStart c then
        let name := c :: rest.takeWhile isNameChar
        pass name.length
        return .parameter (String.ofList name) .keep [] mode.quotes
      else if c.isDigit || isSpecial c then
        pass 1
        return .parameter c.toString .keep [] mode.quotes
      else return .text ['$'] mode.quotes
    | [] => return .text ['$'] mode.quotes

/-- Reads the documents that follow the line. -/
def readDocuments : Nat → List Awaited → Read Unit
  | 0, _ => tooDeep
  | _, [] => return
  | n + 1, a :: rest => do
    let line := (← get).line
    let (body, length) := documentBefore a (← get).rest
    pass length
    let parts ←
      if a.quoted then pure [.text body true]
      else do
        let r ← get
        set { r with rest := body, line }
        let parts ← tryCatch (readParts n .document) fun f =>
          throw (f.inDocument (line + body.count '\n') (r.line + r.rest.count '\n'))
        modify ({ · with rest := r.rest, line := r.line })
        pure parts
    modify fun r => { r with documents := (a.index, parts) :: r.documents }
    readDocuments n rest

/-- Reads a token, with the documents that follow it if it ends a line. -/
def readToken : Nat → Read Unit
  | 0 => tooDeep
  | n + 1 => do
    if (← get).pushed then
      return ← modify ({ · with pushed := false })
    passTo dropBlanks
    let s := (← get).rest
    match s, operator? (← get).extended s with
    | [], _ => modify ({ · with token := .finished })
    | '\n' :: _, _ =>
      pass 1
      let awaited := (← get).awaited
      modify ({ · with awaited := [] })
      readDocuments n awaited
      modify ({ · with token := .newline })
    | _, some (operator, length) =>
      pass length
      modify ({ · with token := .operator operator })
    | _, none =>
      let parts ← readParts n .bare
      let extended := (← get).extended
      let rest ← ahead
      match (descriptor? parts).bind fun descriptor => redirection? extended descriptor rest with
      | some (token, length) =>
        pass length
        modify ({ · with token })
      | none => modify ({ · with token := .word parts })

/-- The next token, after the ends of lines if these do not count. A word may be a keyword, or a
name that a text stands in place of. -/
def nextToken : Nat → Bool → Bool → Read Token
  | 0, _, _ => tooDeep
  | n + 1, lines, known => do
    let isNew := !(← get).pushed
    let follows ← followsStand
    let mayStand := isNew && (known || follows || (← get).mayStand)
    modify ({ · with mayStand := false })
    readToken n
    let token := (← get).token
    match token with
    | .newline => if lines then nextToken n lines known else return token
    | .word parts =>
      match plain? parts with
      | some s =>
        if known && keywords.contains s then
          modify ({ · with token := .keyword s })
          return .keyword s
        else if ← putStand mayStand s then nextToken n lines known
        else return token
      | none => return token
    | _ => return token

/-- Passes over a token that has to follow. -/
def expect : Nat → String → Read Unit
  | 0, _ => tooDeep
  | n + 1, wanted => do
    let token ← nextToken n false false
    if token.shown != wanted then unexpected (some wanted)

/-- The commands of a list after those that have been read. A list on the outermost level ends with
a line, any other one before a token that cannot start a command; whether it may do so at once is
up to its place. -/
def readList : Nat → Bool → Bool → List Command → Read (List Command)
  | 0, _, _, _ => tooDeep
  | n + 1, outermost, mayEnd, commands => do
    match ← nextToken n (!outermost) true with
    | .newline => return commands.reverse
    | .finished =>
      push
      return commands.reverse
    | token =>
      push
      if mayEnd && token.endsList then return commands.reverse
      let command ← readChain n (← readPipeline n false)
      let token ← nextToken n false false
      let command := if token.isOperator "&" then .background command else command
      match token with
      | .finished =>
        push
        return (command :: commands).reverse
      | .newline =>
        push
        readList n outermost (!outermost) (command :: commands)
      | _ =>
        if token.isOperator "&" || token.isOperator ";" then
          readList n outermost (!outermost) (command :: commands)
        else if outermost then unexpected none
        else
          push
          return (command :: commands).reverse

/-- The commands that are joined to one by their success or failure. -/
def readChain : Nat → Command → Read Command
  | 0, _ => tooDeep
  | n + 1, first => do
    let token ← nextToken n false false
    if token.isOperator "&&" then
      let second ← readPipeline n true
      readChain n (.conjunction first second)
    else if token.isOperator "||" then
      let second ← readPipeline n true
      readChain n (.alternative first second)
    else
      push
      return first

/-- A pipeline, on a line of its own if that is allowed. -/
def readPipeline : Nat → Bool → Read Command
  | 0, _ => tooDeep
  | n + 1, fresh => do
    let negated := (← nextToken n fresh fresh).isKeyword "!"
    if !negated then push
    let first ← readCommand n false negated
    let commands ← readPiped n [first]
    let body := match commands with
      | [c] => c
      | _ => .pipeline commands
    return if negated then .negation body else body

/-- The commands that read what another one writes. -/
def readPiped : Nat → List Command → Read (List Command)
  | 0, _ => tooDeep
  | n + 1, commands => do
    let token ← nextToken n false false
    if token.isOperator "|" then
      let command ← readCommand n true true
      readPiped n (command :: commands)
    else if token.isOperator "|&" then
      let command ← readCommand n true true
      readPiped n (command :: withComplaints commands)
    else
      push
      return commands.reverse

/-- The commands in a body. -/
def readBody : Nat → Read Command
  | 0 => tooDeep
  | n + 1 => return .block (← readList n false false [])

/-- A command. -/
def readCommand : Nat → Bool → Bool → Read Command
  | 0, _, _ => tooDeep
  | n + 1, lines, known => do
    let line := (← get).line
    match ← nextToken n lines known with
    | .keyword "if" =>
      let command ← readBranches n
      expect n "\"fi\""
      readRedirected n line command
    | .keyword "while" => readLoop n line false
    | .keyword "until" => readLoop n line true
    | .keyword "for" => readEach n line
    | .keyword "case" =>
      let subject ← match ← nextToken n false false with
        | .word parts => pure parts
        | _ => unexpected (some "word")
      if !(← nextToken n true true).isKeyword "in" then unexpected (some "\"in\"")
      let items ← readItems n
      readRedirected n line (.select line subject items)
    | .keyword "\x7b" =>
      let body ← readBody n
      expect n "\"\x7d\""
      readRedirected n line body
    | .operator "(" =>
      if (← get).extended && (← get).rest.head? == some '(' then
        pass 1
        let expression ← readParts n (.sum 0)
        readRedirected n line (.evaluate line expression)
      else
        let body ← readBody n
        expect n "\")\""
        match ← readRedirected n line (.block []) with
        | .redirected _ _ redirections => return .subshell line body redirections
        | _ => return .subshell line body []
    | .word parts =>
      push
      let line := (← get).line
      match plain? parts, (← get).extended with
      | some "[[", true =>
        let _ ← nextToken n false false
        let words ← readTest n []
        readRedirected n line (.check line words)
      | some "function", true =>
        let _ ← nextToken n false false
        let name ← nextToken n false false
        let token ← nextToken n false false
        if token.isOperator "(" then expect n "\")\"" else push
        return .define (literal name.asWord) (← readCommand n true true)
      | _, _ => readSimple n line [] [] []
    | .redirection _ _ _ =>
      push
      readSimple n (← get).line [] [] []
    | _ => unexpected none

/-- A choice after its first word. -/
def readBranches : Nat → Read Command
  | 0 => tooDeep
  | n + 1 => do
    let test ← readBody n
    expect n "\"then\""
    let yes ← readBody n
    let token ← nextToken n false false
    if token.isKeyword "elif" then return .branch test yes (← readBranches n)
    else if token.isKeyword "else" then return .branch test yes (← readBody n)
    else
      push
      return .branch test yes (.block [])

/-- A loop after its first word. -/
def readLoop : Nat → Nat → Bool → Read Command
  | 0, _, _ => tooDeep
  | n + 1, line, untilTrue => do
    let test ← readBody n
    expect n "\"do\""
    let body ← readBody n
    expect n "\"done\""
    readRedirected n line (.loop untilTrue test body)

/-- A loop over words after its first word. -/
def readEach : Nat → Nat → Read Command
  | 0, _ => tooDeep
  | n + 1, line => do
    let token ← nextToken n false false
    if token.isOperator "(" && (← get).extended && (← get).rest.head? == some '(' then
      pass 1
      let parts := betweenSemicolons (← readParts n (.sum 0))
      let token ← nextToken n true true
      if !token.isOperator ";" then push
      let token ← nextToken n true true
      let body ← readBody n
      if token.isKeyword "\x7b" then expect n "\"\x7d\""
      else if token.isKeyword "do" then expect n "\"done\""
      else unexpected (some "\"do\"")
      return ← readRedirected n line
        (.count line (parts.getD 0 []) (parts.getD 1 []) (parts.getD 2 []) body)
    let name ← match token with
      | .word parts =>
        match plain? parts with
        | some name => if isName name then pure name else fault "Bad for loop variable"
        | none => fault "Bad for loop variable"
      | _ => fault "Bad for loop variable"
    let token ← nextToken n true true
    let values ←
      if token.isKeyword "in" then readValues n []
      else do
        if !token.isOperator ";" then push
        pure [allArguments]
    if !(← nextToken n true true).isKeyword "do" then unexpected (some "\"do\"")
    let body ← readBody n
    expect n "\"done\""
    readRedirected n line (.each line name values body)

/-- The words of a loop after those that have been read, up to the end of their line. -/
def readValues : Nat → List (List Part) → Read (List (List Part))
  | 0, _ => tooDeep
  | n + 1, words => do
    match ← nextToken n false false with
    | .word parts => readValues n (parts :: words)
    | .newline => return words.reverse
    | token => if token.isOperator ";" then return words.reverse else unexpected none

/-- The items of a choice by patterns. -/
def readItems : Nat → Read (List (List (List Part) × Command))
  | 0 => tooDeep
  | n + 1 => do
    let aliases := (← get).aliases
    modify ({ · with aliases := [] })
    let token ← nextToken n true true
    modify ({ · with aliases })
    if token.isKeyword "esac" then return []
    let token ← if token.isOperator "(" then nextToken n false false else pure token
    let patterns ← readPatterns n [token.asWord]
    let body ← readList n false true []
    let token ← nextToken n true true
    if token.isKeyword "esac" then return [(patterns, .block body)]
    else if token.isOperator ";;" then return (patterns, .block body) :: (← readItems n)
    else if token.isOperator ";&" then
      let items ← readItems n
      let next := (items.head?.map (·.2)).toList
      return (patterns, .block (body ++ next)) :: items
    else unexpected (some "\";;\"")

/-- The patterns of an item after those that have been read. -/
def readPatterns : Nat → List (List Part) → Read (List (List Part))
  | 0, _ => tooDeep
  | n + 1, patterns => do
    let token ← nextToken n false false
    if token.isOperator "|" then
      let token ← nextToken n false false
      readPatterns n (token.asWord :: patterns)
    else if token.isOperator ")" then return patterns.reverse
    else unexpected (some "\")\"")

/-- The words of a test after those that have been read. -/
def readTest : Nat → List (List Part) → Read (List (List Part))
  | 0, _ => tooDeep
  | n + 1, words => do
    match ← nextToken n true false with
    | .finished => unexpected none
    | token =>
      if (plain? token.asWord) == some "]]" then return words.reverse
      else readTest n (token.asWord :: words)

/-- The redirection that a token starts. -/
def readTarget : Nat → Nat → Direction → Bool → Read Redirection
  | 0, _, _, _ => tooDeep
  | n + 1, descriptor, direction, tabs => do
    match ← nextToken n false false, direction with
    | .word parts, .document _ =>
      let index := (← get).count
      let awaited : Awaited := ⟨index, literal parts, tabs, parts.any Part.isQuoted⟩
      modify fun r => { r with awaited := r.awaited ++ [awaited], count := index + 1 }
      return .mk descriptor (.document index) []
    | .word parts, _ => return .mk descriptor direction parts
    | _, _ => unexpected none

/-- A command with the redirections that follow it. -/
def readRedirected : Nat → Nat → Command → Read Command
  | 0, _, _ => tooDeep
  | n + 1, line, command => do
    match ← nextToken n false true with
    | .redirection descriptor direction tabs =>
      let redirection ← readTarget n descriptor direction tabs
      readRedirected n line <|
        match command with
        | .redirected line body redirections =>
          .redirected line body (redirections ++ [redirection])
        | _ => .redirected line command [redirection]
    | _ =>
      push
      return command

/-- A simple command after what has been read of it, or the definition of a function. -/
def readSimple : Nat → Nat → List (String × List Part) → List (List Part) → List Redirection →
    Read Command
  | 0, _, _, _, _ => tooDeep
  | n + 1, line, assignments, words, redirections => do
    if words.isEmpty then modify ({ · with mayStand := true })
    match ← nextToken n false false with
    | .word parts =>
      let extended := (← get).extended
      match if words.isEmpty then assignment? extended parts else none with
      | some a => readSimple n line (assignments ++ [a]) words redirections
      | none => readSimple n line assignments (words ++ [parts]) redirections
    | .redirection descriptor direction tabs =>
      let redirection ← readTarget n descriptor direction tabs
      readSimple n line assignments words (redirections ++ [redirection])
    | token =>
      match words with
      | [word] =>
        if token.isOperator "(" && assignments.isEmpty && redirections.isEmpty then
          expect n "\")\""
          if !((plain? word).any isName) then fault "Bad function name"
          return .define (literal word) (← readCommand n true true)
      | _ => pure ()
      push
      return .simple line assignments words redirections

end

/-- The next complete command of a text; none if there is none left. -/
def Reader.command? (r : Reader) : Except Fault (Option Command × Reader) := do
  let size := (r.aliases.map fun (_, text) => text.length + 1).foldl (· + ·) 0
  let read := readList (16 * r.rest.length * (size + 1) + 64) true false []
  let (commands, r) ← read.run { r with pushed := false, awaited := [] }
  match commands, r.token with
  | [], .finished => return (none, r)
  | [c], _ => return (some c, r)
  | _, _ => return (some (.block commands), r)

end BuildingModel.Sandbox.Shell
