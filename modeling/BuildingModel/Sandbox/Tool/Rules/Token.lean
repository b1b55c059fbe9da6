import BuildingModel.Sandbox.Regex
import BuildingModel.Sandbox.Tool.Rules.Value

/-!
# Tokens

The text of rules is a row of tokens: numbers, texts, regular expressions, names, words that mean
something, and marks.
-/

namespace BuildingModel.Sandbox.Tool.Rules

/-- A token. -/
inductive Token where
  /-- A number. -/
  | number (x : Float)
  /-- A text. -/
  | text (s : String)
  /-- A regular expression as it is written. -/
  | regex (s : List Char)
  /-- A name. -/
  | name (s : String)
  /-- A name with a parenthesis right after it. -/
  | calling (s : String)
  /-- A word that means something. -/
  | word (s : String)
  /-- The name of a function that is there without being told. -/
  | builtin (s : String)
  /-- A mark. -/
  | mark (s : String)
  /-- The end of a line. -/
  | newline
  /-- The end of the text. -/
  | ended
deriving Inhabited

namespace Token

/-- Whether a token is a mark. -/
def isMark (s : String) : Token → Bool
  | mark m => m == s
  | _ => false

/-- Whether a token is a word. -/
def isWord (s : String) : Token → Bool
  | word w => w == s
  | _ => false

/-- Whether a token may be the end of a value, after which a slash means division. -/
def endsValue : Token → Bool
  | number _ | text _ | regex _ | name _ | builtin _ => true
  | mark s => [")", "]", "$", "++", "--"].contains s
  | _ => false

/-- A token as it is shown where it is wrong. -/
def shown : Token → String
  | number x => numberText "%.6g" x
  | text s => s
  | regex s => "/" ++ String.ofList s ++ "/"
  | name s | calling s | word s | builtin s | mark s => s
  | newline | ended => "end of line"

end Token

/-- The words that mean something. -/
def ruleWords : List String :=
  ["BEGIN", "END", "function", "if", "else", "while", "for", "do", "break", "continue", "next",
   "nextfile", "exit", "return", "delete", "in", "getline", "print", "printf"]

/-- The functions that are there without being told, each with the least and the greatest number of
arguments. -/
def builtinNames : List (String × Nat × Nat) :=
  [("length", 0, 1), ("substr", 2, 3), ("index", 2, 2), ("split", 2, 3), ("sub", 2, 3),
   ("gsub", 2, 3), ("match", 2, 2), ("sprintf", 1, 255), ("sin", 1, 1), ("cos", 1, 1),
   ("atan2", 2, 2), ("exp", 1, 1), ("log", 1, 1), ("sqrt", 1, 1), ("int", 1, 1), ("rand", 0, 0),
   ("srand", 0, 1), ("tolower", 1, 1), ("toupper", 1, 1), ("system", 1, 1), ("close", 1, 1),
   ("fflush", 0, 1)]

/-- The marks, where one that begins another comes after it. -/
def marks : List String :=
  ["&&", "||", "++", "--", "+=", "-=", "*=", "/=", "%=", "^=", "==", "<=", ">=", "!=", "!~", ">>",
   "(", ")", "[", "]", ";", ",", "+", "-", "*", "/", "%", "^", "!", ">", "<", "|", "?",
   ":", "~", "$", "="]

/-- The marks that have braces. -/
def braces : List String := ["\x7b", "\x7d"]

/-! ## Escapes -/

/-- What an escape stands for, given the text after the backslash, and how many characters of it the
escape has. What is no escape keeps its backslash. -/
def escapeIn (quotes : List Char) (s : List Char) : List Char × Nat :=
  match s with
  | [] => (['\\'], 0)
  | c :: rest =>
    let octal := (s.takeWhile Shell.isOctal).take 3
    let hexadecimal := (rest.takeWhile Shell.isHexadecimal).take 2
    if !octal.isEmpty then ([Shell.ofOctal octal], octal.length)
    else if c == 'x' && !hexadecimal.isEmpty then
      ([Char.ofNat (Shell.ofHexadecimal hexadecimal)], hexadecimal.length + 1)
    else match (Shell.namedEscapes.filter (·.1 != 'e')).lookup c with
      | some d => ([d], 1)
      | none => if quotes.contains c then ([c], 1) else (['\\', c], 1)

/-- A text with its escapes carried out. There is a step for each character. -/
def unescaped : Nat → List Char → List Char
  | 0, s => s
  | _, [] => []
  | n + 1, '\\' :: '\n' :: s => unescaped n s
  | n + 1, '\\' :: s =>
    let (front, length) := escapeIn ['"'] s
    front ++ unescaped n (s.drop length)
  | n + 1, c :: s => c :: unescaped n s

/-- The text of an escaped one. -/
def textWithin (s : List Char) : String := String.ofList (unescaped s.length s)

/-! ## Scanning -/

/-- What is in front of the quote that ends a text. -/
def untilQuote : List Char → Option (List Char)
  | [] | '\n' :: _ => none
  | '"' :: _ => some []
  | '\\' :: c :: rest => (untilQuote rest).map ('\\' :: c :: ·)
  | c :: rest => (untilQuote rest).map (c :: ·)

/-- What is in front of the slash that ends a regular expression. A slash between brackets does not
end it. -/
def untilSlash : Bool → List Char → Option (List Char)
  | _, [] | _, '\n' :: _ => none
  | within, '\\' :: c :: rest => (untilSlash within rest).map ('\\' :: c :: ·)
  | within, c :: rest =>
    if c == '/' && !within then some []
    else
      let within := if c == '[' then true else if c == ']' then false else within
      (untilSlash within rest).map (c :: ·)

/-- The token of a name. -/
def nameToken (s : String) (rest : List Char) : Token :=
  if ruleWords.contains s then .word s
  else if builtinNames.any (·.1 == s) then .builtin s
  else if rest.head? == some '(' then .calling s
  else .name s

/-- The token in front of a text, and how many characters it has; or what is wrong. -/
def token (line : Nat) (last : Token) (s : List Char) : Except String (Token × Nat) :=
  let runaway (kind : String) (quote : String) : String :=
    "line " ++ toString line ++ ": runaway " ++ kind ++ " " ++ quote
      ++ String.ofList ((s.drop 1).takeWhile (· != '\n')) ++ " ..."
  match s with
  | [] => .ok (.ended, 0)
  | '\n' :: _ => .ok (.newline, 1)
  | '"' :: rest =>
    match untilQuote rest with
    | some inner => .ok (.text (textWithin inner), inner.length + 2)
    | none => .error (runaway "string constant" "\"")
  | c :: rest =>
    let isNumber := c.isDigit || (c == '.' && rest.head?.any Char.isDigit)
    if isNumber then
      match decimalFront? s with
      | some (x, after) => .ok (.number x, s.length - after.length)
      | none => .ok (.number 0, 1)
    else if Regex.isWordChar c then
      let name := s.takeWhile Regex.isWordChar
      .ok (nameToken (String.ofList name) (s.drop name.length), name.length)
    else if c == '/' && !last.endsValue then
      match untilSlash false rest with
      | some inner => .ok (.regex inner, inner.length + 2)
      | none => .error (runaway "regular expression" "/")
    else
      match (braces ++ marks).find? fun m => m.toList.isPrefixOf s with
      | some m => .ok (.mark m, m.length)
      | none => .error (toString line ++ ": unexpected character '" ++ c.toString ++ "'")

/-- The tokens of a text, each with its line. There is a step for each character. -/
def scanFrom (last : Token) : Nat → Nat → List Char → Except String (List (Nat × Token))
  | 0, line, _ => .ok [(line, .ended)]
  | steps + 1, line, s => do
    let isEscaped := ['\\', '\n'].isPrefixOf s || ['\\', '\r', '\n'].isPrefixOf s
    if isEscaped then scanFrom last steps (line + 1) ((s.dropWhile (· != '\n')).drop 1)
    else if s.head?.any fun c => c == ' ' || c == '\t' || c == '\r' then
      scanFrom last steps line (s.drop 1)
    else if s.head? == some '#' then scanFrom last steps line (s.dropWhile (· != '\n'))
    else
      match ← token line last s with
      | (.ended, _) => return [(line, .ended)]
      | (t, length) =>
        let passed := (s.take length).count '\n'
        return (line, t) :: (← scanFrom t steps (line + passed) (s.drop length))

/-- The tokens of a text. -/
def scan (s : String) : Except String (List (Nat × Token)) :=
  scanFrom .newline (s.length + 1) 1 s.toList

end BuildingModel.Sandbox.Tool.Rules
