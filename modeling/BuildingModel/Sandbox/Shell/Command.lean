/-!
# Commands of a shell

What a shell reads: words, which are made of parts that are expanded, redirections, and commands.
-/

namespace BuildingModel.Sandbox.Shell

/-- What an expansion makes of the value of a parameter. An `empty` parameter counts as unset where
the flag says so. -/
inductive Change where
  /-- The value. -/
  | keep
  /-- The length of the value. -/
  | length
  /-- Another text in place of an unset parameter. -/
  | orElse (empty : Bool)
  /-- Another text, which the parameter is set to, in place of an unset parameter. -/
  | orAssign (empty : Bool)
  /-- A complaint about an unset parameter. -/
  | orFail (empty : Bool)
  /-- Another text in place of a parameter that is set. -/
  | ifSet (empty : Bool)
  /-- The value without what matches at its front. -/
  | dropFront (longest : Bool)
  /-- The value without what matches at its end. -/
  | dropBack (longest : Bool)
  /-- A part of the value. -/
  | slice
  /-- The value with what matches replaced. -/
  | replace (all : Bool)
  /-- The value with letters in one case. -/
  | recase (upper all : Bool)
  /-- Nothing that makes sense. -/
  | invalid
deriving DecidableEq, Repr

/-- What a redirection does to a descriptor. -/
inductive Direction where
  /-- A file is read. -/
  | read
  /-- A file is written anew. -/
  | write
  /-- A file is written anew, whatever it holds. -/
  | overwrite
  /-- A file is written at its end. -/
  | append
  /-- A file is written at its end, and complaints go there, too. -/
  | appendAll
  /-- A file is read and written. -/
  | both
  /-- Another descriptor takes its place. -/
  | duplicate
  /-- A document is read, the one with a number. -/
  | document (index : Nat)
  /-- A text is read. -/
  | line
deriving DecidableEq, Repr

mutual

/-- A part of a word. The part of a quoted word is not split, and stands for itself in a pattern. -/
inductive Part where
  /-- A text. -/
  | text (s : List Char) (quoted : Bool)
  /-- A parameter. -/
  | parameter (name : String) (change : Change) (argument : List Part) (quoted : Bool)
  /-- What a command writes. -/
  | output (body : Command) (quoted : Bool)
  /-- The value of an expression. -/
  | sum (expression : List Part) (quoted : Bool)

/-- A redirection. -/
inductive Redirection where
  /-- What is done to a descriptor, with a word. -/
  | mk (descriptor : Nat) (direction : Direction) (target : List Part)

/-- A command. -/
inductive Command where
  /-- A simple command of some line: assignments, words and redirections. -/
  | simple (line : Nat) (assignments : List (String × List Part)) (words : List (List Part))
      (redirections : List Redirection)
  /-- A command with redirections. -/
  | redirected (line : Nat) (body : Command) (redirections : List Redirection)
  /-- Commands in a shell of their own. -/
  | subshell (line : Nat) (body : Command) (redirections : List Redirection)
  /-- A command that is not waited for. -/
  | background (body : Command)
  /-- Commands of which each reads what the one before it writes. -/
  | pipeline (commands : List Command)
  /-- A command whose failure is a success. -/
  | negation (body : Command)
  /-- A command that is carried out if another one succeeds. -/
  | conjunction (first second : Command)
  /-- A command that is carried out if another one fails. -/
  | alternative (first second : Command)
  /-- Commands one after another. -/
  | block (commands : List Command)
  /-- A choice. -/
  | branch (test yes no : Command)
  /-- A loop that ends when its test fails, or when it succeeds. -/
  | loop (untilTrue : Bool) (test body : Command)
  /-- A loop over words. -/
  | each (line : Nat) (name : String) (values : List (List Part)) (body : Command)
  /-- A loop with an expression before it, one that is not zero as long as it goes on, and one after
  each turn. -/
  | count (line : Nat) (start test next : List Part) (body : Command)
  /-- A choice by patterns. -/
  | select (line : Nat) (subject : List Part) (items : List (List (List Part) × Command))
  /-- The definition of a function. -/
  | define (name : String) (body : Command)
  /-- An expression that succeeds if its value is not zero. -/
  | evaluate (line : Nat) (expression : List Part)
  /-- A test of words. -/
  | check (line : Nat) (words : List (List Part))

end

instance : Inhabited Command := ⟨.block []⟩

namespace Part

/-- The characters of a text. -/
def literal? : Part → Option (List Char)
  | .text s _ => some s
  | _ => none

/-- Whether a part is quoted. -/
def isQuoted : Part → Bool
  | .text _ quoted | .parameter _ _ _ quoted | .output _ quoted | .sum _ quoted => quoted

end Part

/-- The characters of a word that is neither quoted nor expanded. -/
def plain? (word : List Part) : Option String :=
  if word.any Part.isQuoted then none
  else (word.mapM Part.literal?).map fun parts => String.ofList parts.flatten

/-- The characters of a word whose expansions stand as nothing. -/
def literal (word : List Part) : String :=
  String.ofList (word.filterMap Part.literal?).flatten

end BuildingModel.Sandbox.Shell
