import BuildingModel.Sandbox.Regex
import BuildingModel.Sandbox.Tool.Rules.Value

/-!
# Rules

A rule tells what is done with the records that it selects. What is done is told by actions, and
what they work with by terms.
-/

namespace BuildingModel.Sandbox.Tool.Rules

/-- Where a line is read from. -/
inductive LineKind where
  /-- From what is worked on. -/
  | given
  /-- From a file. -/
  | file
  /-- From what a command writes. -/
  | command
deriving DecidableEq, Repr

/-- Where something is written to. -/
inductive OutletKind where
  /-- To a file, which is emptied before. -/
  | file
  /-- To the end of a file. -/
  | fileEnd
  /-- To a command, which reads it. -/
  | command
deriving DecidableEq, Repr

/-- What has a value. -/
inductive Term where
  /-- A number. -/
  | number (x : Float)
  /-- A text. -/
  | text (s : String)
  /-- A regular expression, which is sought in the record where a value is needed. -/
  | regex (r : Regex)
  /-- A variable. -/
  | named (name : String)
  /-- A field by its number. -/
  | field (place : Term)
  /-- A value of a table. -/
  | element (table : String) (keys : List Term)
  /-- Two numbers joined. -/
  | joined (how : Operation) (a b : Term)
  /-- One text after the other. -/
  | beside (a b : Term)
  /-- Whether two values are in a relation. -/
  | related (how : Relation) (a b : Term)
  /-- Whether a regular expression stands in a text, or whether it does not. -/
  | matched (denied : Bool) (subject pattern : Term)
  /-- Whether a table has a key. -/
  | member (keys : List Term) (table : String)
  /-- Whether two terms are true. -/
  | both (a b : Term)
  /-- Whether one of two terms is true. -/
  | either (a b : Term)
  /-- Whether a term is not true. -/
  | denied (a : Term)
  /-- A number with the other sign, or as it is. -/
  | signed (negative : Bool) (a : Term)
  /-- One of two terms. -/
  | chosen (test yes no : Term)
  /-- A value that is given to a place, joined with what is there if that is told. -/
  | assigned (how : Option Operation) (place value : Term)
  /-- A number that is changed by a step, as it is before or after that. -/
  | stepped (place : Term) (step : Float) (before : Bool)
  /-- What a function gives. -/
  | call (name : String) (arguments : List Term)
  /-- What a function gives that is there without being told. -/
  | builtin (name : String) (arguments : List Term)
  /-- Whether a line can be read, to a place or as the record. -/
  | line (kind : LineKind) (source : Term) (place : Option Term)
  /-- Several terms between parentheses. -/
  | several (terms : List Term)

/-- Whether a term is a place that can be given a value. -/
def Term.isPlace : Term → Bool
  | named _ | field _ | element .. => true
  | _ => false

/-- Where something is written, if it is not written as usual. -/
abbrev Outlet := Option (OutletKind × Term)

/-- What is done. -/
inductive Action where
  /-- A term is worked out. -/
  | reckon (t : Term)
  /-- Terms are written. -/
  | write (terms : List Term) (outlet : Outlet)
  /-- A format is written with terms. -/
  | format (terms : List Term) (outlet : Outlet)
  /-- One thing after the other. -/
  | block (actions : List Action)
  /-- One of two things, or nothing. -/
  | choice (test : Term) (yes : Action) (no : Option Action)
  /-- Something as long as a term is true. -/
  | whilst (test : Term) (body : Action)
  /-- Something once, and as long as a term is true. -/
  | repeated (body : Action) (test : Term)
  /-- Something as long as a term is true, with others before the first and after each turn. -/
  | count (first test next : Option Term) (body : Action)
  /-- Something for each key of a table. -/
  | each (name table : String) (body : Action)
  /-- The loop ends. -/
  | leave
  /-- The loop goes on with the next turn. -/
  | again
  /-- The next record is worked on. -/
  | next
  /-- The next file is worked on. -/
  | nextFile
  /-- The work ends. -/
  | exit (status : Option Term)
  /-- A function gives a value. -/
  | give (value : Option Term)
  /-- A value of a table is taken away, or all of them. -/
  | delete (table : String) (keys : Option (List Term))

/-- When a rule applies. -/
inductive Selector where
  /-- Before the first record. -/
  | start
  /-- After the last record. -/
  | finish
  /-- To each record. -/
  | always
  /-- To the records for which a term is true. -/
  | test (t : Term)
  /-- To the records from one for which a term is true to one for which another is. -/
  | range (first last : Term)

/-- A function. -/
structure Function where
  /-- The names of its arguments. -/
  parameters : List String
  /-- What it does. -/
  body : Action

/-- Rules and functions. -/
structure RuleSet where
  /-- The rules. -/
  rules : List (Selector × Action) := []
  /-- The functions by their names. -/
  functions : List (String × Function) := []

end BuildingModel.Sandbox.Tool.Rules
