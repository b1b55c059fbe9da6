import BuildingModel.Files.Error
import BuildingModel.Text.Blank
import BuildingModel.Text.Utf8

/-!
# Evaluators

An evaluator turns a template and named texts, its externals, into text. The one in use is a
program for the Jsonnet language: the template and the externals go to it through scratch files,
and what it writes is the answer, or, if it fails, the reason.
-/

namespace BuildingModel.Render

/-- What an evaluator is asked for. -/
structure Request where
  /-- The template. -/
  source : String
  /-- The externals, in ascending order of their distinct names. -/
  externals : List (String × String)
  /-- The directories that are searched for imports. -/
  imports : List String
deriving DecidableEq, Repr

/-- Why an evaluation fails. -/
inductive EvaluationError where
  /-- The evaluator says why. -/
  | failed (message : String)
  /-- The program does not start. -/
  | notStarted (program : String) (error : FileError)
  /-- A scratch file cannot be written. -/
  | noScratch (error : FileError)
deriving DecidableEq, Repr

/-- The text of an evaluation error. -/
def EvaluationError.message : EvaluationError → String
  | .failed message => message
  | .notStarted program error => "Failed to run evaluator '" ++ program ++ "': " ++ error.message
  | .noScratch error => "IO error: " ++ error.message

/-- The answer of an evaluator. -/
abbrev Answer := Except EvaluationError String

/-! ## Programs -/

/-- An argument of a program. -/
inductive Argument where
  /-- A word. -/
  | word (s : String)
  /-- A word followed by the name of a scratch file, which has the given contents and a name with
  the given ending. -/
  | scratch (word contents ending : String)
deriving DecidableEq, Repr

/-- A run of a program. -/
structure Invocation where
  /-- The program. -/
  program : String
  /-- Its arguments. -/
  arguments : List Argument
deriving DecidableEq, Repr

/-- How a program ends. -/
inductive ExitStatus where
  /-- By itself, with a code. -/
  | code (n : Nat)
  /-- By a signal. -/
  | signal (n : Nat)
deriving DecidableEq, Repr

/-- The names of the signals from the first one on. -/
def signalNames : List String :=
  ["SIGHUP", "SIGINT", "SIGQUIT", "SIGILL", "SIGTRAP", "SIGABRT", "SIGBUS", "SIGFPE", "SIGKILL",
   "SIGUSR1", "SIGSEGV", "SIGUSR2", "SIGPIPE", "SIGALRM", "SIGTERM", "SIGSTKFLT", "SIGCHLD",
   "SIGCONT", "SIGSTOP", "SIGTSTP", "SIGTTIN", "SIGTTOU", "SIGURG", "SIGXCPU", "SIGXFSZ",
   "SIGVTALRM", "SIGPROF", "SIGWINCH", "SIGIO", "SIGPWR", "SIGSYS"]

/-- The text of an exit status. -/
def ExitStatus.message : ExitStatus → String
  | .code n => "exit status: " ++ toString n
  | .signal n =>
    "signal: " ++ toString n ++
      match if n = 0 then none else signalNames[n - 1]? with
      | some name => " (" ++ name ++ ")"
      | none => ""

/-- Why a program is not run. -/
inductive RunError where
  /-- It does not start. -/
  | notStarted (error : FileError)
  /-- A scratch file cannot be written. -/
  | noScratch (error : FileError)
deriving DecidableEq, Repr

/-- What is left of a program that has ended. -/
structure Completion where
  /-- How it ended. -/
  status : ExitStatus
  /-- What it wrote. -/
  output : List UInt8
  /-- What it wrote as errors. -/
  errors : List UInt8
deriving DecidableEq, Repr

/-- An evaluator program with its settings. -/
structure Program where
  /-- The program. -/
  path : String := "jsonnet"
  /-- How many frames its stack may have. -/
  maxStack : Nat := 200
  /-- How many lines a trace may have. -/
  maxTrace : Nat := 20
  /-- How many objects there are before garbage is collected; none to leave it to the program. -/
  minObjects : Option Nat := some 1000
  /-- The directories that are searched for imports, before those of the request. -/
  imports : List String := []
deriving DecidableEq, Repr

namespace Program

/-- The run of the program for a request. -/
def invocation (p : Program) (r : Request) : Invocation where
  program := p.path
  arguments :=
    [.word "-s", .word (toString p.maxStack), .word "-t", .word (toString p.maxTrace)]
      ++ (match p.minObjects with
          | some n => [.word "--gc-min-objects", .word (toString n)]
          | none => [])
      ++ (p.imports ++ r.imports).flatMap (fun dir => [.word "-J", .word dir])
      ++ r.externals.flatMap (fun (key, value) =>
          [.word "--ext-str-file", .scratch (key ++ "=") value ".txt"])
      ++ [.scratch "" r.source ".jsonnet"]

/-- The reason that a failed program gives: what it wrote as errors, or how it ended. -/
def failure (c : Completion) : String :=
  let words := String.ofList (Text.trim (Text.decodeUtf8 c.errors).toList)
  if words.isEmpty then "jsonnet exited with " ++ c.status.message else words

/-- The answer that a run of the program gives. -/
def answer (p : Program) : Except RunError Completion → Answer
  | .error (.notStarted e) => .error (.notStarted p.path e)
  | .error (.noScratch e) => .error (.noScratch e)
  | .ok c =>
    if c.status = .code 0 then .ok (Text.decodeUtf8 c.output) else .error (.failed (failure c))

end Program

end BuildingModel.Render
