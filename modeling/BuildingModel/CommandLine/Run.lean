import BuildingModel.CommandLine.Arguments
import BuildingModel.Render.Template
import BuildingModel.Session.Basic

/-!
# Commands

A command works in a session of its own. What it needs of the world around it is given as a
`World`: reading files, running the evaluator program, the environment and the clock. What it
leaves is an `Outcome`.
-/

namespace BuildingModel.CommandLine

/-- What commands need of the world around them. -/
structure World (m : Type → Type) where
  /-- Reads a file. -/
  readText : String → m (Except FileError String)
  /-- Runs a program. -/
  run : Render.Invocation → m (Except Render.RunError Render.Completion)
  /-- The value of a variable of the environment. -/
  environment : String → m (Option String)
  /-- The time. -/
  now : m String

/-- What a command leaves. -/
structure Outcome where
  /-- The exit code. -/
  code : Nat
  /-- What it prints. -/
  output : String := ""
  /-- What it prints as errors. -/
  errors : String := ""
deriving DecidableEq, Repr

/-- The variable that names the evaluator program. -/
def evaluatorVariable : String := "IFC_JSON_JSONNET"

/-- The outcome of a command line that cannot be understood. -/
def misuse : Outcome where
  code := 2
  errors := "error: usage: [OPTIONS] <" ++ "|".intercalate commandNames ++ "> ...\n"

/-- The outcome of a failure. -/
def failed (message : String) : Outcome where
  code := 1
  errors := "error: " ++ message ++ "\n"

/-- The outcome of printing a value. -/
def printed (g : Globals) (v : Json) : Outcome where
  code := 0
  output := (if g.pretty then v.pretty else v.compact) ++ "\n"

/-- Whether a value tells of a failure. -/
def isFailure (v : Json) : Bool :=
  (v.field? "error").isSome

/-- The outcome of printing a value that may tell of a failure. -/
def reported (g : Globals) (v : Json) : Outcome :=
  { printed g v with code := if isFailure v then 1 else 0 }

section

variable {m : Type → Type} [Monad m]

/-- The session of a command. -/
def session (w : World m) (g : Globals) : m Session := do
  let now ← w.now
  let s : Session := { options := { geometry := g.geometry, sharedVertices := g.sharedVertices } }
  return s.addExternal "timestamp" now

/-- What a session does once a model has loaded, or the failure of the load. -/
def withModel (w : World m) (s : Session) (file : String) (next : Session → m Outcome) :
    m Outcome := do
  let contents ← w.readText file
  match s.modelOfFile file contents with
  | .ok l => next (s.add l)
  | .error e => return failed (loadMessage e)

/-- `withModel` for a model that need not be named. -/
def withContext (w : World m) (s : Session) (file : Option String) (next : Session → m Outcome) :
    m Outcome :=
  match file with
  | some file => withModel w s file next
  | none => next s

/-- `withModel` for several models, one after another. -/
def withModels (w : World m) (s : Session) (files : List String) (next : Session → m Outcome) :
    m Outcome :=
  match files with
  | [] => next s
  | file :: files => withModel w s file fun s => withModels w s files next

/-- The answer of the evaluator program to a request. -/
def evaluate (w : World m) (g : Globals) (r : Render.Request) : m Render.Answer := do
  let program : Render.Program := { path := g.evaluator, imports := g.imports }
  let completion ← w.run (program.invocation r)
  return program.answer completion

/-- The outcome of a command. -/
def execute (w : World m) (g : Globals) (c : Command) : m Outcome := do
  let s ← session w g
  match c with
  | .load file =>
    let contents ← w.readText file
    return reported g (s.loadFile file contents).1
  | .entities file type =>
    withModel w s file fun s =>
      return printed g (.array ((s.entitiesOf type).map Document.Node.toJson))
  | .geometry file key =>
    withModel w s file fun s =>
      return printed g (.ofOption ((s.geometryOf? key).map Document.GeometryFragment.toJson))
  | .hierarchy file =>
    withModel w s file fun s =>
      return printed g (.ofOption (s.hierarchy?.map Document.treeJson))
  | .container file id =>
    withModel w s file fun s =>
      return printed g (.ofOption ((s.containerOf? id).map Document.Node.toJson))
  | .render template model =>
    withContext w s model fun s => do
      let contents ← w.readText template
      let v ← s.renderFile (evaluate w g) template contents none g.externals
      return reported g v
  | .renderSource source model =>
    withContext w s model fun s => do
      let v ← s.render (evaluate w g) source none g.externals
      return reported g v
  | .summaryTemplate => return { code := 0, output := Render.summaryTemplate }
  | .elementsTemplate type => return { code := 0, output := Render.elementsTemplate type }
  | .status files =>
    withModels w s files fun s => return printed g s.status.toJson

/-- The outcome of a command line. -/
def run (w : World m) (args : List String) : m Outcome := do
  let named ← w.environment evaluatorVariable
  match parse? named args with
  | none => return misuse
  | some (g, c) => execute w g c

end

end BuildingModel.CommandLine
