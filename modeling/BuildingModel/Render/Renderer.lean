import BuildingModel.Json.Parser
import BuildingModel.Json.Printer
import BuildingModel.Render.Evaluator
import Std.Data.TreeMap

/-!
# Rendering

A template is rendered against a context, which it sees as the external `ifcData`, next to the
externals that are registered and those of the call. A render leaves the registered externals as
they are. Its result is a value: what the evaluator answers, or an object that tells why there is
no answer.
-/

namespace BuildingModel.Render

/-- Externals by their names. -/
abbrev Externals := Std.TreeMap String String compare

/-- The name of the external that holds the context. -/
def contextName : String := "ifcData"

/-- The request of a render: externals of the call come before registered ones, and nothing comes
before the context. -/
def request (registered : Externals) (source : String) (context : Json)
    (call : List (String × String)) (imports : List String) : Request where
  source := source
  externals := ((registered.insertMany call).insert contextName context.compact).toList
  imports := imports

/-- Why a template is not rendered. -/
inductive RenderError where
  /-- The evaluator fails. -/
  | evaluation (error : EvaluationError)
  /-- The answer is not JSON. -/
  | notJson (error : Json.ParseError)
  /-- The template cannot be read. -/
  | template (path : String) (error : FileError)
deriving DecidableEq, Repr

/-- The text of a render error. -/
def RenderError.message : RenderError → String
  | .evaluation error => error.message
  | .notJson error => "Template produced invalid JSON: " ++ error.message
  | .template path error => "Failed to read template " ++ path ++ ": " ++ error.message

/-- A render error as an object. -/
def RenderError.toJson (e : RenderError) : Json :=
  .object [("error", .text e.message), ("type", .text "template_error")]

/-- The value of an answer. -/
def read (answer : Answer) : Except RenderError Json :=
  match answer with
  | .error e => .error (.evaluation e)
  | .ok output =>
    match Json.parse output with
    | .ok v => .ok v
    | .error e => .error (.notJson e)

/-- Renders a template, or tells why not. -/
def tryRender {m : Type → Type} [Monad m] (registered : Externals)
    (evaluate : Request → m Answer) (source : String) (context : Json)
    (call : List (String × String)) (imports : List String) : m (Except RenderError Json) := do
  let answer ← evaluate (request registered source context call imports)
  return read answer

/-- The result of a render as a value. -/
def fold (result : Except RenderError Json) : Json :=
  match result with
  | .ok v => v
  | .error e => e.toJson

end BuildingModel.Render
