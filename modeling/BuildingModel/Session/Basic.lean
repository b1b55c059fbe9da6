import BuildingModel.Document.Encoding
import BuildingModel.Files.Path
import BuildingModel.Render.Renderer
import BuildingModel.Session.Cache

/-!
# Sessions

A session loads models one after another, answers questions about the last one that loaded, and
renders templates, by default against its document. A load that fails leaves everything as it
was; queries and renders change nothing.
-/

namespace BuildingModel

open Document

/-- The state of a session. -/
structure Session where
  /-- How models are converted. -/
  options : Options := {}
  /-- The documents of the models that loaded. -/
  cache : Cache := {}
  /-- The last model that loaded. -/
  current : Option LoadedModel := none
  /-- The registered externals. -/
  externals : Render.Externals := {}

/-- What a session tells about itself. -/
structure Status where
  /-- The sources of the documents, with the instance counts of their models. -/
  loaded : List (String × Nat)
  /-- The source of the last model. -/
  current : Option String
  /-- How many externals are registered. -/
  externalCount : Nat
deriving DecidableEq, Repr

/-- A status as an object. -/
def Status.toJson (s : Status) : Json :=
  .object
    [("loaded", .array (s.loaded.map fun (source, count) =>
        .object [("source", .text source), ("entityCount", .ofNat count)])),
     ("current", .ofOption (s.current.map .text)),
     ("externalCount", .ofNat s.externalCount)]

/-- A failure outside rendering as an object. -/
def failureJson (message : String) : Json :=
  .object [("error", .text message)]

/-- The message of a failed load. -/
def loadMessage (e : LoadError) : String :=
  "Failed to load IFC file: " ++ e.message

namespace Session

/-! ## Loading -/

/-- The model of a content, converted as the session does. -/
def model (s : Session) (source content : String) : Except LoadError LoadedModel :=
  LoadedModel.load s.options source content

/-- The model of what was read from a file. -/
def modelOfFile (s : Session) (path : String) (contents : Except FileError String) :
    Except LoadError LoadedModel :=
  match contents with
  | .ok content => s.model path content
  | .error e => .error (.file e)

/-- The session after a model has loaded. -/
def add (s : Session) (l : LoadedModel) : Session :=
  { s with
    cache := s.cache.insert l.source l.document.toJson.sorted l.entityCount
    current := some l }

/-- The session after a load, with the document or the failure. -/
def install (s : Session) (loaded : Except LoadError LoadedModel) : Json × Session :=
  match loaded with
  | .ok l => (l.document.toJson.sorted, s.add l)
  | .error e => (failureJson (loadMessage e), s)

/-- Loads a content under a source. -/
def load (s : Session) (source content : String) : Json × Session :=
  s.install (s.model source content)

/-- Loads what was read from a file. -/
def loadFile (s : Session) (path : String) (contents : Except FileError String) :
    Json × Session :=
  s.install (s.modelOfFile path contents)

/-! ## Queries -/

/-- The objects of a type that a reader names. -/
def entitiesOf (s : Session) (name : String) : List Node :=
  (s.current.map (·.entitiesOf name)).getD []

/-- The geometry of a product by its key. -/
def geometryOf? (s : Session) (key : String) : Option GeometryFragment :=
  s.current.bind (·.geometryOf? key)

/-- The project of the model with what it reaches, as a tree. -/
def hierarchy? (s : Session) : Option (Tree Node) :=
  s.current.bind (·.hierarchy?)

/-- The object that an object is first attached to. -/
def containerOf? (s : Session) (id : EntityId) : Option Node :=
  s.current.bind (·.containerOf? id)

/-- What the session tells about itself. -/
def status (s : Session) : Status where
  loaded := s.cache.sources
  current := s.current.map (·.source)
  externalCount := s.externals.size

/-! ## Rendering -/

/-- Registers an external for every later render. -/
def addExternal (s : Session) (key value : String) : Session :=
  { s with externals := s.externals.insert key value }

/-- Removes all registered externals. -/
def clearExternals (s : Session) : Session :=
  { s with externals := {} }

/-- The context of a render: the given one, or else the last document, or else an empty object. -/
def contextOr (s : Session) (context : Option Json) : Json :=
  (context.orElse fun _ => s.cache.latest?).getD (.object [])

section Effects

variable {m : Type → Type} [Monad m]

/-- Renders a template. -/
def render (s : Session) (evaluate : Render.Request → m Render.Answer) (source : String)
    (context : Option Json) (externals : List (String × String)) (imports : List String := []) :
    m Json := do
  let result ← Render.tryRender s.externals evaluate source (s.contextOr context) externals imports
  return Render.fold result

/-- Renders a template that was read from a file. The directory of the file is searched for
imports. -/
def renderFile (s : Session) (evaluate : Render.Request → m Render.Answer) (path : String)
    (contents : Except FileError String) (context : Option Json)
    (externals : List (String × String)) : m Json :=
  match contents with
  | .ok source => s.render evaluate source context externals (Path.directory? path).toList
  | .error e => return Render.fold (.error (.template path e))

end Effects

end Session

end BuildingModel
