import BuildingModel.Step.Parameter
import BuildingModel.Text.Digits

/-!
# Arguments

A command line names a command, perhaps with a subcommand, and what the command works on. Some
options belong to every level of it; where two levels give such an option, the deeper one counts.
A word after an option that takes a value is that value, unless it looks like an option itself;
after two hyphens every word stands for itself.
-/

namespace BuildingModel.CommandLine

/-- The options that are given or not. -/
inductive Switch where
  /-- Prints over several lines. -/
  | pretty
  /-- Logs more. -/
  | verbose
  /-- Computes no shapes. -/
  | noGeometry
  /-- Shares vertices between corners at one position. -/
  | sharedVertices
deriving DecidableEq, Repr

/-- The options that have a value. -/
inductive Setting where
  /-- The evaluator program. -/
  | evaluator
  /-- A directory to search for imports. -/
  | imports
  /-- An external. -/
  | external
  /-- The model of the context. -/
  | model
deriving DecidableEq, Repr

/-- One option of a command line. -/
inductive Given where
  /-- An option without a value. -/
  | switch (s : Switch)
  /-- An option with its value. -/
  | setting (s : Setting) (value : String)
deriving DecidableEq, Repr

/-- The option of a word after two hyphens. -/
def longOption? : String → Option (Switch ⊕ Setting)
  | "pretty" => some (.inl .pretty)
  | "verbose" => some (.inl .verbose)
  | "no-geometry" => some (.inl .noGeometry)
  | "shared-vertices" => some (.inl .sharedVertices)
  | "jsonnet" => some (.inr .evaluator)
  | "jpath" => some (.inr .imports)
  | "var" => some (.inr .external)
  | "model" => some (.inr .model)
  | _ => none

/-- The option of a letter after one hyphen. -/
def shortOption? : Char → Option (Switch ⊕ Setting)
  | 'v' => some (.inl .verbose)
  | 'J' => some (.inr .imports)
  | 'm' => some (.inr .model)
  | _ => none

/-- The words of one level of a command line. -/
structure Level where
  /-- The options. -/
  options : List Given := []
  /-- The words that stand for themselves. -/
  words : List String := []
  /-- The next level: its command, and what follows it. -/
  next : Option (String × List String) := none
deriving DecidableEq, Repr

namespace Level

/-- The level with an option in front. -/
def addOption (g : Given) (l : Level) : Level :=
  { l with options := g :: l.options }

/-- The level with a word in front. -/
def addWord (w : String) (l : Level) : Level :=
  { l with words := w :: l.words }

/-- The options of a level that have no value. -/
def switches (l : Level) : List Switch :=
  l.options.filterMap fun g => match g with
    | .switch s => some s
    | .setting _ _ => none

/-- The values that a level gives to an option. -/
def values (l : Level) (setting : Setting) : List String :=
  l.options.filterMap fun g => match g with
    | .switch _ => none
    | .setting s v => if s = setting then some v else none

end Level

/-- The options in a group of letters, and the one that still wants its value. -/
def letters? : List Char → Option (List Given × Option Setting)
  | [] => some ([], none)
  | c :: r =>
    match shortOption? c, r with
    | none, _ => none
    | some (.inl s), r => (letters? r).map fun (gs, wanting) => (.switch s :: gs, wanting)
    | some (.inr s), [] => some ([], some s)
    | some (.inr s), '=' :: value => some ([.setting s (String.ofList value)], none)
    | some (.inr s), value => some ([.setting s (String.ofList value)], none)

/-- The option of a long word, and the one that still wants its value. -/
def long? (name : List Char) (value : Option (List Char)) : Option (List Given × Option Setting) :=
  match longOption? (String.ofList name), value with
  | some (.inl s), none => some ([.switch s], none)
  | some (.inr s), none => some ([], some s)
  | some (.inr s), some v => some ([.setting s (String.ofList v)], none)
  | _, _ => none

/-- The text before and after the first equals sign. -/
def splitEquals (s : List Char) : List Char × Option (List Char) :=
  match s.dropWhile (· != '=') with
  | _ :: value => (s.takeWhile (· != '='), some value)
  | [] => (s, none)

/-- What a word is: options, two hyphens, or a word that stands for itself. -/
inductive Token where
  /-- Two hyphens. -/
  | separator
  /-- Options, with the one that still wants its value; none if there is no such option. -/
  | options (found : Option (List Given × Option Setting))
  /-- A word that stands for itself. -/
  | word

/-- What a word is. -/
def Token.ofWord (w : String) : Token :=
  match w.toList with
  | ['-', '-'] => .separator
  | '-' :: '-' :: r =>
    let (name, value) := splitEquals r
    .options (long? name value)
  | '-' :: c :: r => .options (letters? (c :: r))
  | _ => .word

/-- The level at the front of the words, which ends at the name of a command of the next level.
`wanting` is the option before that still wants its value. -/
def level? (commands : List String) : (wanting : Option Setting) → List String → Option Level
  | none, [] => some {}
  | some _, [] => none
  | some s, w :: r =>
    match Token.ofWord w with
    | .word => (level? commands none r).map (·.addOption (.setting s w))
    | _ => none
  | none, w :: r =>
    match Token.ofWord w with
    | .separator => some { words := r }
    | .options none => none
    | .options (some (gs, wanting)) =>
      (level? commands wanting r).map fun l => gs.foldr Level.addOption l
    | .word =>
      if commands.contains w then some { next := some (w, r) }
      else (level? commands none r).map (·.addWord w)

/-! ## Values -/

/-- The name and the text of an external. -/
def external? (s : String) : Option (String × String) :=
  match splitEquals s.toList with
  | (key, some value) =>
    if key.isEmpty then none else some (String.ofList key, String.ofList value)
  | (_, none) => none

/-- An instance number: a sign, perhaps, and digits. -/
def number? (s : String) : Option EntityId :=
  let (negative, ds) := match s.toList with
    | '-' :: r => (true, r)
    | '+' :: r => (false, r)
    | r => (false, r)
  if ds.isEmpty || !ds.all Char.isDigit then none
  else
    let n := Text.digitsValue ds
    if n < UInt32.size && (!negative || n == 0) then some (UInt32.ofNat n) else none

/-- Whether the value of an option can be read. -/
def isValid (setting : Setting) (value : String) : Bool :=
  match setting with
  | .external => (external? value).isSome
  | _ => !value.isEmpty

/-- Whether an option may be given only once on a level. -/
def isSingle : Setting → Bool
  | .evaluator | .model => true
  | .imports | .external => false

/-- Whether the options of a level can be taken together: none twice that has to be single, every
value readable, and a model only where a command wants one. -/
def Level.isValid (l : Level) (wantsModel : Bool) : Bool :=
  decide l.switches.Nodup
    && [Setting.evaluator, .imports, .external, .model].all (fun s =>
        (l.values s).all (CommandLine.isValid s) && (!isSingle s || (l.values s).length ≤ 1))
    && (wantsModel || (l.values .model).isEmpty)

/-! ## Commands -/

/-- What a command line asks for. -/
inductive Command where
  /-- Prints the document of a model. -/
  | load (file : String)
  /-- Prints the objects of a type. -/
  | entities (file type : String)
  /-- Prints the geometry of a product. -/
  | geometry (file key : String)
  /-- Prints the tree of a model. -/
  | hierarchy (file : String)
  /-- Prints what an object is attached to. -/
  | container (file : String) (id : EntityId)
  /-- Renders a template from a file. -/
  | render (template : String) (model : Option String)
  /-- Renders a template from the command line. -/
  | renderSource (source : String) (model : Option String)
  /-- Prints the template for the summary of a document. -/
  | summaryTemplate
  /-- Prints the template for the elements of a type. -/
  | elementsTemplate (type : String)
  /-- Loads models and prints the status. -/
  | status (files : List String)
deriving DecidableEq, Repr

/-- The options of every command. -/
structure Globals where
  /-- Whether to print over several lines. -/
  pretty : Bool
  /-- Whether to compute shapes. -/
  geometry : Bool
  /-- Whether corners at one position share a vertex. -/
  sharedVertices : Bool
  /-- The evaluator program. -/
  evaluator : String
  /-- The directories to search for imports. -/
  imports : List String
  /-- The externals. -/
  externals : List (String × String)
deriving DecidableEq, Repr

/-- The values that the deepest level with any gives to an option. -/
def deepest (levels : List Level) (setting : Setting) : List String :=
  ((levels.reverse.map (·.values setting)).find? (!·.isEmpty)).getD []

/-- The options of every command, with the evaluator of the environment, if it names one. -/
def globals (levels : List Level) (environment : Option String) : Globals :=
  let given (s : Switch) : Bool := levels.any (·.switches.contains s)
  { pretty := given .pretty
    geometry := !given .noGeometry
    sharedVertices := given .sharedVertices
    evaluator := (deepest levels .evaluator).head?.getD (environment.getD "jsonnet")
    imports := deepest levels .imports
    externals := (deepest levels .external).filterMap external? }

/-- The command of a name with its words and options. -/
def command? (name : String) (l : Level) : Option Command :=
  let model := (l.values .model).head?
  match name, l.words with
  | "load", [file] => if file.isEmpty then none else some (.load file)
  | "entities", [file, type] => if file.isEmpty then none else some (.entities file type)
  | "geometry", [file, key] => if file.isEmpty then none else some (.geometry file key)
  | "hierarchy", [file] => if file.isEmpty then none else some (.hierarchy file)
  | "container", [file, id] => if file.isEmpty then none else (number? id).map (.container file)
  | "render", [template] => if template.isEmpty then none else some (.render template model)
  | "render-snippet", [source] => some (.renderSource source model)
  | "status", files => if files.any String.isEmpty then none else some (.status files)
  | _, _ => none

/-- The command of a name below `template`. -/
def templateCommand? (name : String) (l : Level) : Option Command :=
  match name, l.words with
  | "default", [] => some .summaryTemplate
  | "element", [type] => some (.elementsTemplate type)
  | _, _ => none

/-- The commands of the first level. -/
def commandNames : List String :=
  ["load", "entities", "geometry", "hierarchy", "container", "render", "render-snippet",
   "template", "status"]

/-- The commands below `template`. -/
def templateNames : List String :=
  ["default", "element"]

/-- Whether a command may have a model for its context. -/
def wantsModel (name : String) : Bool :=
  name == "render" || name == "render-snippet"

/-- The levels of a command line and its command. -/
def levels? (args : List String) : Option (List Level × Command) := do
  let root ← level? commandNames none args
  if !root.isValid false || !root.words.isEmpty then none
  let (name, rest) ← root.next
  if name == "template" then
    let middle ← level? templateNames none rest
    if !middle.isValid false || !middle.words.isEmpty then none
    let (kind, rest) ← middle.next
    let leaf ← level? [] none rest
    if !leaf.isValid false then none
    let command ← templateCommand? kind leaf
    return ([root, middle, leaf], command)
  else
    let leaf ← level? [] none rest
    if !leaf.isValid (wantsModel name) then none
    let command ← command? name leaf
    return ([root, leaf], command)

/-- The options and the command of a command line; none if it cannot be understood. An environment
that names an empty evaluator can be understood only where no level asks for it. -/
def parse? (environment : Option String) (args : List String) : Option (Globals × Command) := do
  let (levels, command) ← levels? args
  if environment == some "" && levels.any (fun l => (l.values .evaluator).isEmpty) then none
  return (globals levels environment, command)

end BuildingModel.CommandLine
