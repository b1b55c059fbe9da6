import BuildingModel.CommandLine.Run
import BuildingModel.Proofs.Json.Sorted
import BuildingModel.Proofs.Render.Externals

/-!
# How the render commands end

A render command prints a value, and its exit code is to tell whether that value was rendered. The
value alone decides the code, though: what tells of a failure is a field of an object, which a
template may give to its own value as well.

* `Template.Renders` and `Template.Fails`: what rendering comes to, told by the file of the
  template and by how the evaluator program ends;
* `Template.exists_renders_or_fails`, `Template.Fails.not_renders`: it comes to one of the two;
* `run_template`: what is printed, and that the code is 1 exactly if rendering fails or the rendered
  value is an object with a field `error`;
* `run_render_errorField`: a rendered value that is printed with the code of a failure.
-/

namespace BuildingModel.CommandLine

open Render

/-- The template of a render command. -/
inductive Template where
  /-- One that stands in a file. -/
  | file (path : String)
  /-- One that stands on the command line. -/
  | source (text : String)

/-- The session in which a render command renders: with its model, if it has one and that loads. -/
def contextSession (w : World Id) (g : Globals) (model : Option String) :
    Except LoadError Session :=
  let s : Session := session w g
  match model with
  | some file => (s.modelOfFile file (w.readText file)).map s.add
  | none => .ok s

namespace Template

/-- The command that renders the template. -/
def command (model : Option String) : Template → Command
  | file path => .render path model
  | source text => .renderSource text model

/-- What is read of the template. -/
def contents (w : World Id) : Template → Except FileError String
  | file path => w.readText path
  | source text => .ok text

/-- The directories that are searched for what the template imports. -/
def imports : Template → List String
  | file path => (Path.directory? path).toList
  | source _ => []

/-- The run of the evaluator program for the template, which reads as `text`. -/
def invocation (g : Globals) (s : Session) (t : Template) (text : String) : Invocation :=
  Program.invocation { path := g.evaluator, imports := g.imports }
    (request s.externals text (s.contextOr none) g.externals t.imports)

/-- The template is read, the program succeeds, and what it writes is the text of a value. -/
def Renders (w : World Id) (g : Globals) (s : Session) (t : Template) (v : Json) : Prop :=
  ∃ text c, t.contents w = .ok text ∧ w.run (invocation g s t text) = .ok c ∧
    c.status = .code 0 ∧ Json.parse (Text.decodeUtf8 c.output) = .ok v

/-- Rendering the template fails. -/
inductive Fails (w : World Id) (g : Globals) (s : Session) : Template → RenderError → Prop
  /-- The template cannot be read. -/
  | unreadable {path : String} {e : FileError} (hread : w.readText path = .error e) :
    Fails w g s (.file path) (.template path e)
  /-- The program does not start. -/
  | notStarted {t : Template} {text : String} {e : FileError} (hread : t.contents w = .ok text)
    (hrun : w.run (invocation g s t text) = .error (.notStarted e)) :
    Fails w g s t (.evaluation (.notStarted g.evaluator e))
  /-- The program cannot be given what it needs. -/
  | noScratch {t : Template} {text : String} {e : FileError} (hread : t.contents w = .ok text)
    (hrun : w.run (invocation g s t text) = .error (.noScratch e)) :
    Fails w g s t (.evaluation (.noScratch e))
  /-- The program ends without success. -/
  | unsuccessful {t : Template} {text : String} {c : Completion} (hread : t.contents w = .ok text)
    (hrun : w.run (invocation g s t text) = .ok c) (hstatus : c.status ≠ .code 0) :
    Fails w g s t (.evaluation (.failed (Program.failure c)))
  /-- What the program writes is not JSON. -/
  | notJson {t : Template} {text : String} {c : Completion} {e : Json.ParseError}
    (hread : t.contents w = .ok text) (hrun : w.run (invocation g s t text) = .ok c)
    (hstatus : c.status = .code 0) (hparse : Json.parse (Text.decodeUtf8 c.output) = .error e) :
    Fails w g s t (.notJson e)

variable {w : World Id} {g : Globals} {s : Session} {t : Template} {model : Option String}

/-- Every template is rendered or fails. -/
theorem exists_renders_or_fails (w : World Id) (g : Globals) (s : Session) (t : Template) :
    (∃ v, t.Renders w g s v) ∨ ∃ e, t.Fails w g s e := by
  cases hread : t.contents w with
  | error e =>
    cases t with
    | file path => exact .inr ⟨_, .unreadable hread⟩
    | source text => cases hread
  | ok text =>
    cases hrun : w.run (invocation g s t text) with
    | error e =>
      cases e with
      | notStarted e => exact .inr ⟨_, .notStarted hread hrun⟩
      | noScratch e => exact .inr ⟨_, .noScratch hread hrun⟩
    | ok c =>
      by_cases hstatus : c.status = .code 0
      · cases hparse : Json.parse (Text.decodeUtf8 c.output) with
        | error e => exact .inr ⟨_, .notJson hread hrun hstatus hparse⟩
        | ok v => exact .inl ⟨v, text, c, hread, hrun, hstatus, hparse⟩
      · exact .inr ⟨_, .unsuccessful hread hrun hstatus⟩

theorem withContext_eq (hs : contextSession w g model = .ok s) (next : Session → Id Outcome) :
    withContext w (session w g) model next = next s := by
  cases model with
  | none =>
    cases hs
    rfl
  | some file =>
    cases hl : (session w g : Session).modelOfFile file (w.readText file) with
    | error e =>
      rw [contextSession, hl] at hs
      cases hs
    | ok l =>
      rw [contextSession, hl] at hs
      cases hs
      simp only [withContext, withModel, bind, hl]

/-- The outcome of a render command whose template is read: that of the value to which the answer
of the program folds. -/
theorem execute_of_read {text : String} (hs : contextSession w g model = .ok s)
    (hread : t.contents w = .ok text) :
    execute w g (t.command model) = reported g (fold (Render.read (Program.answer
      { path := g.evaluator, imports := g.imports } (w.run (invocation g s t text))))) := by
  cases t with
  | file path =>
    change withContext w (session w g) model (fun s => reported g
      (s.renderFile (evaluate w g) path (w.readText path) none g.externals)) = _
    rw [withContext_eq hs]
    change w.readText path = .ok text at hread
    rw [hread]
    rfl
  | source _ =>
    -- There is nothing to read but the text itself.
    cases hread
    exact withContext_eq hs _

/-- The outcome of a template that is rendered. -/
theorem Renders.execute_eq {v : Json} (h : t.Renders w g s v)
    (hs : contextSession w g model = .ok s) : execute w g (t.command model) = reported g v := by
  obtain ⟨text, c, hread, hrun, hstatus, hparse⟩ := h
  have hvalue : Render.read (Program.answer { path := g.evaluator, imports := g.imports }
      (w.run (invocation g s t text))) = .ok v := by
    rw [hrun, Program.answer, if_pos hstatus]
    exact Session.read_eq_ok.2 ⟨_, rfl, hparse⟩
  rw [execute_of_read hs hread, hvalue]
  rfl

/-- The outcome of a template that fails. -/
theorem Fails.execute_eq {e : RenderError} (h : t.Fails w g s e)
    (hs : contextSession w g model = .ok s) :
    execute w g (t.command model) = reported g e.toJson := by
  cases h with
  | unreadable hread =>
    change withContext w (session w g) model (fun s => reported g
      (s.renderFile (evaluate w g) _ (w.readText _) none g.externals)) = _
    rw [withContext_eq hs, hread]
    rfl
  | notStarted hread hrun | noScratch hread hrun =>
    rw [execute_of_read hs hread, hrun]
    rfl
  | unsuccessful hread hrun hstatus =>
    rw [execute_of_read hs hread, hrun, Program.answer, if_neg hstatus]
    rfl
  | notJson hread hrun hstatus hparse =>
    rw [execute_of_read hs hread, hrun, Program.answer, if_pos hstatus, Render.read]
    simp only [hparse]
    rfl

/-- A template that fails is not rendered. -/
theorem Fails.not_renders {e : RenderError} (h : t.Fails w g s e) (v : Json) :
    ¬ t.Renders w g s v := by
  rintro ⟨text, c, hread, hrun, hstatus, hparse⟩
  cases h with
  | unreadable hread' => simp [contents, hread'] at hread
  | notStarted hread' hrun' | noScratch hread' hrun' =>
    cases hread.symm.trans hread'
    cases hrun.symm.trans hrun'
  | unsuccessful hread' hrun' hstatus' =>
    cases hread.symm.trans hread'
    cases hrun.symm.trans hrun'
    exact hstatus' hstatus
  | notJson hread' hrun' _ hparse' =>
    cases hread.symm.trans hread'
    cases hrun.symm.trans hrun'
    cases hparse.symm.trans hparse'

end Template

/-- A value is an object with a field `error`. -/
def HasError (v : Json) : Prop :=
  ∃ fields, v = .object fields ∧ "error" ∈ fields.map (·.1)

theorem isFailure_iff {v : Json} : isFailure v = true ↔ HasError v := by
  rw [HasError]
  cases v with
  | object fields => simp [isFailure, Json.field?, List.lookup_isSome_iff]
  | _ => simp [isFailure, Json.field?]

theorem run_eq_execute {w : World Id} {g : Globals} {args : List String} {c : Command}
    (hargs : parse? (w.environment evaluatorVariable) args = some (g, c)) :
    run w args = execute w g c := by
  simp only [run, bind, hargs]

/-- How a render command ends whose model, if it has one, loads. The template is rendered or fails;
what is printed is the rendered value, or else why there is none; and the code is that of a failure
if rendering fails, or if the rendered value is an object that has a field `error` itself. -/
theorem run_template {w : World Id} {g : Globals} {args : List String} {t : Template}
    {model : Option String} {s : Session}
    (hargs : parse? (w.environment evaluatorVariable) args = some (g, t.command model))
    (hs : contextSession w g model = .ok s) :
    let o : Outcome := run w args
    ((∃ v, t.Renders w g s v) ↔ ¬ ∃ e, t.Fails w g s e) ∧
      (∀ v, t.Renders w g s v → o.output = (printed g v).output ∧ o.errors = "") ∧
      (∀ e, t.Fails w g s e → o.output = (printed g e.toJson).output ∧ o.errors = "") ∧
      (o.code = 1 ↔ (∃ e, t.Fails w g s e) ∨ ∃ v, t.Renders w g s v ∧ HasError v) ∧
      (o.code = 0 ↔ ∃ v, t.Renders w g s v ∧ ¬ HasError v) := by
  intro o
  have hrun : o = execute w g (t.command model) := run_eq_execute hargs
  have hrendered {v : Json} (h : t.Renders w g s v) : o = reported g v :=
    hrun.trans (h.execute_eq hs)
  have hfailed {e : RenderError} (h : t.Fails w g s e) : o = reported g e.toJson :=
    hrun.trans (h.execute_eq hs)
  have hcode {v : Json} (h : t.Renders w g s v) :
      (o.code = 1 ↔ HasError v) ∧ (o.code = 0 ↔ ¬ HasError v) := by
    rw [hrendered h, reported, ← isFailure_iff]
    cases isFailure v <;> simp
  have hcode' {e : RenderError} (h : t.Fails w g s e) : o.code = 1 := by
    rw [hfailed h]
    rfl
  have hcases := t.exists_renders_or_fails w g s
  refine ⟨⟨fun ⟨v, hv⟩ ⟨e, he⟩ => he.not_renders v hv, hcases.resolve_right⟩,
    fun v hv => ?_, fun e he => ?_, ⟨fun h => ?_, ?_⟩, fun h => ?_, ?_⟩
  · rw [hrendered hv]
    exact ⟨rfl, rfl⟩
  · rw [hfailed he]
    exact ⟨rfl, rfl⟩
  · exact hcases.symm.imp_right fun ⟨v, hv⟩ => ⟨v, hv, (hcode hv).1.1 h⟩
  · rintro (⟨e, he⟩ | ⟨v, hv, herror⟩)
    · exact hcode' he
    · exact (hcode hv).1.2 herror
  · obtain ⟨v, hv⟩ | ⟨e, he⟩ := hcases
    · exact ⟨v, hv, (hcode hv).2.1 h⟩
    · exact absurd (h.symm.trans (hcode' he)) (by decide)
  · rintro ⟨v, hv, herror⟩
    exact (hcode hv).2.2 herror

/-! ## A world without files -/

/-- A world without files in which the evaluator program writes a text. -/
def writing (output : String) : World Id where
  readText _ := .error .notFound
  run _ := .ok ⟨.code 0, output.toUTF8.toList, []⟩
  environment _ := none
  now := ""

/-- The options of a command line that gives none. -/
def plain : Globals where
  pretty := false
  geometry := true
  sharedVertices := false
  evaluator := "jsonnet"
  imports := []
  externals := []

theorem renders_writing {output text : String} {s : Session} {v : Json}
    (hbytes : Text.decodeUtf8 output.toUTF8.toList = output) (hparse : Json.parse output = .ok v) :
    (Template.source text).Renders (writing output) plain s v :=
  ⟨text, _, rfl, rfl, rfl, by rwa [hbytes]⟩

theorem parse?_snippet :
    parse? none ["render-snippet", "x"] = some (plain, Template.command none (.source "x")) := by
  decide +kernel

/-- A template whose value is `null`, and one that cannot be read. -/
theorem run_template_writing_null :
    let rendered : Outcome := run (writing "null") ["render-snippet", "x"]
    let unread : Outcome := run (writing "null") ["render", "x"]
    (rendered.code = 0 ∧ rendered.output = "null\n" ∧ rendered.errors = "") ∧ unread.code = 1 := by
  intro rendered unread
  have hsession : contextSession (writing "null") plain none =
      .ok (session (writing "null") plain) := rfl
  constructor
  · have hparse : Json.parse "null" = .ok .null := by
      have htext : "null".toList = ['n', 'u', 'l', 'l'] := by decide +kernel
      have hwhole : Json.Parser.whole ['n', 'u', 'l', 'l'] = .ok .null := rfl
      rw [Json.parse, htext, hwhole]
      rfl
    have hrenders : (Template.source "x").Renders (writing "null") plain
        (session (writing "null") plain) .null :=
      renders_writing (by decide +kernel) hparse
    have hnull : (printed plain .null).output = "null\n" := by decide +kernel
    obtain ⟨-, hprints, -, -, hcode⟩ :=
      run_template (w := writing "null") parse?_snippet hsession
    obtain ⟨houtput, herrors⟩ := hprints .null hrenders
    exact ⟨hcode.2 ⟨.null, hrenders, fun ⟨_, hobject, _⟩ => nomatch hobject⟩,
      houtput.trans hnull, herrors⟩
  · have hargs : parse? none ["render", "x"] = some (plain, Template.command none (.file "x")) := by
      decide +kernel
    obtain ⟨-, -, -, hcode, -⟩ := run_template (w := writing "null") hargs hsession
    exact hcode.2 (.inl ⟨_, .unreadable rfl⟩)

/-! ## A rendered object that looks like a failure -/

/-- The text of an object with a field `error`. -/
def errorField : String :=
  "\x7b\"error\":1\x7d"

theorem parse_errorField : Json.parse errorField = .ok (.object [("error", .int 1)]) := by
  have htext : errorField.toList =
      ['\x7b', '"', 'e', 'r', 'r', 'o', 'r', '"', ':', '1', '\x7d'] := by
    decide +kernel
  have hwhole : Json.Parser.whole
      ['\x7b', '"', 'e', 'r', 'r', 'o', 'r', '"', ':', '1', '\x7d'] =
        .ok (.object [("error", .int 1)]) :=
    rfl
  rw [Json.parse, htext, hwhole]
  simp only [Json.sorted, Json.sortedFields, Json.sortFields_singleton]

/-- A template is rendered to an object with a field `error`, which is printed, and the code is that
of a failure. -/
theorem run_render_errorField :
    let w := writing errorField
    let t : Template := .source "x"
    parse? (w.environment evaluatorVariable) ["render-snippet", "x"] =
        some (plain, t.command none) ∧
      ∃ s, contextSession w plain none = .ok s ∧
        t.Renders w plain s (.object [("error", .int 1)]) ∧ (∀ e, ¬ t.Fails w plain s e) ∧
        (run w ["render-snippet", "x"] : Outcome) = ⟨1, errorField ++ "\n", ""⟩ := by
  intro w t
  have hrenders : t.Renders w plain (session w plain) (.object [("error", .int 1)]) :=
    renders_writing (by decide +kernel) parse_errorField
  refine ⟨parse?_snippet, session w plain, rfl, hrenders,
    fun e he => he.not_renders _ hrenders, ?_⟩
  rw [run_eq_execute (w := w) parse?_snippet]
  have houtcome : execute w plain (t.command none) = reported plain (.object [("error", .int 1)]) :=
    hrenders.execute_eq rfl
  have hreported : reported plain (.object [("error", .int 1)]) = ⟨1, errorField ++ "\n", ""⟩ := by
    decide +kernel
  exact houtcome.trans hreported

end BuildingModel.CommandLine
