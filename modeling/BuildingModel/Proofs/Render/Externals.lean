import BuildingModel.Session.Basic
import Mathlib.Data.List.Induction
import Mathlib.Data.String.Basic

/-!
# What templates see

The renderer of a session is called again and again: externals are registered, all of them are
removed, templates are rendered. What a template sees is told by its own call and by what was
registered before it, never by another render.

* `getElem?_externals_calls`: under a key the session has what was last registered since all
  externals were removed;
* `mem_externals_request`: a template sees its context, then the externals of its call, then the
  registered ones;
* `render_isolated`: so it is for every render in a sequence of calls.
-/

namespace BuildingModel.Session

open Render

/-! ## Calls -/

/-- A template to be rendered, with what its call gives to it. -/
structure Job where
  /-- The template. -/
  source : String
  /-- The context. -/
  context : Json
  /-- The externals of the call. -/
  externals : Externals
  /-- The directories that are searched for imports. -/
  imports : List String

/-- A call on the renderer of a session. Where it asks the evaluator, it comes with the answer. -/
inductive RendererCall where
  /-- Register an external. -/
  | addExternal (key value : String)
  /-- Remove all externals. -/
  | clearExternals
  /-- Render a template to a value. -/
  | render (job : Job) (answer : Answer)
  /-- Render a template, or tell why not. -/
  | tryRender (job : Job) (answer : Answer)

/-- What a call returns. -/
inductive Returned where
  /-- Nothing. -/
  | nothing
  /-- The value of a render. -/
  | value (v : Json)
  /-- The result of a render that may fail. -/
  | result (r : Except RenderError Json)

/-- What a call comes to. -/
structure Event where
  /-- What the evaluator receives. -/
  received : List Request
  /-- What the call returns. -/
  returned : Returned
  /-- The session after it. -/
  after : Session

/-- An evaluator that gives one answer, and notes what it receives. -/
def noting (answer : Answer) (r : Request) : StateM (List Request) Answer := do
  modify (· ++ [r])
  return answer

/-- What a call on a session comes to. -/
def perform (s : Session) : RendererCall → Event
  | .addExternal key value => ⟨[], .nothing, s.addExternal key value⟩
  | .clearExternals => ⟨[], .nothing, s.clearExternals⟩
  | .render job answer =>
    let (v, received) := (s.render (noting answer) job.source (some job.context)
      job.externals.toList job.imports).run []
    ⟨received, .value v, s⟩
  | .tryRender job answer =>
    let (r, received) := (tryRender s.externals (noting answer) job.source job.context
      job.externals.toList job.imports).run []
    ⟨received, .result r, s⟩

/-- What calls come to, one after another. -/
def events (s : Session) : List RendererCall → List Event
  | [] => []
  | c :: cs => s.perform c :: (s.perform c).after.events cs

/-- The session after calls. -/
def calls (s : Session) (cs : List RendererCall) : Session :=
  cs.foldl (fun s c => (s.perform c).after) s

/-- What a call comes to is told by the calls before it. -/
theorem getElem?_events (s : Session) (before after : List RendererCall) (c : RendererCall) :
    (s.events (before ++ c :: after))[before.length]? = some ((s.calls before).perform c) := by
  induction before generalizing s with
  | nil => rfl
  | cons b before ih => exact ih _

/-! ## Registered externals -/

/-- A call that settles what is registered under a key. -/
def RendererCall.Settles (key : String) (c : RendererCall) : Prop :=
  c = .clearExternals ∨ ∃ value, c = .addExternal key value

/-- An external was registered by some of the calls, and no later one settled its key. -/
def Added (cs : List RendererCall) (key value : String) : Prop :=
  ∃ before after, cs = before ++ .addExternal key value :: after ∧
    ∀ c ∈ after, ¬ c.Settles key

section

variable {cs : List RendererCall} {c : RendererCall} {key value : String} {s : Session}

theorem not_added_nil : ¬ Added [] key value := by
  rintro ⟨before, after, h, -⟩
  simp at h

/-- A call that does not settle a key leaves what was added under it. -/
theorem added_concat_of_not_settles (h : ¬ c.Settles key) :
    Added (cs ++ [c]) key value ↔ Added cs key value := by
  constructor
  · rintro ⟨before, after, hcs, hafter⟩
    rcases List.eq_nil_or_concat after with rfl | ⟨after, c', rfl⟩
    · obtain ⟨-, rfl⟩ := List.append_singleton_inj.1 hcs
      exact absurd (.inr ⟨value, rfl⟩) h
    · rw [List.concat_eq_append, ← List.cons_append, ← List.append_assoc] at hcs
      obtain ⟨rfl, rfl⟩ := List.append_singleton_inj.1 hcs
      exact ⟨before, after, rfl, fun d hd => hafter d (by simp [hd])⟩
  · rintro ⟨before, after, rfl, hafter⟩
    refine ⟨before, after ++ [c], by simp, fun d hd => ?_⟩
    rcases List.mem_append.1 hd with hd | hd
    · exact hafter d hd
    · rwa [List.mem_singleton.1 hd]

/-- After a call that settles a key there is what that call added, or nothing. -/
theorem added_concat_of_settles (h : c.Settles key) :
    Added (cs ++ [c]) key value ↔ c = .addExternal key value := by
  constructor
  · rintro ⟨before, after, hcs, hafter⟩
    rcases List.eq_nil_or_concat after with rfl | ⟨after, c', rfl⟩
    · exact (List.append_singleton_inj.1 hcs).2
    · rw [List.concat_eq_append, ← List.cons_append, ← List.append_assoc] at hcs
      obtain ⟨-, rfl⟩ := List.append_singleton_inj.1 hcs
      exact absurd h (hafter c (by simp))
  · rintro rfl
    exact ⟨cs, [], rfl, nofun⟩

/-- A call that does not settle a key leaves what is registered under it. -/
theorem getElem?_externals_perform_of_not_settles (h : ¬ c.Settles key) :
    (s.perform c).after.externals[key]? = s.externals[key]? := by
  cases c with
  | addExternal k v =>
    have hk : k ≠ key := fun hk => h (.inr ⟨v, by rw [hk]⟩)
    simp [perform, addExternal, Std.TreeMap.getElem?_insert, Std.LawfulEqCmp.compare_eq_iff_eq, hk]
  | clearExternals => exact absurd (.inl rfl) h
  | render job answer => rfl
  | tryRender job answer => rfl

/-- After a call that settles a key there is what that call registered, or nothing. -/
theorem getElem?_externals_perform_of_settles (h : c.Settles key) :
    (s.perform c).after.externals[key]? = some value ↔ c = .addExternal key value := by
  obtain rfl | ⟨v, rfl⟩ := h
  · simp [perform, clearExternals]
  · simp [perform, addExternal]

/-- Under a key the session has what was last added. -/
theorem getElem?_externals_calls (h : s.externals = {}) (cs : List RendererCall) :
    (s.calls cs).externals[key]? = some value ↔ Added cs key value := by
  induction cs using List.reverseRecOn with
  | nil => simp [calls, h, not_added_nil]
  | append_singleton cs c ih =>
    rw [calls, List.foldl_append]
    change ((s.calls cs).perform c).after.externals[key]? = some value ↔ _
    by_cases hc : c.Settles key
    · rw [getElem?_externals_perform_of_settles hc, added_concat_of_settles hc]
    · rw [getElem?_externals_perform_of_not_settles hc, ih, added_concat_of_not_settles hc]

end

/-! ## What the evaluator receives -/

/-- What a template sees under a key: its context under the name of the context, else what its call
gives, else what was added. -/
def Visible (cs : List RendererCall) (job : Job) (key value : String) : Prop :=
  if key = contextName then value = job.context.compact
  else match job.externals[key]? with
    | some v => value = v
    | none => Added cs key value

/-- Externals of a call come before registered ones. -/
theorem getElem?_insertMany_toList (registered call : Externals) (key : String) :
    (registered.insertMany call.toList)[key]? = call[key]?.or registered[key]? := by
  cases h : call[key]? with
  | some v =>
    exact Std.TreeMap.getElem?_insertMany_list_of_mem Std.ReflCmp.compare_self
      Std.TreeMap.distinct_keys_toList (Std.TreeMap.mem_toList_iff_getElem?_eq_some.2 h)
  | none =>
    refine Std.TreeMap.getElem?_insertMany_list_of_contains_eq_false ?_
    rw [Std.TreeMap.map_fst_toList_eq_keys]
    simpa using h

/-- A request has the context, then the externals of the call, then the registered ones. -/
theorem mem_externals_request (registered call : Externals) (source : String) (context : Json)
    (imports : List String) (key value : String) :
    (key, value) ∈ (request registered source context call.toList imports).externals ↔
      (if key = contextName then some context.compact else call[key]?.or registered[key]?) =
        some value := by
  have hname : compare contextName key = .eq ↔ key = contextName :=
    Std.LawfulEqCmp.compare_eq_iff_eq.trans eq_comm
  rw [request, Std.TreeMap.mem_toList_iff_getElem?_eq_some, Std.TreeMap.getElem?_insert,
    getElem?_insertMany_toList]
  simp only [hname]

/-- Requests are in ascending order of the keys. -/
theorem externals_request_pairwise (registered : Externals) (source : String) (context : Json)
    (call : List (String × String)) (imports : List String) :
    (request registered source context call imports).externals.Pairwise (·.1 < ·.1) :=
  Std.TreeMap.ordered_keys_toList.imp compare_lt_iff_lt.1

/-- The request of a job to a session. -/
def requestOf (s : Session) (job : Job) : Request :=
  request s.externals job.source job.context job.externals.toList job.imports

theorem perform_render (s : Session) (job : Job) (answer : Answer) :
    s.perform (.render job answer) = ⟨[s.requestOf job], .value (fold (Render.read answer)), s⟩ :=
  rfl

theorem perform_tryRender (s : Session) (job : Job) (answer : Answer) :
    s.perform (.tryRender job answer) = ⟨[s.requestOf job], .result (Render.read answer), s⟩ :=
  rfl

/-- A template sees what is visible to it. -/
theorem mem_externals_requestOf {s : Session} {cs : List RendererCall} {job : Job}
    (h : ∀ key value, s.externals[key]? = some value ↔ Added cs key value) (key value : String) :
    (key, value) ∈ (s.requestOf job).externals ↔ Visible cs job key value := by
  rw [requestOf, mem_externals_request, Visible]
  split
  · exact Option.some_inj.trans eq_comm
  · cases hv : job.externals[key]? with
    | some v => exact Option.some_inj.trans eq_comm
    | none => exact h key value

/-! ## What renders return -/

theorem read_eq_ok {answer : Answer} {v : Json} :
    Render.read answer = .ok v ↔ ∃ output, answer = .ok output ∧ Json.parse output = .ok v := by
  cases answer with
  | error e => simp [Render.read]
  | ok output => cases h : Json.parse output <;> simp [Render.read, h]

theorem fold_error (e : RenderError) : fold (.error e) =
    .object [("error", .text e.message), ("type", .text "template_error")] :=
  rfl

/-- Every render in a sequence of calls asks the evaluator once, for the template with what is
visible to it under each key: the context, else what the call gives, else what was last added since
all externals were removed. It leaves what is registered as it was. It returns the value of the
answer, if that is JSON, and else an object that tells why there is none. -/
theorem render_isolated (o : Document.Options) (before after : List RendererCall) (job : Job)
    (answer : Answer) :
    let start : Session := { options := o }
    let s := start.calls before
    ∃ r v result,
      (start.events (before ++ .render job answer :: after))[before.length]? =
          some ⟨[r], .value v, s⟩ ∧
        (start.events (before ++ .tryRender job answer :: after))[before.length]? =
          some ⟨[r], .result result, s⟩ ∧
        (r.source = job.source ∧ r.imports = job.imports ∧ r.externals.Pairwise (·.1 < ·.1) ∧
          ∀ key value, (key, value) ∈ r.externals ↔ Visible before job key value) ∧
        (∀ key value, s.externals[key]? = some value ↔ Added before key value) ∧
        (∀ output j, answer = .ok output → Json.parse output = .ok j → v = j ∧ result = .ok j) ∧
        ((∀ output j, answer = .ok output → Json.parse output ≠ .ok j) →
          ∃ e, result = .error e ∧
            v = .object [("error", .text e.message), ("type", .text "template_error")]) := by
  intro start s
  have hadded (key value : String) : s.externals[key]? = some value ↔ Added before key value :=
    getElem?_externals_calls rfl before
  refine ⟨s.requestOf job, fold (Render.read answer), Render.read answer, ?_, ?_,
    ⟨rfl, rfl, externals_request_pairwise _ _ _ _ _, mem_externals_requestOf hadded⟩, hadded,
    fun output j ho hj => ?_, fun hno => ?_⟩
  · rw [getElem?_events, perform_render]
  · rw [getElem?_events, perform_tryRender]
  · rw [read_eq_ok.2 ⟨output, ho, hj⟩]
    exact ⟨rfl, rfl⟩
  · cases hr : Render.read answer with
    | ok j =>
      obtain ⟨output, ho, hj⟩ := read_eq_ok.1 hr
      exact absurd hj (hno output j ho)
    | error e => exact ⟨e, rfl, fold_error e⟩

/-- A render whose call gives a context under the name of the context, and an external under a key
that is registered. Of what was registered before everything was removed it sees nothing. -/
theorem render_isolated_shadowing :
    let before : List RendererCall :=
      [.addExternal "a" "1", .clearExternals, .addExternal "b" "2", .addExternal "c" "2",
        .addExternal "ifcData" "x"]
    let job : Job := ⟨"src", .array [], .ofList [("b", "3"), ("ifcData", "y")], []⟩
    let answer : Answer := .error (.failed "boom")
    ∃ r e, (("ifcData", "[]") ∈ r.externals ∧ ("b", "3") ∈ r.externals ∧ ("c", "2") ∈ r.externals ∧
        ∀ value, ("a", value) ∉ r.externals) ∧
      ((({} : Session).events (before ++ [.render job answer]))[5]?.map fun event =>
        (event.received, event.returned)) =
        some ([r], .value (.object [("error", .text e), ("type", .text "template_error")])) := by
  intro before job answer
  obtain ⟨r, v, result, hrender, -, ⟨-, -, -, hr⟩, -, -, hfail⟩ :=
    render_isolated {} before [] job answer
  obtain ⟨e, -, hv⟩ := hfail nofun
  have hjob : job.externals["b"]? = some "3" ∧ job.externals["c"]? = none ∧
      job.externals["a"]? = none := by
    decide +kernel
  refine ⟨r, e.message, ⟨(hr _ _).2 ?_, (hr _ _).2 ?_, (hr _ _).2 ?_, fun value h => ?_⟩, ?_⟩
  · simp only [Visible, contextName, if_true]
    decide +kernel
  · simp [Visible, contextName, hjob]
  · simp only [Visible, contextName, hjob]
    exact ⟨[.addExternal "a" "1", .clearExternals, .addExternal "b" "2"], _, rfl, by
      simp [RendererCall.Settles]⟩
  · have ha := (hr _ _).1 h
    simp only [Visible, contextName, hjob] at ha
    rw [← getElem?_externals_calls (s := {}) rfl] at ha
    simp [before, calls, perform, addExternal, clearExternals] at ha
  · rw [← hv]
    exact congrArg (Option.map fun event => (event.received, event.returned)) hrender

end BuildingModel.Session
