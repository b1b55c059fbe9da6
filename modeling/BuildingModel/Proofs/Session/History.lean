import BuildingModel.Proofs.Json.Sorted
import BuildingModel.Session.Basic
import Mathlib.Data.String.Basic

/-!
# What a session keeps

A session is asked for one operation after another, which is its *history*. What it keeps is told
by the loads of the history that succeed: the last of them gives the current model, and the last
one of each source gives the document of that source.

* `step_of_loaded?_eq_none`: operations that load nothing leave the cache and the current model as
  they are, a load that fails among them;
* `Keeps.step`, `Keeps.run`: what is kept of earlier loads and of an operation's own.
-/

namespace BuildingModel

open Document

/-! ## Documents -/

/-- What the cache stores of a model. -/
def CachedDocument.ofModel (l : LoadedModel) : CachedDocument where
  document := l.document.toJson.sorted
  entityCount := l.entityCount

/-- The tree of a model is in its document under the key `hierarchy`. -/
theorem Document.LoadedModel.field?_hierarchy (l : LoadedModel) :
    l.document.toJson.sorted.field? "hierarchy" =
      some (Json.ofOption (l.hierarchy?.map treeJson)).sorted := by
  refine Json.field?_sorted_of_mem ?_ ?_
  · cases l.document.project <;> simp [optionalField]
  · simp [LoadedModel.document]

namespace Session

/-! ## Operations -/

/-- What a session can be asked for. A file is given by what was read from it, and an evaluator by
its answers. -/
inductive Operation where
  /-- Load a content under a source. -/
  | load (source content : String)
  /-- Load a file. -/
  | loadFile (path : String) (contents : Except FileError String)
  /-- Tell the objects of a type. -/
  | entitiesOf (name : String)
  /-- Tell the geometry of a product. -/
  | geometryOf (key : String)
  /-- Tell the tree of the project. -/
  | hierarchy
  /-- Tell what an object is attached to. -/
  | containerOf (id : EntityId)
  /-- Tell about the session itself. -/
  | status
  /-- Render a template. -/
  | render (evaluate : Render.Request → Id Render.Answer) (source : String)
    (context : Option Json) (externals : List (String × String))
  /-- Render a template that was read from a file. -/
  | renderFile (evaluate : Render.Request → Id Render.Answer) (path : String)
    (contents : Except FileError String) (context : Option Json)
    (externals : List (String × String))
  /-- Register an external. -/
  | addExternal (key value : String)
  /-- Remove all externals. -/
  | clearExternals

/-- The answer to an operation, and the session after it. -/
def step (s : Session) : Operation → Json × Session
  | .load source content => s.load source content
  | .loadFile path contents => s.loadFile path contents
  | .entitiesOf name => ((Json.array ((s.entitiesOf name).map Node.toJson)).sorted, s)
  | .geometryOf key =>
    ((Json.ofOption ((s.geometryOf? key).map GeometryFragment.toJson)).sorted, s)
  | .hierarchy => ((Json.ofOption (s.hierarchy?.map treeJson)).sorted, s)
  | .containerOf id => ((Json.ofOption ((s.containerOf? id).map Node.toJson)).sorted, s)
  | .status => (s.status.toJson.sorted, s)
  | .render evaluate source context externals =>
    ((s.render evaluate source context externals).run, s)
  | .renderFile evaluate path contents context externals =>
    ((s.renderFile evaluate path contents context externals).run, s)
  | .addExternal key value => (.null, s.addExternal key value)
  | .clearExternals => (.null, s.clearExternals)

/-- The session after a history. -/
def run (s : Session) (h : List Operation) : Session :=
  h.foldl (fun s op => (s.step op).2) s

/-! ## Loads that succeed -/

/-- The source and the model of an operation that is a load and succeeds. -/
def Operation.loaded? (o : Options) : Operation → Option (String × LoadedModel)
  | load source content => (LoadedModel.load o source content).toOption.map (source, ·)
  | loadFile path (.ok content) => (LoadedModel.load o path content).toOption.map (path, ·)
  | _ => none

/-- The loads of a history that succeed. -/
def loads (o : Options) (h : List Operation) : List (String × LoadedModel) :=
  h.filterMap (·.loaded? o)

/-- The model of the last load of a source. -/
def lastOf? (source : String) (ls : List (String × LoadedModel)) : Option LoadedModel :=
  (ls.filter (·.1 == source)).getLast?.map (·.2)

theorem loads_cons (o : Options) (op : Operation) (h : List Operation) :
    loads o (op :: h) = (op.loaded? o).toList ++ loads o h := by
  rw [loads, loads, List.filterMap_cons]
  cases op.loaded? o <;> rfl

theorem lastOf?_concat (source : String) (ls : List (String × LoadedModel))
    (p : String × LoadedModel) :
    lastOf? source (ls ++ [p]) = if p.1 = source then some p.2 else lastOf? source ls := by
  rw [lastOf?, List.filter_append]
  by_cases h : p.1 = source
  · simp [h]
  · simp [h, lastOf?]

theorem lastOf?_of_getLast? {ls : List (String × LoadedModel)} {source : String} {l : LoadedModel}
    (h : ls.getLast? = some (source, l)) : lastOf? source ls = some l := by
  obtain ⟨before, rfl⟩ := List.getLast?_eq_some_iff.1 h
  rw [lastOf?_concat, if_pos rfl]

/-! ## One operation -/

variable {s : Session}

theorem load_cases (s : Session) (source content : String) :
    (∃ l, (Operation.load source content).loaded? s.options = some (l.source, l) ∧
        (s.load source content).2 = s.add l) ∨
      (Operation.load source content).loaded? s.options = none ∧
        (s.load source content).2 = s := by
  rw [Operation.loaded?, load, model, LoadedModel.load]
  cases Model.load content s.options.properties with
  | ok m => exact .inl ⟨.ofModel s.options source m, rfl, rfl⟩
  | error e => exact .inr ⟨rfl, rfl⟩

/-- An operation either loads a model, which is added, or it touches the externals at most. -/
theorem step_cases (s : Session) (op : Operation) :
    (∃ l, op.loaded? s.options = some (l.source, l) ∧ (s.step op).2 = s.add l) ∨
      op.loaded? s.options = none ∧ ∃ e, (s.step op).2 = { s with externals := e } := by
  cases op with
  | load source content =>
    exact (s.load_cases source content).imp_right fun ⟨hnone, hs⟩ => ⟨hnone, s.externals, hs⟩
  | loadFile path contents =>
    cases contents with
    | error e => exact .inr ⟨rfl, s.externals, rfl⟩
    | ok content =>
      exact (s.load_cases path content).imp_right fun ⟨hnone, hs⟩ => ⟨hnone, s.externals, hs⟩
  | addExternal key value => exact .inr ⟨rfl, s.externals.insert key value, rfl⟩
  | clearExternals => exact .inr ⟨rfl, {}, rfl⟩
  | _ => exact .inr ⟨rfl, s.externals, rfl⟩

theorem options_step (op : Operation) : (s.step op).2.options = s.options := by
  obtain ⟨l, -, hs⟩ | ⟨-, e, hs⟩ := s.step_cases op <;> rw [hs]
  rfl

theorem options_run (s : Session) (h : List Operation) : (s.run h).options = s.options := by
  induction h generalizing s with
  | nil => rfl
  | cons op h ih => exact (ih _).trans (options_step op)

/-- An operation that loads nothing leaves the cache and the current model as they are. -/
theorem step_of_loaded?_eq_none {op : Operation} (h : op.loaded? s.options = none) :
    (s.step op).2.cache = s.cache ∧ (s.step op).2.current = s.current := by
  obtain ⟨l, hsome, -⟩ | ⟨-, e, hs⟩ := s.step_cases op
  · rw [h] at hsome
    cases hsome
  · rw [hs]
    exact ⟨rfl, rfl⟩

/-! ## What is kept -/

/-- A session keeps, of some loads, the last one as its current model and the last one of each
source as the document of that source. -/
structure Keeps (s : Session) (ls : List (String × LoadedModel)) : Prop where
  /-- The last load gave the current model. -/
  current : ls.getLast? = s.current.map fun l => (l.source, l)
  /-- The last load gave the last source. -/
  latestSource : s.cache.latestSource = ls.getLast?.map (·.1)
  /-- The last load of a source gave its document. -/
  entries (source : String) :
    s.cache.entries[source]? = (lastOf? source ls).map CachedDocument.ofModel

variable {ls : List (String × LoadedModel)}

theorem keeps_nil (o : Options) (e : Render.Externals) :
    Session.Keeps { options := o, externals := e } [] :=
  ⟨rfl, rfl, fun _ => Std.TreeMap.getElem?_emptyc⟩

namespace Keeps

theorem add (h : s.Keeps ls) (l : LoadedModel) : (s.add l).Keeps (ls ++ [(l.source, l)]) where
  current := List.getLast?_concat
  latestSource := by rw [List.getLast?_concat]; rfl
  entries source := by
    rw [Session.add, Cache.insert, Std.TreeMap.getElem?_insert, lastOf?_concat, h.entries]
    by_cases heq : l.source = source
    · simp [heq, CachedDocument.ofModel]
    · simp [heq, Std.LawfulEqCmp.compare_eq_iff_eq]

theorem step (h : s.Keeps ls) (op : Operation) :
    (s.step op).2.Keeps (ls ++ (op.loaded? s.options).toList) := by
  obtain ⟨l, hl, hs⟩ | ⟨hl, e, hs⟩ := s.step_cases op
  · rw [hl, hs]
    exact h.add l
  · rw [hl, hs, Option.toList_none, List.append_nil]
    exact ⟨h.current, h.latestSource, h.entries⟩

theorem run (h : s.Keeps ls) (ops : List Operation) :
    (s.run ops).Keeps (ls ++ loads s.options ops) := by
  induction ops generalizing s ls with
  | nil => rwa [loads, List.filterMap_nil, List.append_nil]
  | cons op ops ih =>
    -- Whether a later load succeeds is told by the options, which no operation changes.
    have hrest := ih (h.step op)
    rwa [options_step, List.append_assoc, ← loads_cons] at hrest

/-! ## What is told about it -/

/-- The last document is that of the current model. -/
theorem latest? (h : s.Keeps ls) :
    s.cache.latest? = s.current.map fun l => l.document.toJson.sorted := by
  rw [Cache.latest?, h.latestSource, h.current]
  cases hl : s.current with
  | none => rfl
  | some l =>
    have hlast : lastOf? l.source ls = some l :=
      lastOf?_of_getLast? (by rw [h.current, hl, Option.map_some])
    rw [Option.map_some, Option.map_some, Option.bind_some, Cache.get?,
      Std.TreeMap.get?_eq_getElem?, h.entries, hlast]
    rfl

/-- The tree in the last document is the one that the session answers. -/
theorem field?_hierarchy (h : s.Keeps ls) {d : Json} (hd : s.cache.latest? = some d) :
    d.field? "hierarchy" = some (s.step .hierarchy).1 := by
  rw [h.latest?, Option.map_eq_some_iff] at hd
  obtain ⟨l, hl, rfl⟩ := hd
  rw [Session.step, hierarchy?, hl]
  exact l.field?_hierarchy

theorem status_current (h : s.Keeps ls) : s.status.current = ls.getLast?.map (·.1) := by
  rw [h.current, Option.map_map]
  rfl

/-- The status tells of each source how many instances its last model has. -/
theorem mem_status_loaded (h : s.Keeps ls) {source : String} {n : Nat} :
    (source, n) ∈ s.status.loaded ↔ ∃ l, lastOf? source ls = some l ∧ l.entityCount = n := by
  simp [status, Cache.sources, h.entries, CachedDocument.ofModel]

end Keeps

theorem status_loaded_pairwise (s : Session) : s.status.loaded.Pairwise (·.1 < ·.1) := by
  rw [status, Cache.sources, List.pairwise_map]
  exact Std.TreeMap.ordered_keys_toList.imp compare_lt_iff_lt.1

/-- After every history of a fresh session, its current model is that of the last load that
succeeded. Its cache has the document and the number of instances of the last such load of each
source, and no others. The last source and the last document are those of the current model, and
the tree in that document is what the session answers when it is asked for the tree. The status
tells the sources in strictly ascending order, each with its number of instances. An operation that
loads nothing, because its load fails or because it is no load, leaves the cache and the current
model as they are. -/
theorem keeps_last_loads (o : Options) (e : Render.Externals) (h : List Operation) :
    let s := Session.run { options := o, externals := e } h
    s.current = (loads o h).getLast?.map (·.2) ∧
      (∀ source, s.cache.entries[source]? =
        (lastOf? source (loads o h)).map CachedDocument.ofModel) ∧
      s.cache.latestSource = (loads o h).getLast?.map (·.1) ∧
      s.cache.latest? = s.current.map (fun l => l.document.toJson.sorted) ∧
      (∀ d, s.cache.latest? = some d → d.field? "hierarchy" = some (s.step .hierarchy).1) ∧
      s.status.current = (loads o h).getLast?.map (·.1) ∧
      s.status.loaded.Pairwise (·.1 < ·.1) ∧
      (∀ source n, (source, n) ∈ s.status.loaded ↔
        ∃ l, lastOf? source (loads o h) = some l ∧ l.entityCount = n) ∧
      ∀ op : Operation, op.loaded? o = none →
        (s.step op).2.cache = s.cache ∧ (s.step op).2.current = s.current := by
  intro s
  have hs : s.Keeps (loads o h) := (keeps_nil o e).run h
  refine ⟨?_, hs.entries, hs.latestSource, hs.latest?, fun d => hs.field?_hierarchy,
    hs.status_current, s.status_loaded_pairwise, fun source n => hs.mem_status_loaded,
    fun op hop => step_of_loaded?_eq_none ?_⟩
  · rw [hs.current, Option.map_map]
    exact Option.map_id'.symm
  · rw [show s.options = o from options_run _ h]
    exact hop

end Session

end BuildingModel
