import BuildingModel.Proofs.Geometry.Item
import BuildingModel.Proofs.Model.RoundTrip
import BuildingModel.Proofs.Model.Types
import Mathlib.Logic.Relation

/-!
# Nested items

An item may *hold* other items (`Holds`): a repeated shape those of the shape, a boolean result its
first operand. All that it does with them is told by `processWith_cases`: it fails before it comes
to them, or there are none, or the meshes of all of them are put together. Two things follow for
any number of levels, by induction on the levels:

* `meshesWithin_eq_of_le`: more levels change no result but that the limit was passed;
* `exists_ok_of_holds`: an item that succeeds has succeeded with every item that it holds, with
  fewer levels, so that one that leads back to itself never succeeds (`not_ok_of_transGen`).

The levels are those that the depth of an item leaves: at each depth processing follows one rule
(`meshes_eq_rule`), and what the rule calls for is deeper, up to the limit (`wellFounded_calls`).
-/

namespace BuildingModel.Geometry

variable {k : Kernel} {x : EntityIndex} {item nested : Entity}

/-- The meshes of an item, or why it has none. -/
abbrev Outcome := Except GeometryError (List (Mesh Float))

/-- An item holds another one. -/
inductive Holds (x : EntityIndex) (item : Entity) : Entity → Prop
  /-- A repeated shape holds the items of the shape that its source maps, as far as there are
  entities. -/
  | mapped {source shape nested : Entity} : item.type = .known .mappedItem →
    x.follow? item 0 = some source → x.follow? source 1 = some shape →
    nested ∈ (shape.references 3).filterMap x.get? → Holds x item nested
  /-- A boolean result holds its first operand. -/
  | boolean {first : Entity} :
    item.type = .known .booleanResult ∨ item.type = .known .booleanClippingResult →
    x.follow? item 1 = some first → Holds x item first

/-! ## One level -/

/-- The meshes of an item, when the items that it holds are processed in a given way. -/
def processWith (k : Kernel) (x : EntityIndex) (process : Entity → Outcome) (item : Entity) :
    Outcome :=
  match k.processor? item.type with
  | none => .error (.unsupportedType item.type.name)
  | some .extrusion => do
    let mesh ← extrusion k x item
    return [mesh]
  | some .shell => shells x item
  | some .faceSet => do
    let loops ← faceSetLoops x item
    return meshesOfLoops loops
  | some .mapped => do
    let source ← require 0 "MappingSource" (x.follow? item 0)
    let shape ← require 1 "MappedRepresentation" (x.follow? source 1)
    let m ← mapping x item source
    let meshes ← ((shape.references 3).filterMap x.get?).mapM process
    return meshes.flatten.map (Mesh.map m.apply)
  | some .boolean => do
    let first ← require 1 "FirstOperand" (x.follow? item 1)
    process first

/-- Every level is made from the one below. -/
theorem meshesWithin_succ (levels : Nat) (item : Entity) :
    meshesWithin k x (levels + 1) item = processWith k x (meshesWithin k x levels) item :=
  rfl

theorem holds_iff_of_mapped (h : item.type = .known .mappedItem) {source shape : Entity}
    (hsource : x.follow? item 0 = some source) (hshape : x.follow? source 1 = some shape) :
    Holds x item nested ↔ nested ∈ (shape.references 3).filterMap x.get? := by
  refine ⟨fun hn => ?_, .mapped h hsource hshape⟩
  cases hn with
  | mapped _ hs hr hn =>
    obtain rfl : source = _ := Option.some.inj (hsource.symm.trans hs)
    obtain rfl : shape = _ := Option.some.inj (hshape.symm.trans hr)
    exact hn
  | boolean ht _ => simp [h] at ht

theorem holds_iff_of_boolean
    (h : item.type = .known .booleanResult ∨ item.type = .known .booleanClippingResult)
    {first : Entity} (hfirst : x.follow? item 1 = some first) :
    Holds x item nested ↔ nested = first := by
  refine ⟨fun hn => ?_, fun hn => hn ▸ .boolean h hfirst⟩
  cases hn with
  | mapped ht _ _ _ => simp [ht] at h
  | boolean _ hf => exact Option.some.inj (hf.symm.trans hfirst)

/-- An item that holds others is a repeated shape or a boolean result. -/
theorem Holds.ofType? (h : Holds x item nested) :
    Processor.ofType? item.type = some .mapped ∨ Processor.ofType? item.type = some .boolean := by
  cases h with
  | mapped ht => exact .inl (by rw [ht]; rfl)
  | boolean ht => exact .inr (by rcases ht with ht | ht <;> rw [ht] <;> rfl)

theorem ofType?_eq_mapped {t : EntityType} (h : Processor.ofType? t = some .mapped) :
    t = .known .mappedItem := by
  unfold Processor.ofType? at h
  split at h <;> first | rfl | cases h

theorem ofType?_eq_boolean {t : EntityType} (h : Processor.ofType? t = some .boolean) :
    t = .known .booleanResult ∨ t = .known .booleanClippingResult := by
  unfold Processor.ofType? at h
  split at h <;> first | exact .inl rfl | exact .inr rfl | cases h

/-- The meshes of several items, put together and moved. -/
def gather (t : Vec3 Float → Vec3 Float) (ms : List (List (Mesh Float))) : List (Mesh Float) :=
  ms.flatten.map (Mesh.map t)

theorem gather_id_singleton (ms : List (Mesh Float)) : gather id [ms] = ms := by
  have hid : Mesh.map (id : Vec3 Float → Vec3 Float) = id :=
    funext fun m => by rw [Mesh.map, Array.map_id]; rfl
  rw [gather, List.flatten_singleton, hid, List.map_id]

/-- What an item does with the items that it holds: it fails before it comes to them, or there are
none, or their meshes are put together and moved. -/
theorem processWith_cases (k : Kernel) (x : EntityIndex) (item : Entity) :
    (∃ e, ∀ process, processWith k x process item = .error e) ∨
      (∃ r, (∀ process, processWith k x process item = r) ∧ ∀ nested, ¬ Holds x item nested) ∨
      ∃ (held : List Entity) (t : Vec3 Float → Vec3 Float),
        (∀ nested, nested ∈ held ↔ Holds x item nested) ∧
        ∀ process, processWith k x process item = (held.mapM process).map (gather t) := by
  unfold processWith
  cases hp : k.processor? item.type with
  | none => exact .inl ⟨_, fun _ => rfl⟩
  | some p =>
    have hp : Processor.ofType? item.type = some p := (Option.filter_eq_some_iff.1 hp).1
    cases p with
    | mapped =>
      cases hsource : x.follow? item 0 with
      | none => exact .inl ⟨_, fun _ => rfl⟩
      | some source =>
        cases hshape : x.follow? source 1 with
        | none => exact .inl ⟨_, fun _ => by simp only [require, ok_bind, hshape]; rfl⟩
        | some shape =>
          cases hm : mapping x item source with
          | error e => exact .inl ⟨e, fun _ => by simp only [require, ok_bind, hshape, hm]; rfl⟩
          | ok m =>
            refine .inr (.inr ⟨_, m.apply, fun nested =>
              (holds_iff_of_mapped (ofType?_eq_mapped hp) hsource hshape).symm, fun _ => ?_⟩)
            simp only [require, ok_bind, hshape, hm]
            rfl
    | boolean =>
      cases hfirst : x.follow? item 1 with
      | none => exact .inl ⟨_, fun _ => rfl⟩
      | some first =>
        refine .inr (.inr ⟨[first], id, fun nested => ?_, fun process => ?_⟩)
        · rw [holds_iff_of_boolean (ofType?_eq_boolean hp) hfirst, List.mem_singleton]
        · -- Nothing is moved, and there is nothing to put together.
          rw [List.mapM_cons, List.mapM_nil]
          simp only [require, ok_bind]
          cases process first with
          | error e => rfl
          | ok ms => exact congrArg Except.ok (gather_id_singleton ms).symm
    | _ =>
      refine .inr (.inl ⟨_, fun _ => rfl, fun nested hn => ?_⟩)
      rcases hn.ofType? with ht | ht <;> cases hp.symm.trans ht

/-! ## Any number of levels -/

/-- A sequence of trials ends as before when the trials do, unless it ended in an error that they
may no longer give. -/
theorem mapM_eq_of_ne {ε α β : Type} {f g : α → Except ε β} {e : ε}
    (h : ∀ a, f a ≠ .error e → g a = f a) {as : List α} (has : as.mapM f ≠ .error e) :
    as.mapM g = as.mapM f := by
  induction as with
  | nil => rfl
  | cons a as ih =>
    rw [List.mapM_cons] at has
    rw [List.mapM_cons, List.mapM_cons]
    cases hfa : f a with
    | error e' =>
      have hne : f a ≠ .error e := fun hf => has (by rw [hf]; rfl)
      rw [h a hne, hfa]
      rfl
    | ok b =>
      rw [hfa, ok_bind] at has
      have htail : as.mapM f ≠ .error e := fun htail => has (by rw [htail]; rfl)
      rw [h a (by rw [hfa]; exact nofun), hfa, ok_bind, ok_bind, ih htail]

/-- Trials that go alike give alike. -/
theorem mapM_congr {ε α β : Type} {f g : α → Except ε β} {as : List α}
    (h : ∀ a ∈ as, f a = g a) : as.mapM f = as.mapM g := by
  induction as with
  | nil => rfl
  | cons a as ih =>
    rw [List.mapM_cons, List.mapM_cons, h a List.mem_cons_self,
      ih fun b hb => h b (List.mem_cons_of_mem _ hb)]

/-- All trials of a sequence that succeeds do. -/
theorem exists_of_mapM_eq_ok {ε α β : Type} {f : α → Except ε β} {as : List α} {bs : List β}
    (h : as.mapM f = .ok bs) {a : α} (ha : a ∈ as) : ∃ b, f a = .ok b := by
  induction as generalizing bs with
  | nil => cases ha
  | cons a' as ih =>
    rw [List.mapM_cons] at h
    obtain ⟨b, hb, h⟩ := exists_of_bind_eq_ok h
    obtain ⟨bs', hbs, -⟩ := exists_of_bind_eq_ok h
    rcases List.mem_cons.1 ha with rfl | ha
    · exact ⟨b, hb⟩
    · exact ih hbs ha

theorem map_eq_ok {ε α β : Type} {e : Except ε α} {f : α → β} {b : β} (h : e.map f = .ok b) :
    ∃ a, e = .ok a := by
  cases e with
  | error e => cases h
  | ok a => exact ⟨a, rfl⟩

/-- More levels change no result but that the limit was passed. -/
theorem meshesWithin_eq_of_le {n m : Nat} (hle : n ≤ m) {item : Entity}
    (h : meshesWithin k x n item ≠ .error (.tooDeep itemLimit)) :
    meshesWithin k x m item = meshesWithin k x n item := by
  induction n generalizing m item with
  | zero => exact absurd rfl h
  | succ n ih =>
    cases m with
    | zero => exact absurd hle n.not_succ_le_zero
    | succ m =>
      rw [meshesWithin_succ] at h ⊢
      rw [meshesWithin_succ]
      obtain ⟨e, he⟩ | ⟨r, hr, -⟩ | ⟨held, t, -, hheld⟩ := processWith_cases k x item
      · rw [he, he]
      · rw [hr, hr]
      · -- If the limit was passed in a held item, it was passed here.
        rw [hheld] at h
        have hne : held.mapM (meshesWithin k x n) ≠ .error (.tooDeep itemLimit) :=
          fun hheld => h (by rw [hheld]; rfl)
        rw [hheld, hheld, mapM_eq_of_ne (fun nested => ih (Nat.le_of_succ_le_succ hle)) hne]

/-- An item that succeeds has succeeded with every item that it holds, one level further down. -/
theorem exists_ok_of_holds (h : Holds x item nested) {n : Nat} {ms : List (Mesh Float)}
    (hok : meshesWithin k x n item = .ok ms) :
    ∃ l < n, ∃ ms', meshesWithin k x l nested = .ok ms' := by
  cases n with
  | zero => cases hok
  | succ n =>
    rw [meshesWithin_succ] at hok
    refine ⟨n, n.lt_succ_self, ?_⟩
    obtain ⟨e, he⟩ | ⟨r, -, hnone⟩ | ⟨held, t, hmem, hheld⟩ := processWith_cases k x item
    · rw [he] at hok
      cases hok
    · exact absurd h (hnone nested)
    · rw [hheld] at hok
      obtain ⟨ms', hms'⟩ := map_eq_ok hok
      exact exists_of_mapM_eq_ok hms' ((hmem nested).2 h)

/-- It has succeeded with every item that it leads to, too, with fewer levels. -/
theorem exists_ok_of_transGen (h : Relation.TransGen (Holds x) item nested) {n : Nat}
    {ms : List (Mesh Float)} (hok : meshesWithin k x n item = .ok ms) :
    ∃ l < n, ∃ ms', meshesWithin k x l nested = .ok ms' := by
  induction h with
  | single h => exact exists_ok_of_holds h hok
  | tail _ h ih =>
    obtain ⟨l, hl, ms', hms'⟩ := ih
    obtain ⟨l', hl', hms''⟩ := exists_ok_of_holds h hms'
    exact ⟨l', Nat.lt_trans hl' hl, hms''⟩

/-- An item that leads back to itself succeeds with no number of levels: it would succeed with
fewer. -/
theorem not_ok_of_transGen (h : Relation.TransGen (Holds x) item item) (n : Nat)
    (ms : List (Mesh Float)) : meshesWithin k x n item ≠ .ok ms := by
  induction n using Nat.strong_induction_on generalizing ms with
  | h n ih =>
    intro hok
    obtain ⟨l, hl, ms', hms'⟩ := exists_ok_of_transGen h hok
    exact ih l hl ms' hms'

/-! ## Depth -/

/-- What processing an item at a depth comes to, given what processing comes to elsewhere. -/
def rule (k : Kernel) (x : EntityIndex) (process : Entity → Nat → Outcome) (item : Entity)
    (depth : Nat) : Outcome :=
  if itemLimit < depth then .error (.tooDeep itemLimit)
  else processWith k x (process · (depth + 1)) item

theorem meshes_eq_rule (k : Kernel) (x : EntityIndex) (item : Entity) (depth : Nat) :
    meshes k x item depth = rule k x (fun i d => meshes k x i d) item depth := by
  rw [rule]
  split
  next h => rw [meshes, Nat.sub_eq_zero_of_le h]; rfl
  next h =>
    have hlevels : itemLimit + 1 - depth = itemLimit + 1 - (depth + 1) + 1 := by omega
    rw [meshes, hlevels, meshesWithin_succ]
    rfl

/-- Processing an item at a depth calls for an item that it holds, one deeper, unless the limit was
passed. -/
def Calls (x : EntityIndex) (callee caller : Entity × Nat) : Prop :=
  caller.2 ≤ itemLimit ∧ callee.2 = caller.2 + 1 ∧ Holds x caller.1 callee.1

/-- Calls come to an end. -/
theorem wellFounded_calls (x : EntityIndex) : WellFounded (Calls x) := by
  refine Subrelation.wf (fun {callee caller} h => ?_)
    (InvImage.wf (fun call : Entity × Nat => itemLimit + 1 - call.2) Nat.lt_wfRel.wf)
  obtain ⟨hle, hdepth, -⟩ := h
  change itemLimit + 1 - callee.2 < itemLimit + 1 - caller.2
  omega

/-- Nothing matters to processing but what it calls for. -/
theorem rule_congr {p q : Entity → Nat → Outcome} {depth : Nat}
    (h : ∀ call, Calls x call (item, depth) → p call.1 call.2 = q call.1 call.2) :
    rule k x p item depth = rule k x q item depth := by
  rw [rule, rule]
  split
  · rfl
  next hdepth =>
    obtain ⟨e, he⟩ | ⟨r, hr, -⟩ | ⟨held, t, hmem, hheld⟩ := processWith_cases k x item
    · rw [he, he]
    · rw [hr, hr]
    · rw [hheld, hheld]
      refine congrArg _ (mapM_congr fun nested hn => ?_)
      exact h (nested, depth + 1) ⟨Nat.not_lt.1 hdepth, rfl, (hmem nested).1 hn⟩

/-- Processing an item gives the same result at every smaller depth, unless the result is that the
limit was passed. An item that leads back to itself is not processed successfully at any depth.
Still, processing ends: its calls do, and so one function alone follows its rule. -/
theorem meshes_nesting (k : Kernel) (x : EntityIndex) :
    (∀ item depth less, less ≤ depth → meshes k x item depth ≠ .error (.tooDeep 32) →
      meshes k x item less = meshes k x item depth) ∧
      (∀ item, Relation.TransGen (Holds x) item item →
        ∀ depth ms, meshes k x item depth ≠ .ok ms) ∧
      WellFounded (Calls x) ∧
      ∀ p : Entity → Nat → Outcome,
        (∀ item depth, p item depth = rule k x p item depth) ↔
          ∀ item depth, p item depth = meshes k x item depth := by
  refine ⟨fun item depth less hle h => ?_, fun item h depth ms => not_ok_of_transGen h _ ms,
    wellFounded_calls x, fun p => ⟨fun hp item depth => ?_, fun hp item depth => ?_⟩⟩
  · exact meshesWithin_eq_of_le (by omega) h
  · have hcalls (call : Entity × Nat) : p call.1 call.2 = meshes k x call.1 call.2 := by
      induction call using (wellFounded_calls x).induction with
      | _ call ih => rw [hp, meshes_eq_rule, rule_congr ih]
    exact hcalls (item, depth)
  · rw [hp, meshes_eq_rule]
    exact rule_congr fun call _ => (hp call.1 call.2).symm

/-! ## A shape of itself -/

open BuildingModel.Step (Definition file)

/-- An item that repeats a shape. -/
def mirror : Definition where
  id := 1
  tag := ⟨(EntityClass.name .mappedItem).toList, by decide, List.all_eq_true.1 (by decide)⟩
  attributes := [.reference 2, .null]

/-- The source that maps the shape. -/
def mirrorSource : Definition where
  id := 2
  tag := ⟨"IFCREPRESENTATIONMAP".toList, by decide, List.all_eq_true.1 (by decide)⟩
  attributes := [.null, .reference 3]

/-- The shape, which consists of the item that repeats it. -/
def mirrorShape : Definition where
  id := 3
  tag := ⟨"IfcShapeRepresentation".toList, by decide, List.all_eq_true.1 (by decide)⟩
  attributes := [.null, .null, .null, .list [.reference 1]]

theorem holds_mirror {x : EntityIndex}
    (hget : ∀ d ∈ [mirror, mirrorSource, mirrorShape], x.get? d.id = some d.entity) :
    Holds x mirror.entity mirror.entity := by
  have hitem : x.get? 1 = some mirror.entity := hget mirror (by simp)
  have hsource : x.follow? mirror.entity 0 = some mirrorSource.entity :=
    hget mirrorSource (by simp)
  have hshape : x.follow? mirrorSource.entity 1 = some mirrorShape.entity :=
    hget mirrorShape (by simp)
  refine .mapped (EntityIndex.type_eq_known rfl) hsource hshape ?_
  rw [show mirrorShape.entity.references 3 = [1] from rfl]
  simp [hitem]

/-- Where no items are processed, an item is unsupported before it is too deep. -/
theorem meshes_without_processors (x : EntityIndex) (item : Entity) :
    meshes { processors := [] } x item 32 = .error (.unsupportedType item.type.name) := by
  have hnone : ({ processors := [] } : Kernel).processor? item.type = none := by
    simp [Kernel.processor?]
  rw [meshes_eq_rule, rule, if_neg (by decide), processWith, hnone]

/-- A shape of itself is unsupported at every depth where no items are processed, and has no meshes
where all are. -/
theorem meshes_nesting_mirror :
    let x := EntityIndex.ofContent (file [mirror, mirrorSource, mirrorShape])
    let item := mirror.entity
    Holds x item item ∧
      meshes { processors := [] } x item 0 = .error (.unsupportedType item.type.name) ∧
      ∀ ms, meshes {} x item 0 ≠ .ok ms := by
  intro x item
  have hholds : Holds x item item := holds_mirror fun _ => Model.get?_file (by decide)
  have hdeep := meshes_without_processors x item
  have hsame := (meshes_nesting { processors := [] } x).1 item 32 0 (by decide)
    (by rw [hdeep]; exact nofun)
  exact ⟨hholds, hsame.trans hdeep, fun ms => (meshes_nesting {} x).2.1 item (.single hholds) 0 ms⟩

end BuildingModel.Geometry
