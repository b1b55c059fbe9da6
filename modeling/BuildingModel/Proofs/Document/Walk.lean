import BuildingModel.Document.Walk
import BuildingModel.Proofs.Model.RoundTrip

/-!
# What a walk reaches

An instance is *reachable* (`Reachable`) from roots if links lead to it from one of them, and
nothing on the way is forbidden. A walk that is under way meets what is reachable from its stack
through instances that have an entity and are not converted yet (`NodeSource.Fresh`).

* `reachable_cons_iff`: what is reachable from a root on top of others is the root, or reachable
  from its children and the others without passing the root again;
* `NodeSource.mem_walk_iff`: the step of the walk follows that step of reachability.

All of it is about models whose entities have the names that they are found under (`Model.Named`),
as those of files do.
-/

namespace BuildingModel.Document

/-! ## Reachability -/

section

variable {children : EntityId → List EntityId} {allowed : EntityId → Prop}

variable (children allowed) in
/-- An instance that links lead to from one of the roots, all instances on the way being allowed,
the root and the end among them. -/
inductive Reachable (roots : List EntityId) : EntityId → Prop
  /-- A root. -/
  | root {id : EntityId} : id ∈ roots → allowed id → Reachable roots id
  /-- A child of an instance that is reachable. -/
  | child {parent id : EntityId} :
    Reachable roots parent → id ∈ children parent → allowed id → Reachable roots id

theorem Reachable.allowed_end {roots : List EntityId} {id : EntityId}
    (h : Reachable children allowed roots id) : allowed id := by
  cases h with
  | root _ ha => exact ha
  | child _ _ ha => exact ha

/-- More is reachable from more roots through more instances. -/
theorem Reachable.mono {more : EntityId → Prop} {roots others : List EntityId} {id : EntityId}
    (hroots : ∀ i ∈ roots, allowed i → i ∈ others) (hmore : ∀ i, allowed i → more i)
    (h : Reachable children allowed roots id) : Reachable children more others id := by
  induction h with
  | root hr ha => exact .root (hroots _ hr ha) (hmore _ ha)
  | child _ hc ha ih => exact .child ih hc (hmore _ ha)

/-- Roots count as far as they are allowed. -/
theorem reachable_congr {roots others : List EntityId} {id : EntityId}
    (h : ∀ i, allowed i → (i ∈ roots ↔ i ∈ others)) :
    Reachable children allowed roots id ↔ Reachable children allowed others id :=
  ⟨.mono (fun i hi ha => (h i ha).1 hi) fun _ ha => ha,
    .mono (fun i hi ha => (h i ha).2 hi) fun _ ha => ha⟩

/-- What is reachable from roots is reachable from one of them. -/
theorem reachable_iff_exists_root {roots : List EntityId} {id : EntityId} :
    Reachable children allowed roots id ↔ ∃ r ∈ roots, Reachable children allowed [r] id := by
  constructor
  · intro h
    induction h with
    | root hr ha => exact ⟨_, hr, .root List.mem_cons_self ha⟩
    | child _ hc ha ih =>
      obtain ⟨r, hr, hp⟩ := ih
      exact ⟨r, hr, .child hp hc ha⟩
  · rintro ⟨r, hr, h⟩
    exact h.mono (fun i hi _ => List.mem_singleton.1 hi ▸ hr) fun _ ha => ha

/-- What is reachable from a root and others is the root, or it is reachable from the children of
the root and the others without passing the root. -/
theorem reachable_cons_iff {root id : EntityId} {others : List EntityId} (h : allowed root) :
    Reachable children allowed (root :: others) id ↔
      id = root ∨
        Reachable children (fun i => allowed i ∧ i ≠ root) (children root ++ others) id := by
  constructor
  · intro hr
    induction hr with
    | @root i hi ha =>
      by_cases he : i = root
      · exact .inl he
      · have hi' := (List.mem_cons.1 hi).resolve_left he
        exact .inr (.root (List.mem_append_right _ hi') ⟨ha, he⟩)
    | @child p i _ hi ha ih =>
      by_cases he : i = root
      · exact .inl he
      · rcases ih with rfl | hp
        · -- What leads to the root is not needed: its children are roots now.
          exact .inr (.root (List.mem_append_left _ hi) ⟨ha, he⟩)
        · exact .inr (.child hp hi ⟨ha, he⟩)
  · rintro (rfl | hr)
    · exact .root List.mem_cons_self h
    · induction hr with
      | root hi ha =>
        rcases List.mem_append.1 hi with hi | hi
        · exact .child (.root List.mem_cons_self h) hi ha.1
        · exact .root (List.mem_cons_of_mem _ hi) ha.1
      | child _ hi ha ih => exact .child ih hi ha.1

end

/-! ## Steps of a walk -/

namespace NodeSource

variable {s : NodeSource} {converted : InstanceSet} {id : EntityId}

/-- An instance has an entity that is not converted yet. -/
def Fresh (s : NodeSource) (converted : InstanceSet) (id : EntityId) : Prop :=
  s.model.Resolves id ∧ id ∉ converted

theorem fresh_empty : s.Fresh {} = s.model.Resolves :=
  funext fun _ => propext (and_iff_left Std.TreeSet.not_mem_emptyc)

/-- What is converted is not fresh any more. -/
theorem fresh_insert :
    s.Fresh (converted.insert id) = fun i => s.Fresh converted i ∧ i ≠ id := by
  funext i
  rw [Fresh, Fresh, Std.TreeSet.mem_insert, Std.LawfulEqCmp.compare_eq_iff_eq, not_or, and_assoc,
    and_comm (b := i ≠ id), ne_comm]

theorem mem_pending {i : EntityId} :
    i ∈ s.pending converted id ↔ i ∈ s.model.children id ∧ i ∉ converted := by
  rw [pending, List.mem_filter, Bool.not_eq_true', ← Bool.not_eq_true,
    Std.TreeSet.contains_iff_mem]

theorem convert_of_fresh (hs : s.model.Named) (h : s.Fresh converted id) :
    ∃ n, s.node? id = some n ∧ n.id = id ∧
      s.convert converted id = (some n, converted.insert id) := by
  obtain ⟨e, he⟩ := Option.isSome_iff_exists.1 h.1
  have hid := hs id e he
  refine ⟨s.node e, by rw [node?, he]; rfl, hid, ?_⟩
  rw [convert, he]
  simp [hid, h.2]

theorem convert_of_not_fresh (hs : s.model.Named) (h : ¬ s.Fresh converted id) :
    s.convert converted id = (none, converted) := by
  rw [convert]
  split
  · rfl
  next e he =>
    have hid := hs id e he
    have hmem : id ∈ converted := Classical.not_not.1 fun hc => h ⟨Option.isSome_of_eq_some he, hc⟩
    simp [hid, hmem]

/-- A single conversion makes the node of what has an entity. -/
theorem convert_empty (id : EntityId) : (s.convert {} id).1 = s.node? id := by
  rw [convert, node?]
  cases s.model.get? id with
  | none => rfl
  | some e => simp

theorem walk_nil : s.walk converted [] = [] := by
  rw [walk]

/-- What is not fresh is passed over. -/
theorem walk_of_not_fresh (hs : s.model.Named) (h : ¬ s.Fresh converted id)
    (stack : List EntityId) : s.walk converted (id :: stack) = s.walk converted stack := by
  rw [walk]
  split
  · rfl
  · split
    next hc => rw [convert_of_not_fresh hs h] at hc; cases hc; rfl
    next hc => rw [convert_of_not_fresh hs h] at hc; cases hc

/-- What is fresh is converted, and its children come next. -/
theorem walk_of_fresh (hs : s.model.Named) (h : s.Fresh converted id) (stack : List EntityId) :
    ∃ n, s.node? id = some n ∧ n.id = id ∧ s.walk converted (id :: stack) =
      n :: s.walk (converted.insert id) (s.pending (converted.insert id) id ++ stack) := by
  obtain ⟨n, hn, hid, hconvert⟩ := convert_of_fresh hs h
  refine ⟨n, hn, hid, ?_⟩
  rw [walk, if_neg (mt Std.TreeSet.contains_iff_mem.1 h.2)]
  split
  next hc => rw [hconvert] at hc; cases hc
  next hc => rw [hconvert] at hc; cases hc; rfl

theorem left_insert_lt (hs : s.model.Named) (h : s.Fresh converted id) :
    s.left (converted.insert id) < s.left converted :=
  let ⟨_, _, _, hconvert⟩ := convert_of_fresh hs h
  left_lt hconvert

/-- A walk ends, or passes over what is on top of its stack, or converts it. -/
theorem walk_induction (hs : s.model.Named) {motive : InstanceSet → List EntityId → Prop}
    (nil : ∀ c, motive c [])
    (skip : ∀ c id stack, ¬ s.Fresh c id → motive c stack → motive c (id :: stack))
    (visit : ∀ c id stack, s.Fresh c id →
      motive (c.insert id) (s.pending (c.insert id) id ++ stack) → motive c (id :: stack)) :
    ∀ converted stack, motive converted stack
  | c, [] => nil c
  | c, id :: stack => by
    by_cases h : s.Fresh c id
    · exact visit c id stack h (walk_induction hs nil skip visit _ _)
    · exact skip c id stack h (walk_induction hs nil skip visit _ _)
termination_by c stack => (s.left c, stack.length)
decreasing_by
  · exact Prod.Lex.left _ _ (left_insert_lt hs h)
  · exact Prod.Lex.right _ (by simp)

/-! ## What is reached -/

/-- A walk converts what is reachable from its stack through fresh instances. -/
theorem mem_walk_iff (hs : s.model.Named) (converted : InstanceSet) (stack : List EntityId) :
    ∀ i, i ∈ (s.walk converted stack).map Node.id ↔
      Reachable s.model.children (s.Fresh converted) stack i := by
  induction converted, stack using walk_induction hs with
  | nil c =>
    intro i
    rw [walk_nil]
    refine ⟨fun h => absurd h List.not_mem_nil, fun h => ?_⟩
    induction h with
    | root hi _ => cases hi
    | child _ _ _ ih => cases ih
  | skip c id stack h ih =>
    intro i
    rw [walk_of_not_fresh hs h, ih]
    refine reachable_congr fun j hj => (List.mem_cons.trans (or_iff_right ?_)).symm
    rintro rfl
    exact h hj
  | visit c id stack h ih =>
    intro i
    obtain ⟨n, -, hid, hwalk⟩ := walk_of_fresh hs h stack
    rw [hwalk, List.map_cons, List.mem_cons, ih, hid, reachable_cons_iff h]
    refine or_congr_right ?_
    -- The children that are left out of the stack are those that are not fresh.
    rw [← fresh_insert]
    refine reachable_congr fun j hj => ?_
    rw [List.mem_append, List.mem_append, mem_pending, and_iff_left hj.2]

/-- A walk converts no instance twice. -/
theorem nodup_walk (hs : s.model.Named) (converted : InstanceSet) (stack : List EntityId) :
    ((s.walk converted stack).map Node.id).Nodup := by
  induction converted, stack using walk_induction hs with
  | nil c => rw [walk_nil]; exact List.nodup_nil
  | skip c id stack h ih => rwa [walk_of_not_fresh hs h]
  | visit c id stack h ih =>
    obtain ⟨n, -, hid, hwalk⟩ := walk_of_fresh hs h stack
    rw [hwalk, List.map_cons, hid]
    refine List.nodup_cons.2 ⟨fun hmem => ?_, ih⟩
    have hid := ((mem_walk_iff hs _ _ id).1 hmem).allowed_end
    rw [fresh_insert] at hid
    exact hid.2 rfl

/-- Which instances a walk converts does not depend on what their nodes are made from. -/
theorem map_id_walk_congr {t : NodeSource} (hs : s.model.Named) (h : t.model = s.model)
    (converted : InstanceSet) (stack : List EntityId) :
    (t.walk converted stack).map Node.id = (s.walk converted stack).map Node.id := by
  have ht : t.model.Named := h ▸ hs
  have hfresh (c : InstanceSet) : t.Fresh c = s.Fresh c := by
    funext id
    rw [Fresh, Fresh, h]
  induction converted, stack using walk_induction hs with
  | nil c => rw [walk_nil, walk_nil]
  | skip c id stack hid ih =>
    rwa [walk_of_not_fresh hs hid, walk_of_not_fresh ht (by rwa [hfresh])]
  | visit c id stack hid ih =>
    obtain ⟨n, -, hn, hwalk⟩ := walk_of_fresh hs hid stack
    obtain ⟨n', -, hn', hwalk'⟩ := walk_of_fresh ht ((hfresh c).symm ▸ hid) stack
    have hpending : t.pending (c.insert id) id = s.pending (c.insert id) id := by
      rw [pending, pending, h]
    rw [hwalk, hwalk', hpending, List.map_cons, List.map_cons, hn, hn', ih]

/-- The nodes of a list are distinct instances, and they are those that can be reached from its
roots through instances that all have an entity. -/
theorem nodup_list_and_mem_list_iff {content : String} {withProperties : Bool} (s : NodeSource)
    (h : Model.load content withProperties = .ok s.model) (roots : List EntityId) :
    ((s.list roots).map Node.id).Nodup ∧ ∀ id, id ∈ (s.list roots).map Node.id ↔
      Reachable s.model.children s.model.Resolves roots id := by
  have hs := Model.named_of_load h
  refine ⟨nodup_walk hs {} roots, fun id => ?_⟩
  rw [list, mem_walk_iff hs, fresh_empty]

/-- Roots may be missing or repeat. -/
theorem list_elementStorey :
    ∃ s : NodeSource, Model.load (Step.file [Model.elementStorey]) = .ok s.model ∧
      (s.list [7, 1, 1]).map Node.id = [1] := by
  obtain ⟨m, hm, -, hresolves⟩ := Model.exists_load_singleton Model.elementStorey
  obtain ⟨hnodup, hmem⟩ := nodup_list_and_mem_list_iff { model := m } hm [7, 1, 1]
  refine ⟨{ model := m }, hm,
    List.perm_singleton.1 ((List.perm_ext_iff_of_nodup hnodup (by decide)).2 fun id => ?_)⟩
  rw [hmem, List.mem_singleton]
  constructor
  · exact fun hid => (hresolves id).1 hid.allowed_end
  · rintro rfl
    exact .root (by decide) ((hresolves 1).2 rfl)

end NodeSource

end BuildingModel.Document
