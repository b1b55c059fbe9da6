import BuildingModel.Document.Arena
import BuildingModel.Document.Node

/-!
# Walks

A walk converts everything that can be reached from its roots, each instance once, going down
before going on. The links it follows need not form a tree: an instance is converted where it is
met first, and one that has no entity leads nowhere. What is still to be met is kept on a stack,
so deep structures cost no depth of calls. An instance may be on the stack several times; all but
the first time it is passed over.
-/

namespace BuildingModel.Document

/-- A set of instances. -/
abbrev InstanceSet := Std.TreeSet EntityId compare

/-- Fewer instances of a list are not in a set once one of them is put into it. -/
theorem InstanceSet.countP_insert_lt {ids : List EntityId} {set : InstanceSet} {id : EntityId}
    (hids : id ∈ ids) (hset : id ∉ set) :
    ids.countP (!(set.insert id).contains ·) < ids.countP (!set.contains ·) := by
  obtain ⟨l, r, rfl⟩ := List.append_of_mem hids
  have hmono (is : List EntityId) :
      is.countP (!(set.insert id).contains ·) ≤ is.countP (!set.contains ·) := by
    refine List.countP_mono_left fun i _ hi => ?_
    simp only [Std.TreeSet.contains_insert] at hi
    simp_all
  have hbefore : set.contains id = false :=
    Bool.eq_false_iff.2 (mt Std.TreeSet.contains_iff_mem.1 hset)
  have hafter : (set.insert id).contains id = true := Std.TreeSet.contains_insert_self
  have hl := hmono l
  have hr := hmono r
  simp only [List.countP_append, List.countP_cons, hbefore, hafter, Bool.not_false, Bool.not_true,
    if_true, Bool.false_eq_true, if_false]
  omega

namespace NodeSource

/-- The node of an instance that was not converted before, with the instances converted after it.
-/
def convert (s : NodeSource) (converted : InstanceSet) (id : EntityId) :
    Option Node × InstanceSet :=
  match s.model.get? id with
  | none => (none, converted)
  | some e =>
    if converted.contains e.id then (none, converted)
    else (some (s.node e), converted.insert e.id)

/-- The children of an instance that are not converted. -/
def pending (s : NodeSource) (converted : InstanceSet) (id : EntityId) : List EntityId :=
  (s.model.children id).filter (!converted.contains ·)

/-- How many entities are not converted. -/
def left (s : NodeSource) (converted : InstanceSet) : Nat :=
  ((s.model.index.ids.filterMap s.model.get?).map Entity.id).countP (!converted.contains ·)

theorem convert_none {s : NodeSource} {converted after : InstanceSet} {id : EntityId}
    (h : s.convert converted id = (none, after)) : after = converted := by
  rw [convert] at h
  split at h
  · cases h; rfl
  · split at h
    · cases h; rfl
    · cases h

/-- Whenever an instance is converted, fewer entities are left. -/
theorem left_lt {s : NodeSource} {converted after : InstanceSet} {id : EntityId} {n : Node}
    (h : s.convert converted id = (some n, after)) : s.left after < s.left converted := by
  rw [convert] at h
  split at h
  · cases h
  next e he =>
    split at h
    · cases h
    next hc =>
      cases h
      have hids := List.mem_filterMap.2 ⟨id, EntityIndex.mem_ids_of_get? he, he⟩
      exact InstanceSet.countP_insert_lt (List.mem_map_of_mem hids) (by simpa using hc)

/-- The nodes of a walk with instances on its stack. -/
def walk (s : NodeSource) (converted : InstanceSet) : (stack : List EntityId) → List Node
  | [] => []
  | id :: stack =>
    if converted.contains id then s.walk converted stack
    else
      match _h : s.convert converted id with
      | (none, converted) => s.walk converted stack
      | (some n, converted) => n :: s.walk converted (s.pending converted id ++ stack)
termination_by stack => (s.left converted, stack.length)
decreasing_by
  · exact Prod.Lex.right _ (by simp)
  · rw [convert_none _h]
    exact Prod.Lex.right _ (by simp)
  · exact Prod.Lex.left _ _ (left_lt _h)

/-- The arena of a walk with instances on its stack, each with the slot that it was met from. -/
def grow (s : NodeSource) (converted : InstanceSet) (arena : Arena Node) :
    (stack : List (EntityId × Option Nat)) → Arena Node
  | [] => arena
  | (id, parent) :: stack =>
    match _h : s.convert converted id with
    | (none, converted) => s.grow converted arena stack
    | (some n, converted) =>
      let children := (s.pending converted id).map fun child => (child, some arena.size)
      s.grow converted (arena.hang parent n) (children ++ stack)
termination_by stack => (s.left converted, stack.length)
decreasing_by
  · rw [convert_none _h]
    exact Prod.Lex.right _ (by simp)
  · exact Prod.Lex.left _ _ (left_lt _h)

/-- The nodes that can be reached from roots. -/
def list (s : NodeSource) (roots : List EntityId) : List Node :=
  s.walk {} roots

/-- The nodes that can be reached from a root, each under the one it was met from. -/
def tree? (s : NodeSource) (root : EntityId) : Option (Tree Node) :=
  (s.grow {} #[] [(root, none)]).tree?

end NodeSource

end BuildingModel.Document
