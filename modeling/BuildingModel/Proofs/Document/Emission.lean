import BuildingModel.Document.Fragment
import Mathlib.Data.List.Basic

/-!
# Emitted corners

The corners of the loops of an item are emitted one after the other. Whether or not corners share
vertices, the vertex of a corner has the bits of the corner (`corners_itemMesh`). So the meshes with
and without sharing say the same of any shape (`fragment_shared_agrees`), whatever is wrong with its
half-edges: what a face is is decided before its corners are emitted.

Where vertices are shared, the positions seen are those of the vertices (`Emission.Linked`); where
they are not, the corners are numbered in order (`Emission.loop_of_not_shared`).
-/

namespace BuildingModel.Document

open BuildingModel.Geometry

namespace Emission

variable {w : Emission}

/-! ## One corner -/

/-- The positions seen are those of the vertices, if vertices are shared. -/
def Linked (w : Emission) : Prop :=
  w.shared = true → ∀ k i, w.seen.lookup k = some i ↔ (w.vertices[i]?).map bits = some k

/-- The vertices of an emission are the first ones of a later one. -/
def Extends (w' w : Emission) : Prop :=
  ∃ ps, w'.vertices = w.vertices ++ ps

theorem Extends.refl (w : Emission) : w.Extends w :=
  ⟨#[], Array.append_empty.symm⟩

theorem Extends.trans {w' w'' : Emission} (h' : w''.Extends w') (h : w'.Extends w) :
    w''.Extends w := by
  obtain ⟨ps, hps⟩ := h
  obtain ⟨qs, hqs⟩ := h'
  exact ⟨ps ++ qs, by rw [hqs, hps, Array.append_assoc]⟩

/-- A vertex stays the same. -/
theorem Extends.map_bits {w' : Emission} (h : w'.Extends w) {i : Nat}
    {k : UInt64 × UInt64 × UInt64} (hi : (w.vertices[i]?).map bits = some k) :
    (w'.vertices[i]?).map bits = some k := by
  obtain ⟨ps, hps⟩ := h
  obtain ⟨q, hq, rfl⟩ := Option.map_eq_some_iff.1 hi
  rw [hps, Array.getElem?_append_left (Array.getElem?_eq_some_iff.1 hq).1, hq]
  rfl

/-- A corner has a vertex already, or it gets one behind the others. -/
theorem corner_cases (w : Emission) (p : Vec3 Float) :
    (∃ i, w.shared = true ∧ w.seen.lookup (bits p) = some i ∧ w.corner p = (i, w)) ∨
      ∃ seen, w.corner p =
          (w.vertices.size, { w with seen := seen, vertices := w.vertices.push p }) ∧
        (w.shared = true → w.seen.lookup (bits p) = none ∧
          seen = (bits p, w.vertices.size) :: w.seen) := by
  cases hs : w.shared with
  | false => exact .inr ⟨w.seen, by simp [corner, hs], by simp⟩
  | true =>
    cases hl : w.seen.lookup (bits p) with
    | some i => exact .inl ⟨i, rfl, rfl, by simp [corner, hs, hl]⟩
    | none => exact .inr ⟨_, by simp [corner, hs, hl], fun _ => ⟨rfl, rfl⟩⟩

theorem shared_corner (w : Emission) (p : Vec3 Float) : (w.corner p).2.shared = w.shared := by
  obtain ⟨i, -, -, hc⟩ | ⟨seen, hc, -⟩ := w.corner_cases p <;> rw [hc]

theorem extends_corner (w : Emission) (p : Vec3 Float) : (w.corner p).2.Extends w := by
  obtain ⟨i, -, -, hc⟩ | ⟨seen, hc, -⟩ := w.corner_cases p
  · rw [hc]
    exact .refl w
  · rw [hc]
    exact ⟨#[p], rfl⟩

/-- The vertex of a corner has its bits. -/
theorem Linked.map_bits_corner (h : w.Linked) (p : Vec3 Float) :
    ((w.corner p).2.vertices[(w.corner p).1]?).map bits = some (bits p) := by
  obtain ⟨i, hs, hi, hc⟩ | ⟨seen, hc, -⟩ := w.corner_cases p
  · rw [hc]
    exact (h hs _ _).1 hi
  · rw [hc, Array.getElem?_push_size]
    rfl

theorem Linked.corner (h : w.Linked) (p : Vec3 Float) : (w.corner p).2.Linked := by
  obtain ⟨i, -, -, hc⟩ | ⟨seen, hc, hnew⟩ := w.corner_cases p
  · rwa [hc]
  · rw [hc]
    intro hs k i
    obtain ⟨hnone, rfl⟩ := hnew hs
    have hold := h hs k i
    rw [List.lookup_cons, Array.getElem?_push]
    by_cases hk : k = bits p
    · -- Before, no vertex had the bits of the corner.
      subst hk
      rw [hnone] at hold
      by_cases hi : i = w.vertices.size
      · simp [hi]
      · simpa [hi, eq_comm] using hold
    · by_cases hi : i = w.vertices.size
      · rw [hi, Array.getElem?_eq_none (Nat.le_refl _)] at hold
        simpa [beq_false_of_ne hk, hi, Ne.symm hk] using hold
      · simpa [beq_false_of_ne hk, hi] using hold

/-- Where vertices are shared, no two of them have the same bits. -/
theorem Linked.nodup_bits (h : w.Linked) (hs : w.shared = true) :
    (w.vertices.toList.map bits).Nodup := by
  refine List.pairwise_iff_getElem.2 fun i j hi hj hij heq => Nat.ne_of_lt hij ?_
  rw [List.length_map, Array.length_toList] at hi hj
  rw [List.getElem_map, List.getElem_map, Array.getElem_toList, Array.getElem_toList] at heq
  have hi' := (h hs (bits w.vertices[i]) i).2 (by rw [Array.getElem?_eq_getElem hi]; rfl)
  have hj' := (h hs (bits w.vertices[i]) j).2 (by rw [Array.getElem?_eq_getElem hj, heq]; rfl)
  exact Option.some.inj (hi'.symm.trans hj')

/-! ## Loops -/

theorem loop_cons (w : Emission) (p : Vec3 Float) (ps : List (Vec3 Float)) :
    w.loop (p :: ps) = ((w.corner p).1 :: ((w.corner p).2.loop ps).1, ((w.corner p).2.loop ps).2) :=
  rfl

theorem loop_append (w : Emission) (ps qs : List (Vec3 Float)) :
    w.loop (ps ++ qs) = ((w.loop ps).1 ++ ((w.loop ps).2.loop qs).1, ((w.loop ps).2.loop qs).2) := by
  induction ps generalizing w with
  | nil => rfl
  | cons p ps ih => rw [List.cons_append, loop_cons, ih, loop_cons, List.cons_append]

theorem extends_loop (w : Emission) (ps : List (Vec3 Float)) : (w.loop ps).2.Extends w := by
  induction ps generalizing w with
  | nil => exact .refl w
  | cons p ps ih => exact (ih _).trans (w.extends_corner p)

theorem shared_loop (w : Emission) (ps : List (Vec3 Float)) :
    (w.loop ps).2.shared = w.shared := by
  induction ps generalizing w with
  | nil => rfl
  | cons p ps ih => exact (ih _).trans (w.shared_corner p)

theorem Linked.loop (h : w.Linked) (ps : List (Vec3 Float)) : (w.loop ps).2.Linked := by
  induction ps generalizing w with
  | nil => exact h
  | cons p ps ih => exact ih (h.corner p)

/-- In any later emission, the vertices of a loop have the bits of its corners. -/
theorem Linked.map_bits_loop (h : w.Linked) (ps : List (Vec3 Float)) {w' : Emission}
    (h' : w'.Extends (w.loop ps).2) :
    (w.loop ps).1.map (fun i => (w'.vertices[i]?).map bits) = ps.map fun p => some (bits p) := by
  induction ps generalizing w with
  | nil => rfl
  | cons p ps ih =>
    rw [loop_cons, List.map_cons, List.map_cons, ih (h.corner p) h']
    exact congrArg (· :: _) ((h'.trans (extends_loop _ ps)).map_bits (h.map_bits_corner p))

/-- A loop gets no vertices but those of its corners. -/
theorem lt_or_mem_loop {ps : List (Vec3 Float)} {i : Nat}
    (hi : i < (w.loop ps).2.vertices.size) : i < w.vertices.size ∨ i ∈ (w.loop ps).1 := by
  induction ps generalizing w with
  | nil => exact .inl hi
  | cons p ps ih =>
    rw [loop_cons] at hi ⊢
    rcases ih hi with h | h
    · obtain ⟨j, -, -, hc⟩ | ⟨seen, hc, -⟩ := w.corner_cases p
      · rw [hc] at h
        exact .inl h
      · rw [hc, Array.size_push] at h
        rw [hc]
        rcases Nat.lt_or_eq_of_le (Nat.le_of_lt_succ h) with h | rfl
        · exact .inl h
        · exact .inr List.mem_cons_self
    · exact .inr (List.mem_cons_of_mem _ h)

/-- Without sharing, the corners of a loop are numbered in order, and each has its vertex. -/
theorem loop_of_not_shared (h : w.shared = false) (ps : List (Vec3 Float)) :
    (w.loop ps).1 = List.range' w.vertices.size ps.length ∧
      (w.loop ps).2.vertices.size = w.vertices.size + ps.length := by
  induction ps generalizing w with
  | nil => exact ⟨rfl, rfl⟩
  | cons p ps ih =>
    obtain ⟨i, hs, -⟩ | ⟨seen, hc, -⟩ := w.corner_cases p
    · rw [h] at hs
      cases hs
    · have hw : (w.corner p).2.shared = false := by rw [shared_corner, h]
      obtain ⟨hrange, hsize⟩ := ih hw
      rw [hc, Array.size_push] at hrange hsize
      rw [loop_cons, hc]
      refine ⟨?_, ?_⟩
      · rw [hrange, List.length_cons, List.range'_succ]
      · rw [hsize, List.length_cons, Nat.add_assoc, Nat.add_comm 1]

/-! ## Several loops -/

theorem loops_cons (w : Emission) (l : List (Vec3 Float)) (ls : List (List (Vec3 Float))) :
    w.loops (l :: ls) = ((w.loop l).1 :: ((w.loop l).2.loops ls).1, ((w.loop l).2.loops ls).2) :=
  rfl

/-- Several loops are emitted like one loop with all their corners. -/
theorem loops_flatten (w : Emission) (ls : List (List (Vec3 Float))) :
    (w.loops ls).1.flatten = (w.loop ls.flatten).1 ∧ (w.loops ls).2 = (w.loop ls.flatten).2 := by
  induction ls generalizing w with
  | nil => exact ⟨rfl, rfl⟩
  | cons l ls ih =>
    obtain ⟨hfaces, hafter⟩ := ih (w.loop l).2
    rw [loops_cons, List.flatten_cons, List.flatten_cons, loop_append]
    exact ⟨congrArg _ hfaces, hafter⟩

/-- The vertices of several loops have the bits of their corners. -/
theorem Linked.map_bits_loops (h : w.Linked) (ls : List (List (Vec3 Float))) {w' : Emission}
    (h' : w'.Extends (w.loops ls).2) :
    (w.loops ls).1.map (·.map fun i => (w'.vertices[i]?).map bits) =
      ls.map (·.map fun p => some (bits p)) := by
  induction ls generalizing w with
  | nil => rfl
  | cons l ls ih =>
    have hlater : w'.Extends (w.loop l).2 := by
      refine h'.trans ?_
      rw [loops_cons, (loops_flatten _ ls).2]
      exact extends_loop _ _
    rw [loops_cons, List.map_cons, List.map_cons, ih (h.loop l) h', h.map_bits_loop l hlater]

/-- The emission that the mesh of an item starts with. -/
def fresh (shared : Bool) : Emission where
  shared := shared

theorem linked_fresh (shared : Bool) : (fresh shared).Linked := by
  intro _ k i
  simp [fresh]

end Emission

/-! ## Meshes of items -/

/-- The bits of the vertices that the faces list. -/
def MeshFragment.corners (m : MeshFragment) : List (List (Option (UInt64 × UInt64 × UInt64))) :=
  m.faces.map (·.map fun i => (m.vertices[i]?).map bits)

variable (shared : Bool) (i : ShapeItem)

theorem itemMesh_eq : itemMesh shared i =
    ⟨((Emission.fresh shared).loops (itemLoops i)).2.vertices,
      ((Emission.fresh shared).loops (itemLoops i)).1⟩ :=
  rfl

/-- The vertices of the faces of an item have the bits of the corners of its loops. -/
theorem corners_itemMesh :
    (itemMesh shared i).corners = (itemLoops i).map (·.map fun p => some (bits p)) :=
  (Emission.linked_fresh shared).map_bits_loops (itemLoops i) (.refl _)

/-- The faces of an item have as many corners as its loops. -/
theorem map_length_faces_itemMesh :
    (itemMesh shared i).faces.map List.length = (itemLoops i).map List.length := by
  have h := congrArg (List.map List.length) (corners_itemMesh shared i)
  simpa [MeshFragment.corners, Function.comp_def] using h

/-- The faces of an item list vertices of its mesh. -/
theorem lt_of_mem_faces_itemMesh {f : List Nat} (hf : f ∈ (itemMesh shared i).faces) {v : Nat}
    (hv : v ∈ f) : v < (itemMesh shared i).vertices.size := by
  have hcorners : f.map (fun v => ((itemMesh shared i).vertices[v]?).map bits) ∈
      (itemMesh shared i).corners := List.mem_map_of_mem hf
  rw [corners_itemMesh] at hcorners
  obtain ⟨ps, -, hps⟩ := List.mem_map.1 hcorners
  have hmem := List.mem_map_of_mem (f := fun v => ((itemMesh shared i).vertices[v]?).map bits) hv
  rw [← hps] at hmem
  obtain ⟨p, -, hp⟩ := List.mem_map.1 hmem
  obtain ⟨q, hq, -⟩ := Option.map_eq_some_iff.1 hp.symm
  exact (Array.getElem?_eq_some_iff.1 hq).1

/-- Every vertex of the mesh of an item is listed by a face. -/
theorem exists_mem_faces_itemMesh {v : Nat} (hv : v < (itemMesh shared i).vertices.size) :
    ∃ f ∈ (itemMesh shared i).faces, v ∈ f := by
  rw [itemMesh_eq, (Emission.loops_flatten _ _).2] at hv
  rw [← List.mem_flatten, itemMesh_eq, (Emission.loops_flatten _ _).1]
  exact (Emission.lt_or_mem_loop hv).resolve_left (Nat.not_lt_zero v)

/-- Without sharing, the faces of an item number its vertices in order. -/
theorem flatten_faces_itemMesh :
    (itemMesh false i).faces.flatten = List.range (itemMesh false i).vertices.size := by
  obtain ⟨hrange, hsize⟩ := Emission.loop_of_not_shared (w := Emission.fresh false) rfl
    (itemLoops i).flatten
  rw [itemMesh_eq, (Emission.loops_flatten _ _).1, (Emission.loops_flatten _ _).2, hrange, hsize,
    List.range_eq_range']
  simp [Emission.fresh]

/-- Where vertices are shared, no two vertices of the mesh of an item have the same bits. -/
theorem nodup_bits_itemMesh : ((itemMesh true i).vertices.toList.map bits).Nodup := by
  rw [itemMesh_eq, (Emission.loops_flatten _ _).2]
  refine ((Emission.linked_fresh true).loop _).nodup_bits ?_
  rw [Emission.shared_loop]
  rfl

end BuildingModel.Document
