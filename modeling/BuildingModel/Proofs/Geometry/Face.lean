import BuildingModel.Proofs.Geometry.Cycle
import BuildingModel.Proofs.Geometry.Weld
import Mathlib.Logic.ExistsUnique
import Mathlib.Logic.Function.Iterate

/-!
# Faces as loops of half-edges

In a well-formed mesh the loop of every face closes after as many edges as the face has, all of them
different, and every edge is on the loop of one face. Adding a face keeps this
(`WellFormed.addFace`): the new edges run in a circle of their own, and the old ones lead where they
led before.
-/

namespace BuildingModel.Geometry.Mesh

variable {K : Type}

/-! ## Walking along loops -/

/-- The edge after an edge; an edge that does not exist leads to itself. -/
def next (m : Mesh K) (e : Nat) : Nat :=
  (m.edges[e]?).elim e HalfEdge.next

/-- The edge is met on the way from the start of the numbered face around its loop. -/
def OnFace (m : Mesh K) (e k : Nat) : Prop :=
  ∃ f s i, m.faces[k]? = some f ∧ f.start = some s ∧ i < f.size ∧ m.next^[i] s = e

/-- A face is a closed loop: it has a start and three edges at least, and who follows `next` from
the start meets as many different edges as the face has before the start is met again. -/
def IsLoop (m : Mesh K) (f : Face) : Prop :=
  ∃ s, f.start = some s ∧ s < m.edges.size ∧ 3 ≤ f.size ∧ m.next^[f.size] s = s ∧
    ∀ i < f.size, ∀ j < f.size, m.next^[i] s = m.next^[j] s → i = j

/-- What a mesh has to be for its faces to be polygons. -/
structure WellFormed (m : Mesh K) : Prop where
  /-- Edges start at vertices. -/
  origin_lt : ∀ e ∈ m.edges, e.origin < m.vertices.size
  /-- Edges lead to edges. -/
  next_lt : ∀ e ∈ m.edges, e.next < m.edges.size
  /-- Edges lead to other vertices. -/
  origin_ne : ∀ e ∈ m.edges, ∀ e', m.edges[e.next]? = some e' → e'.origin ≠ e.origin
  /-- Faces are closed loops. -/
  isLoop : ∀ f ∈ m.faces, m.IsLoop f
  /-- Every edge is on the loop of one face. -/
  existsUnique_onFace : ∀ e < m.edges.size, ∃! k, m.OnFace e k

theorem next_eq {m : Mesh K} {e : Nat} {edge : HalfEdge} (h : m.edges[e]? = some edge) :
    m.next e = edge.next := by
  rw [next, h]
  rfl

/-- From an edge, only edges are reached. -/
theorem WellFormed.iterate_next_lt {m : Mesh K} (h : m.WellFormed) {e : Nat}
    (he : e < m.edges.size) (i : Nat) : m.next^[i] e < m.edges.size := by
  induction i generalizing e with
  | zero => exact he
  | succ i ih =>
    rw [Function.iterate_succ_apply]
    refine ih ?_
    rw [next_eq (Array.getElem?_eq_getElem he)]
    exact h.next_lt _ (Array.getElem_mem he)

/-! ## The edges of a new face -/

section

variable (m : Mesh K) (cs : List Nat)

theorem length_loopEdges (first : Nat) : (loopEdges first cs).length = cs.length := by
  simp [loopEdges]

theorem size_edges_addFace : (m.addFace cs).edges.size = m.edges.size + cs.length := by
  simp [addFace, length_loopEdges]

variable {m cs}

theorem edges_addFace_of_lt {e : Nat} (h : e < m.edges.size) :
    (m.addFace cs).edges[e]? = m.edges[e]? :=
  Array.getElem?_append_left h

theorem edges_addFace_add {i : Nat} (h : i < cs.length) :
    (m.addFace cs).edges[m.edges.size + i]? =
      some ⟨cs[i], m.edges.size + (i + 1) % cs.length⟩ := by
  rw [addFace, Array.getElem?_append_right (Nat.le_add_right _ _), Nat.add_sub_cancel_left]
  simp [loopEdges, h]

/-- An edge of a mesh with a new face is an old one or belongs to a corner. -/
theorem mem_edges_addFace {e : HalfEdge} (h : e ∈ (m.addFace cs).edges) :
    e ∈ m.edges ∨ ∃ i, ∃ hi : i < cs.length,
      e = ⟨cs[i], m.edges.size + (i + 1) % cs.length⟩ := by
  rcases Array.mem_append.1 h with h | h
  · exact .inl h
  · obtain ⟨⟨c, i⟩, hc, rfl⟩ := List.mem_map.1 (List.mem_toArray.1 h)
    obtain ⟨hi, hci⟩ := List.getElem?_eq_some_iff.1 (List.mem_zipIdx_iff_getElem?.1 hc)
    exact .inr ⟨i, hi, by rw [hci]⟩

theorem iterate_next_addFace_of_lt (h : m.WellFormed) {e : Nat} (he : e < m.edges.size)
    (i : Nat) : (m.addFace cs).next^[i] e = m.next^[i] e := by
  induction i with
  | zero => rfl
  | succ i ih =>
    rw [Function.iterate_succ_apply', Function.iterate_succ_apply', ih, next, next,
      edges_addFace_of_lt (h.iterate_next_lt he i)]

/-- The new edges run in a circle. -/
theorem iterate_next_addFace (hcs : 0 < cs.length) (i : Nat) :
    (m.addFace cs).next^[i] m.edges.size = m.edges.size + i % cs.length := by
  induction i with
  | zero => simp
  | succ i ih =>
    rw [Function.iterate_succ_apply', ih, next_eq (edges_addFace_add (Nat.mod_lt i hcs)),
      Nat.mod_add_mod]

end

/-! ## Adding a face -/

section

variable {m : Mesh K} {cs : List Nat}

theorem faces_addFace (hcs : 0 < cs.length) :
    (m.addFace cs).faces = m.faces.push ⟨some m.edges.size, cs.length⟩ := by
  have h : cs.isEmpty = false := List.isEmpty_eq_false_iff.2 (List.ne_nil_of_length_pos hcs)
  rw [addFace, h]
  rfl

/-- Of the old faces, the old edges are on the same ones as before. -/
theorem onFace_addFace_of_lt (h : m.WellFormed) (hcs : 0 < cs.length) {e k : Nat}
    (hk : k < m.faces.size) : (m.addFace cs).OnFace e k ↔ m.OnFace e k := by
  have hface : (m.addFace cs).faces[k]? = m.faces[k]? := by
    rw [faces_addFace hcs, Array.getElem?_push_lt hk, Array.getElem?_eq_getElem hk]
  refine exists_congr fun f => exists_congr fun s => exists_congr fun i => ?_
  rw [hface]
  refine and_congr_right fun hf => and_congr_right fun hs => and_congr_right fun _ => ?_
  obtain ⟨t, ht, hlt, -⟩ := h.isLoop f (Array.mem_of_getElem? hf)
  obtain rfl : t = s := Option.some.inj (ht.symm.trans hs)
  rw [iterate_next_addFace_of_lt h hlt]

/-- The new edges are those on the new face. -/
theorem onFace_addFace_size (hcs : 0 < cs.length) {e : Nat} :
    (m.addFace cs).OnFace e m.faces.size ↔
      m.edges.size ≤ e ∧ e < m.edges.size + cs.length := by
  rw [OnFace, faces_addFace hcs, Array.getElem?_push_size]
  constructor
  · rintro ⟨f, s, i, hf, hs, hi, rfl⟩
    cases hf
    cases hs
    rw [iterate_next_addFace hcs, Nat.mod_eq_of_lt hi]
    exact ⟨Nat.le_add_right _ _, Nat.add_lt_add_left hi _⟩
  · rintro ⟨hle, hlt⟩
    have hi : e - m.edges.size < cs.length := by omega
    refine ⟨_, _, e - m.edges.size, rfl, rfl, hi, ?_⟩
    rw [iterate_next_addFace hcs, Nat.mod_eq_of_lt hi]
    omega

/-- What is on a face is an edge. -/
theorem WellFormed.lt_of_onFace (h : m.WellFormed) {e k : Nat} (hk : m.OnFace e k) :
    e < m.edges.size := by
  obtain ⟨f, s, i, hf, hs, -, rfl⟩ := hk
  obtain ⟨t, ht, hlt, -⟩ := h.isLoop f (Array.mem_of_getElem? hf)
  obtain rfl : t = s := Option.some.inj (ht.symm.trans hs)
  exact h.iterate_next_lt hlt i

theorem OnFace.lt {e k : Nat} (h : m.OnFace e k) : k < m.faces.size := by
  obtain ⟨f, _, _, hf, -⟩ := h
  exact (Array.getElem?_eq_some_iff.1 hf).1

/-- A face that was a loop stays one. -/
theorem IsLoop.addFace (h : m.WellFormed) {f : Face} (hf : m.IsLoop f) :
    (m.addFace cs).IsLoop f := by
  obtain ⟨s, hs, hlt, hsize, hback, hinj⟩ := hf
  refine ⟨s, hs, ?_, hsize, ?_, fun i hi j hj hij => hinj i hi j hj ?_⟩
  · rw [size_edges_addFace]
    omega
  · rw [iterate_next_addFace_of_lt h hlt, hback]
  · simpa only [iterate_next_addFace_of_lt h hlt] using hij

/-- The new face is a loop. -/
theorem isLoop_addFace (hcs : 3 ≤ cs.length) :
    (m.addFace cs).IsLoop ⟨some m.edges.size, cs.length⟩ := by
  have hpos : 0 < cs.length := by omega
  refine ⟨m.edges.size, rfl, ?_, hcs, ?_, fun i hi j hj hij => ?_⟩
  · rw [size_edges_addFace]
    omega
  · rw [iterate_next_addFace hpos, Nat.mod_self, Nat.add_zero]
  · simp only [iterate_next_addFace hpos] at hij
    rwa [Nat.mod_eq_of_lt hi, Nat.mod_eq_of_lt hj, Nat.add_left_cancel_iff] at hij

/-- A face with three corners or more, of which neighbours are different, keeps a mesh
well-formed. -/
theorem WellFormed.addFace (h : m.WellFormed) (hcs : 3 ≤ cs.length)
    (hlt : ∀ c ∈ cs, c < m.vertices.size) (hne : ∀ p ∈ cyclicPairs cs, p.1 ≠ p.2) :
    (m.addFace cs).WellFormed := by
  have hpos : 0 < cs.length := by omega
  have hmod (i : Nat) : (i + 1) % cs.length < cs.length := Nat.mod_lt _ hpos
  constructor
  case origin_lt =>
    intro e he
    rcases mem_edges_addFace he with he | ⟨i, hi, rfl⟩
    · exact h.origin_lt e he
    · exact hlt _ (List.getElem_mem hi)
  case next_lt =>
    intro e he
    rw [size_edges_addFace]
    rcases mem_edges_addFace he with he | ⟨i, hi, rfl⟩
    · exact Nat.lt_add_right _ (h.next_lt e he)
    · exact Nat.add_lt_add_left (hmod i) _
  case origin_ne =>
    intro e he e' he'
    rcases mem_edges_addFace he with he | ⟨i, hi, rfl⟩
    · rw [edges_addFace_of_lt (h.next_lt e he)] at he'
      exact h.origin_ne e he e' he'
    · rw [edges_addFace_add (hmod i)] at he'
      cases he'
      exact (hne _ (List.mem_of_getElem? (getElem?_cyclicPairs hi (hmod i)))).symm
  case isLoop =>
    intro f hf
    rw [faces_addFace hpos, Array.mem_push] at hf
    rcases hf with hf | rfl
    · exact (h.isLoop f hf).addFace h
    · exact isLoop_addFace hcs
  case existsUnique_onFace =>
    intro e he
    rw [size_edges_addFace] at he
    have hfaces {k : Nat} (hk : (m.addFace cs).OnFace e k) : k < m.faces.size + 1 := by
      have := hk.lt
      rwa [faces_addFace hpos, Array.size_push] at this
    rcases Nat.lt_or_ge e m.edges.size with hold | hnew
    · -- An old edge is on its old face and not on the new one.
      obtain ⟨k, hk, hunique⟩ := h.existsUnique_onFace e hold
      refine ⟨k, (onFace_addFace_of_lt h hpos hk.lt).2 hk, fun j hj => ?_⟩
      rcases Nat.lt_or_eq_of_le (Nat.le_of_lt_succ (hfaces hj)) with hlt | rfl
      · exact hunique j ((onFace_addFace_of_lt h hpos hlt).1 hj)
      · exact absurd hold (Nat.not_lt.2 ((onFace_addFace_size hpos).1 hj).1)
    · -- A new edge is on the new face and not on an old one.
      refine ⟨m.faces.size, (onFace_addFace_size hpos).2 ⟨hnew, he⟩, fun j hj => ?_⟩
      rcases Nat.lt_or_eq_of_le (Nat.le_of_lt_succ (hfaces hj)) with hlt | rfl
      · exact absurd hnew (Nat.not_le.2
          (h.lt_of_onFace ((onFace_addFace_of_lt h hpos hlt).1 hj)))
      · rfl

end

/-! ## Adding loops of points -/

theorem wellFormed_empty : WellFormed ({} : Mesh K) where
  origin_lt _ he := absurd he (Array.not_mem_empty _)
  next_lt _ he := absurd he (Array.not_mem_empty _)
  origin_ne _ he := absurd he (Array.not_mem_empty _)
  isLoop _ hf := absurd hf (Array.not_mem_empty _)
  existsUnique_onFace _ he := absurd he (Nat.not_lt_zero _)

/-- More vertices, or vertices elsewhere, do not matter. -/
theorem WellFormed.of_edges_eq {m m' : Mesh K} (h : m.WellFormed)
    (hedges : m'.edges = m.edges) (hfaces : m'.faces = m.faces)
    (hsize : m.vertices.size ≤ m'.vertices.size) : m'.WellFormed := by
  have hnext : m'.next = m.next := by
    funext e
    rw [next, next, hedges]
  have honFace : m'.OnFace = m.OnFace := by
    funext e k
    rw [OnFace, OnFace, hfaces, hnext]
  constructor
  case origin_lt =>
    rw [hedges]
    exact fun e he => Nat.lt_of_lt_of_le (h.origin_lt e he) hsize
  case next_lt => rw [hedges]; exact h.next_lt
  case origin_ne => rw [hedges]; exact h.origin_ne
  case isLoop =>
    intro f hf
    rw [hfaces] at hf
    rw [IsLoop, hnext, hedges]
    exact h.isLoop f hf
  case existsUnique_onFace => rw [hedges, honFace]; exact h.existsUnique_onFace

theorem WellFormed.addsVertices {m m' : Mesh K} (h : m.WellFormed) (h' : m'.AddsVertices m) :
    m'.WellFormed :=
  h.of_edges_eq h'.edges h'.faces h'.vertices.size_le

theorem WellFormed.map {m : Mesh K} (h : m.WellFormed) (g : Vec3 K → Vec3 K) :
    (m.map g).WellFormed :=
  h.of_edges_eq rfl rfl (by rw [Mesh.map, Array.size_map])

section

variable [Scalar K] {m : Mesh K}

theorem WellFormed.loopVertices (h : m.WellFormed) (ps : List (Vec3 K)) :
    (m.loopVertices ps).2.WellFormed :=
  h.addsVertices (addsVertices_loopVertices m ps)

theorem WellFormed.loop [LawfulScalar K] (h : m.WellFormed) (ps : List (Vec3 K)) :
    (m.loop ps).2.WellFormed := by
  rw [loop_eq]
  split
  · exact h.loopVertices ps
  · next hlen =>
    refine (h.loopVertices ps).addFace (by omega) (fun c hc => ?_)
      (ne_of_mem_cyclicPairs_corners (by omega))
    exact lt_of_mem_loopVertices ((corners_sublist _).mem hc)

end

/-! ## Reading faces -/

/-- From an edge, a walk meets as many edges as it may. -/
theorem WellFormed.length_walk {m : Mesh K} (h : m.WellFormed) (count : Nat) {e : Nat}
    (he : e < m.edges.size) : (m.walk count (some e)).length = count := by
  induction count generalizing e with
  | zero => rfl
  | succ count ih =>
    have hmem : m.edges[e] ∈ m.edges := Array.getElem_mem he
    rw [walk, Option.bind_some, Array.getElem?_eq_getElem he]
    simp only [Array.getElem?_eq_getElem (h.origin_lt _ hmem), List.length_cons,
      ih (h.next_lt _ hmem)]

/-- A face has three points at least. -/
theorem WellFormed.three_le_length_points {m : Mesh K} (h : m.WellFormed) {f : Face}
    (hf : f ∈ m.faces) : 3 ≤ (m.points f).length := by
  obtain ⟨s, hs, hlt, hsize, -⟩ := h.isLoop f hf
  rwa [points, List.length_map, hs, h.length_walk f.size hlt]

end BuildingModel.Geometry.Mesh
