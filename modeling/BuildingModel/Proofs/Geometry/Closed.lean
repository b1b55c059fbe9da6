import BuildingModel.Geometry.Item
import BuildingModel.Proofs.Geometry.Building
import BuildingModel.Proofs.Geometry.Flow
import Mathlib.Logic.Function.Basic

/-!
# Closed meshes

A mesh is closed if between any two vertices as many half-edges run in one direction as in the
other. Building a mesh keeps flows: what collapses, is dropped or joined does not count, and the
flow over the half-edges of a mesh is the flow around the loops it is made of
(`total_arrows_ofLoops`). So a mesh is closed if its loops cancel out in every flow
(`closed_of_total_eq_zero`).
-/

namespace BuildingModel.Geometry

namespace Mesh

variable {K : Type}

/-- The half-edges, from the vertex where each starts to the one where its next edge starts. -/
def arrows (m : Mesh K) : List (Nat × Nat) :=
  m.edges.toList.filterMap fun e => (m.edges[e.next]?).map fun e' => (e.origin, e'.origin)

/-- As many half-edges run from one vertex to another as back. -/
def Closed (m : Mesh K) : Prop :=
  ∀ u v, m.arrows.count (u, v) = m.arrows.count (v, u)

/-- A mesh is closed if all flows cancel out. -/
theorem closed_of_total_eq_zero {m : Mesh K} (h : ∀ F : Flow Nat, F.total m.arrows = 0) :
    m.Closed := by
  intro u v
  have huv := h (.net u v)
  rw [Flow.total_net] at huv
  omega

theorem arrows_map (m : Mesh K) (g : Vec3 K → Vec3 K) : (m.map g).arrows = m.arrows := rfl

theorem arrows_eq_of_edges {m m' : Mesh K} (h : m'.edges = m.edges) : m'.arrows = m.arrows := by
  rw [arrows, arrows, h]

/-- A new face adds the pairs of neighbouring corners. -/
theorem arrows_addFace {m : Mesh K} (h : m.WellFormed) (cs : List Nat) :
    (m.addFace cs).arrows = m.arrows ++ cyclicPairs cs := by
  have hnew : (loopEdges m.edges.size cs).map (fun e =>
      ((m.addFace cs).edges[e.next]?).map fun e' => (e.origin, e'.origin)) =
      (cyclicPairs cs).map some := by
    refine List.ext_getElem? fun i => ?_
    rcases Nat.lt_or_ge i cs.length with hi | hi
    · have hnext : (i + 1) % cs.length < cs.length := Nat.mod_lt _ (by omega)
      rw [List.getElem?_map, List.getElem?_map, getElem?_cyclicPairs hi hnext]
      simp [loopEdges, edges_addFace_add hnext, hi]
    · rw [List.getElem?_eq_none (by rwa [List.length_map, length_loopEdges]),
        List.getElem?_eq_none (by rwa [List.length_map, length_cyclicPairs])]
  have hedges : (m.addFace cs).edges.toList =
      m.edges.toList ++ loopEdges m.edges.size cs := by
    simp [addFace]
  rw [arrows, hedges, List.filterMap_append]
  congr 1
  · refine List.filterMap_congr fun e he => ?_
    rw [edges_addFace_of_lt (h.next_lt e (Array.mem_toList_iff.1 he))]
  · simpa [List.filterMap_map] using congrArg (List.filterMap id) hnew

/-! ## The vertices of points -/

section

variable [Scalar K] [LawfulScalar K]

/-- The vertex of a point, once the mesh has it. -/
def vertexOf (m : Mesh K) (p : Vec3 K) : Nat :=
  (m.vertexAt? p).getD 0

theorem map_vertexOf_loopVertices (m : Mesh K) (ps : List (Vec3 K)) {m' : Mesh K}
    (h : m'.Extends (m.loopVertices ps).2) : ps.map m'.vertexOf = (m.loopVertices ps).1 := by
  have hps := congrArg (List.map (Option.getD · 0)) (map_vertexAt?_loopVertices m ps h)
  rw [List.map_map, List.map_map] at hps
  exact hps.trans (List.map_id _)

/-- A mesh that has the vertices of a loop finds its points. -/
theorem vertexAt?_of_mem_loop (m : Mesh K) {ps : List (Vec3 K)} {p : Vec3 K} (hp : p ∈ ps)
    {m' : Mesh K} (h : m'.Extends (m.loopVertices ps).2) :
    m'.vertexAt? p = some (m'.vertexOf p) := by
  obtain ⟨i, -, hi⟩ := List.mem_map.1
    (map_vertexAt?_loopVertices m ps h ▸ List.mem_map_of_mem hp)
  rw [vertexOf, ← hi, Option.getD_some]

end

/-- Points at one place have one vertex, and points that are found at one vertex are at one
place. -/
theorem exists_vertexOf_eq (m : Mesh Float) :
    ∃ (f : UInt64 × UInt64 × UInt64 → Nat) (g : Nat → UInt64 × UInt64 × UInt64),
      (∀ p, f p.weldKey = m.vertexOf p) ∧
      ∀ p, m.vertexAt? p = some (m.vertexOf p) → g (m.vertexOf p) = p.weldKey := by
  have hfactor : m.vertexOf.FactorsThrough Vec3.weldKey := fun p q hkey => by
    rw [vertexOf, vertexOf, vertexAt?_congr m (Vec3.same_iff_weldKey.2 hkey)]
  refine ⟨Function.extend Vec3.weldKey m.vertexOf 0,
    fun i => ((m.vertices[i]?).map Vec3.weldKey).getD (0, 0, 0),
    fun p => hfactor.extend_apply 0 p, fun p hp => ?_⟩
  obtain ⟨hlt, hsame, -⟩ := Array.findIdx?_eq_some_iff_getElem.1 hp
  simp only [Array.getElem?_eq_getElem hlt, Option.map_some, Option.getD_some]
  exact Vec3.same_iff_weldKey.1 hsame

/-! ## Flows over meshes -/

variable [Scalar K] [LawfulScalar K]

/-- A loop of points adds the flow around the loop of their vertices, also if no face comes of
it. -/
theorem total_arrows_loop (F : Flow Nat) {m : Mesh K} (hm : m.WellFormed) (ps : List (Vec3 K))
    {m' : Mesh K} (h : m'.Extends (m.loop ps).2) :
    F.total (m.loop ps).2.arrows = F.total m.arrows + (F.comap m'.vertexOf).around ps := by
  have hsame : m'.Extends (m.loopVertices ps).2 := h.trans (extends_loop_loopVertices m ps)
  have hold : (m.loopVertices ps).2.arrows = m.arrows :=
    arrows_eq_of_edges (addsVertices_loopVertices m ps).edges
  rw [← Flow.around_map, map_vertexOf_loopVertices m ps hsame, ← Flow.around_corners, loop_eq]
  split
  · next hlen => rw [hold, Flow.around_of_length_lt F hlen, add_zero]
  · rw [arrows_addFace (hm.loopVertices ps), Flow.total_append, hold, Flow.around]

/-- Whatever is added, the flow over the half-edges grows by the flows around the loops. -/
theorem total_arrows_addAll (F : Flow Nat) {m : Mesh K} (hm : m.WellFormed)
    (as : List (Addition K)) {m' : Mesh K} (h : m'.Extends (m.addAll as)) :
    F.total (m.addAll as).arrows =
      F.total m.arrows + (as.map fun a => (F.comap m'.vertexOf).around a.points).sum := by
  induction as generalizing m with
  | nil => simp [addAll]
  | cons a as ih =>
    rw [addAll_cons] at h ⊢
    rw [ih (hm.loop a.points) h, total_arrows_loop F hm a.points (h.trans (extends_addAll _ as)),
      List.map_cons, List.sum_cons, add_assoc]

/-- The flow over a mesh of loops is the flow around the loops. -/
theorem total_arrows_ofLoops (F : Flow Nat) (loops : List (List (Vec3 K))) :
    F.total (ofLoops loops).arrows =
      (loops.map (F.comap (ofLoops loops).vertexOf).around).sum := by
  have h := total_arrows_addAll F wellFormed_empty (loops.map Addition.face) (.refl _)
  rw [← ofLoops_eq_addAll, List.map_map] at h
  exact h.trans (zero_add _)

end Mesh

end BuildingModel.Geometry
