import BuildingModel.Geometry.Mesh
import Mathlib.Data.List.Basic

/-!
# Welded vertices

Loops of points become loops of vertices, and points with the same coordinates get the same vertex.
A mesh only grows at its end while loops are added, so the vertex of a point stays what it is:

* `vertexAt?_vertex`: the mesh that a point was added to finds the vertex it got;
* `vertexAt?_of_extends`: meshes that have more vertices find the same one;
* `map_vertexAt?_loopVertices`: the vertices of a loop are those of its points;
* `Welded.loop`: no two vertices have the same coordinates.
-/

namespace BuildingModel.Geometry

/-- Coordinates of which being the same is an equivalence. -/
class LawfulScalar (K : Type) [Scalar K] : Prop where
  /-- A coordinate is the same as itself. -/
  same_refl (x : K) : Scalar.same x x = true
  /-- What is the same is so in either order. -/
  same_symm {x y : K} : Scalar.same x y = true → Scalar.same y x = true
  /-- What is the same as one coordinate is the same. -/
  same_trans {x y z : K} : Scalar.same x y = true → Scalar.same y z = true → Scalar.same x z = true

theorem same_float_iff {x y : Float} :
    Scalar.same x y = true ↔ (x + 0.0).toBits = (y + 0.0).toBits :=
  beq_iff_eq

instance : LawfulScalar Float where
  same_refl _ := same_float_iff.2 rfl
  same_symm h := same_float_iff.2 (same_float_iff.1 h).symm
  same_trans h h' := same_float_iff.2 ((same_float_iff.1 h).trans (same_float_iff.1 h'))

namespace Vec3

section

variable {K : Type} [Scalar K] {p q r : Vec3 K}

theorem same_iff : p.same q = true ↔
    Scalar.same p.x q.x = true ∧ Scalar.same p.y q.y = true ∧ Scalar.same p.z q.z = true := by
  rw [same, Bool.and_eq_true, Bool.and_eq_true, and_assoc]

variable [LawfulScalar K]

theorem same_refl (p : Vec3 K) : p.same p = true :=
  same_iff.2 ⟨LawfulScalar.same_refl _, LawfulScalar.same_refl _, LawfulScalar.same_refl _⟩

theorem same_symm (h : p.same q = true) : q.same p = true := by
  obtain ⟨hx, hy, hz⟩ := same_iff.1 h
  exact same_iff.2
    ⟨LawfulScalar.same_symm hx, LawfulScalar.same_symm hy, LawfulScalar.same_symm hz⟩

theorem same_trans (h : p.same q = true) (h' : q.same r = true) : p.same r = true := by
  obtain ⟨hx, hy, hz⟩ := same_iff.1 h
  obtain ⟨hx', hy', hz'⟩ := same_iff.1 h'
  exact same_iff.2 ⟨LawfulScalar.same_trans hx hx', LawfulScalar.same_trans hy hy',
    LawfulScalar.same_trans hz hz'⟩

end

/-- What points at one vertex have in common: the bits of their coordinates, of which minus zero
has those of zero. -/
def weldKey (p : Vec3 Float) : UInt64 × UInt64 × UInt64 :=
  ((p.x + 0.0).toBits, (p.y + 0.0).toBits, (p.z + 0.0).toBits)

theorem same_iff_weldKey {p q : Vec3 Float} : p.same q = true ↔ p.weldKey = q.weldKey := by
  rw [same_iff, same_float_iff, same_float_iff, same_float_iff, weldKey, weldKey, Prod.mk.injEq,
    Prod.mk.injEq]

end Vec3

namespace Mesh

variable {K : Type}

/-! ## Meshes with more vertices -/

/-- The vertices of a mesh are the first ones of another. -/
def Extends (m' m : Mesh K) : Prop :=
  ∃ ps, m'.vertices = m.vertices ++ ps

theorem Extends.refl (m : Mesh K) : m.Extends m :=
  ⟨#[], (Array.append_empty).symm⟩

theorem Extends.trans {m m' m'' : Mesh K} (h' : m''.Extends m') (h : m'.Extends m) :
    m''.Extends m := by
  obtain ⟨ps, hps⟩ := h
  obtain ⟨qs, hqs⟩ := h'
  exact ⟨ps ++ qs, by rw [hqs, hps, Array.append_assoc]⟩

theorem Extends.size_le {m m' : Mesh K} (h : m'.Extends m) :
    m.vertices.size ≤ m'.vertices.size := by
  obtain ⟨ps, hps⟩ := h
  rw [hps, Array.size_append]
  exact Nat.le_add_right _ _

theorem extends_addVertex (m : Mesh K) (p : Vec3 K) : (m.addVertex p).Extends m :=
  ⟨#[p], rfl⟩

theorem extends_addFace (m : Mesh K) (cs : List Nat) : (m.addFace cs).Extends m :=
  .refl m

/-- A mesh has vertices more than another, at most. -/
structure AddsVertices (m' m : Mesh K) : Prop where
  /-- The vertices of the other come first. -/
  vertices : m'.Extends m
  /-- The edges are the same. -/
  edges : m'.edges = m.edges
  /-- The faces are the same. -/
  faces : m'.faces = m.faces

theorem AddsVertices.refl (m : Mesh K) : m.AddsVertices m :=
  ⟨.refl m, rfl, rfl⟩

theorem AddsVertices.trans {m m' m'' : Mesh K} (h' : m''.AddsVertices m')
    (h : m'.AddsVertices m) : m''.AddsVertices m :=
  ⟨h'.vertices.trans h.vertices, h'.edges.trans h.edges, h'.faces.trans h.faces⟩

variable [Scalar K]

/-! ## The vertex of a point -/

theorem vertexAt?_of_extends {m m' : Mesh K} (h : m'.Extends m) {p : Vec3 K} {i : Nat}
    (hi : m.vertexAt? p = some i) : m'.vertexAt? p = some i := by
  obtain ⟨ps, hps⟩ := h
  rw [vertexAt?] at hi ⊢
  rw [hps, Array.findIdx?_append, hi]
  rfl

theorem lt_of_vertexAt? {m : Mesh K} {p : Vec3 K} {i : Nat} (h : m.vertexAt? p = some i) :
    i < m.vertices.size :=
  (Array.findIdx?_eq_some_iff_getElem.1 h).1

theorem vertex_of_some {m : Mesh K} {p : Vec3 K} {i : Nat} (h : m.vertexAt? p = some i) :
    m.vertex p = (i, m) := by
  rw [vertex, h]

theorem vertex_of_none {m : Mesh K} {p : Vec3 K} (h : m.vertexAt? p = none) :
    m.vertex p = (m.vertices.size, m.addVertex p) := by
  rw [vertex, h]

theorem addsVertices_vertex (m : Mesh K) (p : Vec3 K) : (m.vertex p).2.AddsVertices m := by
  cases h : m.vertexAt? p with
  | some i => rw [vertex_of_some h]; exact .refl m
  | none => rw [vertex_of_none h]; exact ⟨extends_addVertex m p, rfl, rfl⟩

/-! ## The vertices of a loop -/

theorem loopVertices_cons (m : Mesh K) (p : Vec3 K) (ps : List (Vec3 K)) :
    m.loopVertices (p :: ps) =
      ((m.vertex p).1 :: ((m.vertex p).2.loopVertices ps).1,
        ((m.vertex p).2.loopVertices ps).2) := rfl

theorem addsVertices_loopVertices (m : Mesh K) (ps : List (Vec3 K)) :
    (m.loopVertices ps).2.AddsVertices m := by
  induction ps generalizing m with
  | nil => exact .refl m
  | cons p ps ih => exact (ih _).trans (addsVertices_vertex m p)

/-- A loop adds its vertices and then, if enough corners are left, a face. -/
theorem loop_eq (m : Mesh K) (ps : List (Vec3 K)) :
    (m.loop ps).2 =
      if (corners (m.loopVertices ps).1).length < 3 then (m.loopVertices ps).2
      else (m.loopVertices ps).2.addFace (corners (m.loopVertices ps).1) := by
  simp only [loop]
  split
  · rfl
  · rfl

theorem extends_loop_loopVertices (m : Mesh K) (ps : List (Vec3 K)) :
    (m.loop ps).2.Extends (m.loopVertices ps).2 := by
  rw [loop_eq]
  split
  · exact .refl _
  · exact extends_addFace _ _

theorem extends_loop (m : Mesh K) (ps : List (Vec3 K)) : (m.loop ps).2.Extends m :=
  (extends_loop_loopVertices m ps).trans (addsVertices_loopVertices m ps).vertices

section

variable [LawfulScalar K]

/-- A point is found at the vertex it got. -/
theorem vertexAt?_vertex (m : Mesh K) (p : Vec3 K) :
    (m.vertex p).2.vertexAt? p = some (m.vertex p).1 := by
  cases h : m.vertexAt? p with
  | some i => rwa [vertex_of_some h]
  | none =>
    rw [vertex_of_none h]
    rw [vertexAt?] at h
    rw [vertexAt?, addVertex, Array.findIdx?_push, h, p.same_refl]
    rfl

/-- The vertices of a loop are the ones at which any later mesh finds its points. -/
theorem map_vertexAt?_loopVertices (m : Mesh K) (ps : List (Vec3 K)) {m' : Mesh K}
    (h : m'.Extends (m.loopVertices ps).2) :
    ps.map m'.vertexAt? = (m.loopVertices ps).1.map some := by
  induction ps generalizing m with
  | nil => rfl
  | cons p ps ih =>
    have hp : m'.vertexAt? p = some (m.vertex p).1 :=
      vertexAt?_of_extends (h.trans (addsVertices_loopVertices _ ps).vertices)
        (vertexAt?_vertex m p)
    rw [loopVertices_cons, List.map_cons, List.map_cons, hp, ih (m.vertex p).2 h]

/-- The vertices of a loop are vertices of the mesh. -/
theorem lt_of_mem_loopVertices {m : Mesh K} {ps : List (Vec3 K)} {i : Nat}
    (hi : i ∈ (m.loopVertices ps).1) : i < (m.loopVertices ps).2.vertices.size := by
  have h := map_vertexAt?_loopVertices m ps (.refl _)
  obtain ⟨p, -, hp⟩ := List.mem_map.1 (h ▸ List.mem_map_of_mem hi)
  exact lt_of_vertexAt? hp

end

/-! ## Welding -/

/-- No two vertices have the same coordinates. -/
def Welded (m : Mesh K) : Prop :=
  m.vertices.toList.Pairwise fun p q => ¬ p.same q = true

theorem welded_empty : Welded ({} : Mesh K) :=
  List.Pairwise.nil

theorem Welded.vertex {m : Mesh K} (h : m.Welded) (p : Vec3 K) : (m.vertex p).2.Welded := by
  cases hp : m.vertexAt? p with
  | some i => rwa [vertex_of_some hp]
  | none =>
    rw [vertex_of_none hp, Welded, addVertex, Array.toList_push, List.pairwise_append]
    refine ⟨h, List.pairwise_singleton _ _, fun q hq r hr => ?_⟩
    rw [List.mem_singleton.1 hr, Array.findIdx?_eq_none_iff.1 hp q (Array.mem_toList_iff.1 hq)]
    exact Bool.false_ne_true

theorem Welded.loopVertices {m : Mesh K} (h : m.Welded) (ps : List (Vec3 K)) :
    (m.loopVertices ps).2.Welded := by
  induction ps generalizing m with
  | nil => exact h
  | cons p ps ih => exact ih (h.vertex p)

theorem Welded.loop {m : Mesh K} (h : m.Welded) (ps : List (Vec3 K)) : (m.loop ps).2.Welded := by
  rw [loop_eq]
  split
  · exact h.loopVertices ps
  · exact h.loopVertices ps

variable [LawfulScalar K]

/-- In a welded mesh, vertices with the same coordinates are one. -/
theorem Welded.eq_of_same {m : Mesh K} (h : m.Welded) {i j : Nat} (hi : i < m.vertices.size)
    (hj : j < m.vertices.size) (hsame : (m.vertices[i]).same m.vertices[j] = true) : i = j := by
  have hlt {i j : Nat} (hi : i < m.vertices.size) (hj : j < m.vertices.size) (hij : i < j) :
      ¬ (m.vertices[i]).same m.vertices[j] = true :=
    List.pairwise_iff_getElem.1 h i j hi hj hij
  rcases Nat.lt_trichotomy i j with hij | hij | hij
  · exact absurd hsame (hlt hi hj hij)
  · exact hij
  · exact absurd (Vec3.same_symm hsame) (hlt hj hi hij)

/-- Points with the same coordinates are found at one vertex. -/
theorem vertexAt?_congr (m : Mesh K) {p q : Vec3 K} (h : p.same q = true) :
    m.vertexAt? p = m.vertexAt? q := by
  rw [vertexAt?, vertexAt?]
  congr 1
  funext v
  exact Bool.eq_iff_iff.2 ⟨(Vec3.same_trans · h), (Vec3.same_trans · (Vec3.same_symm h))⟩

end Mesh

end BuildingModel.Geometry
