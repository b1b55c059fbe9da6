import BuildingModel.Geometry.Bridge
import BuildingModel.Proofs.Geometry.Face

/-!
# Meshes that are built

A mesh is built by additions: points, loops of points, and loops with holes, in any order and
number. Whatever is added, degenerate loops included, the faces are closed loops of half-edges, and
a point has one vertex for good (`wellFormed_addAll_empty`).
-/

namespace BuildingModel.Geometry

/-- What is added to a mesh. -/
inductive Addition (K : Type) where
  /-- A point. -/
  | vertex (p : Vec3 K)
  /-- A face, by its loop. -/
  | face (points : List (Vec3 K))
  /-- A face with holes, by its loop and theirs. -/
  | faceWithHoles (outer : List (Vec3 K)) (holes : List (List (Vec3 K)))

variable {K : Type} [Scalar K]

/-- The loop that is added. -/
def Addition.points : Addition K → List (Vec3 K)
  | .vertex p => [p]
  | .face points => points
  | .faceWithHoles outer holes => bridge outer holes

namespace Mesh

/-- The mesh after an addition. -/
def add (m : Mesh K) : Addition K → Mesh K
  | .vertex p => (m.vertex p).2
  | .face points => (m.loop points).2
  | .faceWithHoles outer holes => (m.loop (bridge outer holes)).2

/-- The mesh after one addition after the other. -/
def addAll (m : Mesh K) (as : List (Addition K)) : Mesh K :=
  as.foldl add m

/-- Every addition is that of a loop: a point is a loop that makes no face. -/
theorem add_eq_loop (m : Mesh K) (a : Addition K) : m.add a = (m.loop a.points).2 := by
  cases a with
  | vertex p =>
    rw [add, Addition.points, loop_eq, loopVertices_cons]
    simp [loopVertices, corners, dropRepeats]
  | face points => rfl
  | faceWithHoles outer holes => rfl

theorem addAll_cons (m : Mesh K) (a : Addition K) (as : List (Addition K)) :
    m.addAll (a :: as) = (m.loop a.points).2.addAll as := by
  rw [addAll, List.foldl_cons, add_eq_loop, addAll]

theorem ofLoops_eq_addAll (loops : List (List (Vec3 K))) :
    ofLoops loops = addAll {} (loops.map .face) := by
  rw [ofLoops, addAll, List.foldl_map]
  rfl

theorem extends_addAll (m : Mesh K) (as : List (Addition K)) : (m.addAll as).Extends m := by
  induction as generalizing m with
  | nil => exact .refl m
  | cons a as ih =>
    rw [addAll_cons]
    exact (ih _).trans (extends_loop m a.points)

theorem Welded.addAll {m : Mesh K} (h : m.Welded) (as : List (Addition K)) :
    (m.addAll as).Welded := by
  induction as generalizing m with
  | nil => exact h
  | cons a as ih =>
    rw [addAll_cons]
    exact ih (h.loop a.points)

variable [LawfulScalar K]

theorem WellFormed.addAll {m : Mesh K} (h : m.WellFormed) (as : List (Addition K)) :
    (m.addAll as).WellFormed := by
  induction as generalizing m with
  | nil => exact h
  | cons a as ih =>
    rw [addAll_cons]
    exact ih (h.loop a.points)

/-- Points with the same coordinates get one vertex, however much is added between them. -/
theorem fst_vertex_addAll (m : Mesh K) {p q : Vec3 K} (h : p.same q = true)
    (as : List (Addition K)) :
    (((m.vertex p).2.addAll as).vertex q).1 = (m.vertex p).1 := by
  have hp := vertexAt?_of_extends (extends_addAll (m.vertex p).2 as) (vertexAt?_vertex m p)
  rw [vertexAt?_congr _ h] at hp
  rw [vertex_of_some hp]

/-- A mesh that is built is well-formed, and stays so wherever its vertices are moved. No two of its
vertices have the same coordinates, and a point gets the vertex that a point with the same
coordinates got before. -/
theorem wellFormed_addAll_empty (as : List (Addition Float)) :
    (addAll {} as).WellFormed ∧ (∀ g, ((addAll {} as).map g).WellFormed) ∧
      (∀ i j, ∀ hi : i < (addAll {} as).vertices.size, ∀ hj : j < (addAll {} as).vertices.size,
        ((addAll {} as).vertices[i]).weldKey = ((addAll {} as).vertices[j]).weldKey → i = j) ∧
      ∀ p q : Vec3 Float, p.weldKey = q.weldKey → ∀ later,
        ((addAll {} (as ++ .vertex p :: later)).vertex q).1 = ((addAll {} as).vertex p).1 := by
  have hwell : (addAll {} as).WellFormed := wellFormed_empty.addAll as
  have hwelded : (addAll {} as).Welded := welded_empty.addAll as
  refine ⟨hwell, hwell.map, fun i j hi hj hkey => ?_, fun p q hkey later => ?_⟩
  · exact hwelded.eq_of_same hi hj (Vec3.same_iff_weldKey.2 hkey)
  · rw [addAll, List.foldl_append]
    exact fst_vertex_addAll _ (Vec3.same_iff_weldKey.2 hkey) later

end Mesh

end BuildingModel.Geometry
