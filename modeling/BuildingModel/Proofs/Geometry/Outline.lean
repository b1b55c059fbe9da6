import BuildingModel.Geometry.Item
import BuildingModel.Proofs.Geometry.Corners

/-!
# Faces as loops of points

What a face looks like is told by the points along its loop. In a mesh that is built, the faces are,
in order, the loops that were added, without the points that the next one repeats, as far as three
are left (`forall₂_points_ofLoops`). The points along a face are those that were added, up to the
sign of zeros.
-/

namespace BuildingModel.Geometry

/-- A loop without the points that the next one repeats; behind the last point comes the first. -/
def collapsed (ps : List (Vec3 Float)) : List (Vec3 Float) :=
  ((cyclicPairs ps).filter fun p => !p.1.same p.2).map Prod.fst

/-- The loops that are left when repeats collapse, as far as they have three points. -/
def outlines (loops : List (List (Vec3 Float))) : List (List (Vec3 Float)) :=
  (loops.map collapsed).filter (3 ≤ ·.length)

theorem mem_of_mem_collapsed {ps : List (Vec3 Float)} {p : Vec3 Float} (h : p ∈ collapsed ps) :
    p ∈ ps := by
  rw [← map_fst_cyclicPairs ps]
  exact (List.filter_sublist.map Prod.fst).mem h

/-- What lists have place by place follows from the relation between their members. -/
theorem forall₂_imp_of_mem {α β : Type} {r t : α → β → Prop} {as : List α} {bs : List β}
    (h : List.Forall₂ r as bs) (himp : ∀ a, ∀ b ∈ bs, r a b → t a b) : List.Forall₂ t as bs :=
  List.forall₂_iff_zip.2 ⟨h.length_eq, fun hmem =>
    himp _ _ (List.of_mem_zip hmem).2 (List.forall₂_zip h hmem)⟩

namespace Mesh

section

variable {K : Type}

/-- Along a walk, every edge comes with the point where it starts. -/
theorem getElem?_of_mem_walk {m : Mesh K} {count : Nat} {cursor : Option Nat}
    {q : HalfEdge × Vec3 K} (h : q ∈ m.walk count cursor) :
    m.vertices[q.1.origin]? = some q.2 := by
  induction count generalizing cursor with
  | zero => cases h
  | succ count ih =>
    rw [walk] at h
    split at h
    · cases h
    · split at h
      · cases h
      · next hp =>
        rcases List.mem_cons.1 h with rfl | h
        · exact hp
        · exact ih h

/-- The points along a face are those of its vertices. -/
theorem forall₂_points_vertexLoop (m : Mesh K) (f : Face) :
    List.Forall₂ (fun p v => m.vertices[v]? = some p) (m.points f) (m.vertexLoop f) := by
  rw [points, vertexLoop, List.forall₂_map_left_iff, List.forall₂_map_right_iff, List.forall₂_same]
  exact fun _ hq => getElem?_of_mem_walk hq

end

/-- If it is not one alone, the corners of a loop are the vertices that the next one does not
repeat. -/
theorem corners_eq_map_changes {vs : List Nat} (h : 1 < (corners vs).length) :
    corners vs = (changes vs).map Prod.fst := by
  have hne : ∀ p ∈ cyclicPairs (corners vs), decide (p.1 ≠ p.2) = true := fun p hp =>
    decide_eq_true (ne_of_mem_cyclicPairs_corners h p hp)
  rw [← changes_corners, changes, List.filter_eq_self.2 hne, map_fst_cyclicPairs]

section

variable {m : Mesh Float} {ps : List (Vec3 Float)}
  (h : ∀ p ∈ ps, m.vertexAt? p = some (m.vertexOf p))
include h

/-- Points of a mesh have one vertex exactly if they are the same. -/
theorem vertexOf_eq_iff {p q : Vec3 Float} (hp : p ∈ ps) (hq : q ∈ ps) :
    m.vertexOf p = m.vertexOf q ↔ p.same q = true := by
  obtain ⟨f, g, hf, hg⟩ := exists_vertexOf_eq m
  rw [Vec3.same_iff_weldKey]
  constructor
  · exact fun heq => (hg p (h p hp)).symm.trans ((congrArg g heq).trans (hg q (h q hq)))
  · exact fun hkey => (hf p).symm.trans ((congrArg f hkey).trans (hf q))

/-- The vertices along a loop change where its points do. -/
theorem map_changes_vertexOf :
    (changes (ps.map m.vertexOf)).map Prod.fst = (collapsed ps).map m.vertexOf := by
  have hfilter : (cyclicPairs ps).filter (fun p => decide (m.vertexOf p.1 ≠ m.vertexOf p.2)) =
      (cyclicPairs ps).filter fun p => !p.1.same p.2 := by
    refine List.filter_congr fun p hp => ?_
    have hfst : p.1 ∈ ps := map_fst_cyclicPairs ps ▸ List.mem_map_of_mem hp
    have hsnd : p.2 ∈ ps := List.mem_rotate.1 (map_snd_cyclicPairs ps ▸ List.mem_map_of_mem hp)
    have hiff := vertexOf_eq_iff h hfst hsnd
    cases hsame : p.1.same p.2 <;> simp [hiff, hsame]
  rw [changes, cyclicPairs_map, List.filter_map, List.map_map, collapsed, List.map_map, ← hfilter]
  rfl

/-- A loop makes a face if three points are left, and what is left are the corners. -/
theorem faceCorners_map_vertexOf : faceCorners (ps.map m.vertexOf) =
    if 3 ≤ (collapsed ps).length then some ((collapsed ps).map m.vertexOf) else none := by
  have hlen : (changes (ps.map m.vertexOf)).length = (collapsed ps).length := by
    have hmap := congrArg List.length (map_changes_vertexOf h)
    rwa [List.length_map, List.length_map] at hmap
  have hiff := three_le_length_corners_iff (ps.map m.vertexOf)
  rw [hlen] at hiff
  rw [faceCorners]
  split
  · next hfew => rw [if_neg fun hthree => Nat.not_le.2 hfew (hiff.2 hthree)]
  · next hmany =>
    have hthree := Nat.le_of_not_lt hmany
    rw [if_pos (hiff.1 hthree), corners_eq_map_changes (by omega), map_changes_vertexOf h]

end

/-- A mesh that is built has the points of its loops. -/
theorem vertexAt?_ofLoops {loops : List (List (Vec3 Float))} {ps : List (Vec3 Float)}
    (hps : ps ∈ loops) {p : Vec3 Float} (hp : p ∈ ps) :
    (ofLoops loops).vertexAt? p = some ((ofLoops loops).vertexOf p) := by
  rw [ofLoops_eq_addAll]
  exact vertexAt?_of_mem_points {} (List.mem_map_of_mem (f := Addition.face) hps) hp

/-- The faces of a mesh that is built are the outlines of its loops, at their vertices. -/
theorem loops_ofLoops (loops : List (List (Vec3 Float))) :
    (ofLoops loops).loops = (outlines loops).map (List.map (ofLoops loops).vertexOf) := by
  have h := wellFormed_empty.loops_addAll (loops.map Addition.face)
    (.refl (({} : Mesh Float).addAll (loops.map .face)))
  rw [← ofLoops_eq_addAll, List.filterMap_map] at h
  refine h.trans ?_
  rw [outlines, List.filter_map, List.map_map,
    ← List.filterMap_eq_map (f := List.map (ofLoops loops).vertexOf ∘ collapsed),
    List.filterMap_filter]
  refine List.filterMap_congr fun ps hps => ?_
  rw [Function.comp_apply, Addition.points, faceCorners_map_vertexOf fun p => vertexAt?_ofLoops hps]
  simp

/-- The vertex of a point is at the point. -/
theorem same_of_vertexOf {m : Mesh Float} {p q : Vec3 Float}
    (hq : m.vertexAt? q = some (m.vertexOf q)) (hp : m.vertices[m.vertexOf q]? = some p) :
    p.same q = true := by
  obtain ⟨hlt, hsame, -⟩ := Array.findIdx?_eq_some_iff_getElem.1 hq
  rw [Array.getElem?_eq_getElem hlt, Option.some.injEq] at hp
  rwa [hp] at hsame

/-- The faces of a mesh that is built are, in order, the loops that were added, as far as three
points are left when repeats collapse. -/
theorem forall₂_points_ofLoops (loops : List (List (Vec3 Float))) :
    List.Forall₂ (List.Forall₂ fun p q => p.same q = true)
      ((ofLoops loops).faces.toList.map (ofLoops loops).points) (outlines loops) := by
  have hpoints : List.Forall₂ (List.Forall₂ fun p v => (ofLoops loops).vertices[v]? = some p)
      ((ofLoops loops).faces.toList.map (ofLoops loops).points) (ofLoops loops).loops := by
    rw [Mesh.loops, List.forall₂_map_left_iff, List.forall₂_map_right_iff, List.forall₂_same]
    exact fun f _ => forall₂_points_vertexLoop _ f
  rw [loops_ofLoops, List.forall₂_map_right_iff] at hpoints
  refine forall₂_imp_of_mem hpoints fun ps qs hqs h => ?_
  rw [List.forall₂_map_right_iff] at h
  refine forall₂_imp_of_mem h fun p q hq hp => same_of_vertexOf ?_ hp
  -- What is left of a loop are points of the loop.
  obtain ⟨loop, hloop, rfl⟩ := List.mem_map.1 (List.mem_of_mem_filter hqs)
  exact vertexAt?_ofLoops hloop (mem_of_mem_collapsed hq)

end Mesh

end BuildingModel.Geometry
