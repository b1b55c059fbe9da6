import Mathlib
import BuildingModel.Proofs.Geometry.Outline

/-!
# Normals of faces

Which way a face looks is told by its normal: the sum, over the edges along the face, of what the
formula of Newell gives for them. It is taken with exact numbers, those that the doubles of the mesh
stand for (`value`).

* `value_eq_of_same`: coordinates that are the same stand for one number;
* `normal_eq_of_around_eq`: loops that agree in all flows have one normal, so nothing changes when
  repeats collapse, and a reversed loop has the opposite normal (`normal_reverse`);
* `Mesh.normals_ofLoops`: the faces of a mesh that is built have the normals of the loops that were
  added, and a loop with a normal makes a face;
* `normal_flat`: the normal of a loop in a plane of one height is vertical, and as long as twice the
  area of the loop.
-/

namespace BuildingModel.Geometry

/-! ## The numbers of doubles -/

section

open Float.Model

/-- The number that a double stands for; zero if it is infinite or no number. -/
def value (x : Float) : ℚ :=
  match x.toModel.unpack with
  | .finite s m e _ => s.apply (m : ℤ) * 2 ^ e
  | _ => 0

theorem pack_unpack_toModel (x : Float) : (⟨Float.Model.pack x.toModel.unpack⟩ : Float) = x := by
  obtain ⟨bits, hvalid⟩ := x
  have h : UnpackedFloat.pack Format.binary64 (UnpackedFloat.unpack Format.binary64 bits.toBitVec) =
      bits.toBitVec :=
    UnpackedFloat.pack_unpack_of_valid hvalid
  simp only [Float.Model.pack, Float.Model.unpack, h]

/-- What is packed again has its value, whatever becomes of the sign of a zero. -/
theorem value_pack {x : Float} {u : UnpackedFloat}
    (h : u = x.toModel.unpack ∨ ∃ s t, x.toModel.unpack = .zero s ∧ u = .zero t) :
    value ⟨Float.Model.pack u⟩ = value x := by
  obtain rfl | ⟨s, t, hs, rfl⟩ := h
  · rw [pack_unpack_toModel]
  · rw [value, value, hs]
    cases t <;> rfl

theorem value_add_zero (x : Float) : value (x + 0.0) = value x := by
  refine value_pack (u := .add Format.binary64 x.toModel.unpack (.zero .positive)) ?_
  cases hx : x.toModel.unpack with
  | zero s => exact .inr ⟨s, .positive, rfl, by cases s <;> rfl⟩
  | _ => exact .inl rfl

theorem value_zero_add (x : Float) : value (0.0 + x) = value x := by
  refine value_pack (u := .add Format.binary64 (.zero .positive) x.toModel.unpack) ?_
  cases hx : x.toModel.unpack with
  | zero s => exact .inr ⟨s, .positive, rfl, by cases s <;> rfl⟩
  | _ => exact .inl rfl

/-- Coordinates that are the same stand for one number. -/
theorem value_eq_of_same {x y : Float} (h : Scalar.same x y = true) : value x = value y := by
  rw [← value_add_zero x, ← value_add_zero y]
  have hmodel (a b : Float.Model) (hbits : a.toBits = b.toBits) : a = b := by
    cases a
    cases b
    cases hbits
    rfl
  have hsum : (x + 0.0).toModel = (y + 0.0).toModel := hmodel _ _ (same_float_iff.1 h)
  rw [value, value, hsum]

end

/-- Where a point is. -/
def Vec3.position (p : Vec3 Float) : Fin 3 → ℚ :=
  ![value p.x, value p.y, value p.z]

theorem Vec3.position_eq_of_same {p q : Vec3 Float} (h : p.same q = true) :
    p.position = q.position := by
  obtain ⟨hx, hy, hz⟩ := same_iff.1 h
  rw [position, position, value_eq_of_same hx, value_eq_of_same hy, value_eq_of_same hz]

/-! ## Sums that turn their sign -/

section

variable {α G : Type} [AddCommGroup G]

theorem sum_map_swap {f : α × α → G} (hf : ∀ p, f p.swap = -f p) (l : List (α × α)) :
    ((l.map Prod.swap).map f).sum = -(l.map f).sum := by
  rw [List.map_map, List.sum_neg, List.map_map]
  exact congrArg List.sum (List.map_congr_left fun p _ => hf p)

/-- Edges that agree in all flows agree in every sum whose terms turn their sign with the edge. -/
theorem sum_eq_of_total_eq [IsAddTorsionFree G] {l m : List (α × α)}
    (h : ∀ F : Flow α, F.total l = F.total m) {f : α × α → G} (hf : ∀ p, f p.swap = -f p) :
    (l.map f).sum = (m.map f).sum := by
  classical
  -- One together with the other run backwards is balanced: the sum over both is its own negative.
  have hbalanced : Balanced (l ++ m.map Prod.swap) := fun u v => by
    have huv : (Flow.net u v).total (l ++ m.map Prod.swap) = 0 := by
      rw [Flow.total_append, Flow.total_map_swap, h, add_neg_cancel]
    rw [Flow.total_net] at huv
    omega
  have hsum := ((balanced_iff_perm.1 hbalanced).map f).sum_eq
  rw [sum_map_swap hf, self_eq_neg, List.map_append, List.sum_append, sum_map_swap hf] at hsum
  exact add_neg_eq_zero.1 hsum

/-- What a loop gains along its edges it loses again. -/
theorem sum_cyclicPairs_sub (g : α → G) (l : List α) :
    ((cyclicPairs l).map fun p => g p.1 - g p.2).sum = 0 := by
  have hperm : ((cyclicPairs l).map Prod.snd).Perm ((cyclicPairs l).map Prod.fst) := by
    rw [map_snd_cyclicPairs, map_fst_cyclicPairs]
    exact List.rotate_perm l 1
  have hsum := (hperm.map g).sum_eq
  rw [List.map_map, List.map_map] at hsum
  have hsub : ((cyclicPairs l).map fun p => g p.1 - g p.2).sum =
      ((cyclicPairs l).map (g ∘ Prod.fst)).sum - ((cyclicPairs l).map (g ∘ Prod.snd)).sum :=
    Multiset.sum_map_sub (m := (cyclicPairs l : Multiset (α × α)))
  rw [hsub, hsum, sub_self]

end

/-! ## Normals -/

/-- What an edge contributes to the normal of a loop. -/
def newell (a b : Fin 3 → ℚ) : Fin 3 → ℚ :=
  ![(a 1 - b 1) * (a 2 + b 2), (a 2 - b 2) * (a 0 + b 0), (a 0 - b 0) * (a 1 + b 1)]

/-- The normal of a loop, after Newell. -/
def normal (ps : List (Fin 3 → ℚ)) : Fin 3 → ℚ :=
  ((cyclicPairs ps).map fun p => newell p.1 p.2).sum

theorem newell_swap (a b : Fin 3 → ℚ) : newell b a = -newell a b := by
  simp only [newell, Matrix.neg_cons, Matrix.neg_empty]
  ring_nf

theorem normal_map {α : Type} (g : α → Fin 3 → ℚ) (l : List α) :
    normal (l.map g) = ((cyclicPairs l).map fun p => newell (g p.1) (g p.2)).sum := by
  rw [normal, cyclicPairs_map, List.map_map]
  rfl

/-- Loops that agree in all flows have one normal. -/
theorem normal_eq_of_around_eq {α : Type} {l m : List α}
    (h : ∀ F : Flow α, F.around l = F.around m) (g : α → Fin 3 → ℚ) :
    normal (l.map g) = normal (m.map g) := by
  rw [normal_map, normal_map]
  exact sum_eq_of_total_eq h fun p => newell_swap (g p.1) (g p.2)

theorem normal_reverse (ps : List (Fin 3 → ℚ)) : normal ps.reverse = -normal ps := by
  have hswap (p : (Fin 3 → ℚ) × (Fin 3 → ℚ)) : newell p.swap.1 p.swap.2 = -newell p.1 p.2 :=
    newell_swap p.1 p.2
  rw [normal, ((perm_cyclicPairs_reverse ps).map _).sum_eq, sum_map_swap hswap, normal]

/-- Loops with fewer than three points have no normal. -/
theorem normal_of_length_lt {α : Type} {l : List α} (h : l.length < 3) (g : α → Fin 3 → ℚ) :
    normal (l.map g) = 0 :=
  normal_eq_of_around_eq (m := []) (fun F => F.around_of_length_lt h) g

/-- A sum of vertical vectors is vertical. -/
theorem sum_vertical {ι : Type} (f : ι → ℚ) (l : List ι) :
    (l.map fun i => (![0, 0, f i] : Fin 3 → ℚ)).sum = ![0, 0, (l.map f).sum] := by
  induction l with
  | nil =>
    ext i
    fin_cases i <;> rfl
  | cons i l ih =>
    rw [List.map_cons, List.sum_cons, ih, List.map_cons, List.sum_cons]
    simp

/-- The normal of a level loop is vertical, as long as twice the area, wherever the loop is. -/
theorem normal_flat {α : Type} (x y : α → ℚ) (u v z : ℚ) (l : List α) :
    normal (l.map fun a => ![x a + u, y a + v, z]) =
      ![0, 0, ((cyclicPairs l).map fun p => x p.1 * y p.2 - x p.2 * y p.1).sum] := by
  -- Beside its area an edge contributes the difference of a gain, which is lost again.
  have hedge (a b : α) : newell ![x a + u, y a + v, z] ![x b + u, y b + v, z] =
      ![0, 0, x a * y b - x b * y a] +
        (![2 * z * y a, 0, x a * y a + 2 * v * x a] -
          ![2 * z * y b, 0, x b * y b + 2 * v * x b]) := by
    ext i
    fin_cases i <;> simp [newell] <;> ring
  have hgain := sum_cyclicPairs_sub (fun a => ![2 * z * y a, 0, x a * y a + 2 * v * x a]) l
  rw [normal_map]
  simp only [hedge]
  rw [List.sum_map_add, hgain, add_zero, sum_vertical]

namespace Mesh

/-- Where a vertex is. -/
def place (m : Mesh Float) (v : Nat) : Fin 3 → ℚ :=
  ((m.vertices[v]?).map Vec3.position).getD 0

/-- The normal of a face. -/
def normal (m : Mesh Float) (f : Face) : Fin 3 → ℚ :=
  Geometry.normal ((m.points f).map Vec3.position)

theorem map_position_points (m : Mesh Float) (f : Face) :
    (m.points f).map Vec3.position = (m.vertexLoop f).map m.place := by
  rw [← List.forall₂_eq_eq_eq, List.forall₂_map_left_iff, List.forall₂_map_right_iff]
  refine (forall₂_points_vertexLoop m f).imp fun p v h => ?_
  rw [place, h, Option.map_some, Option.getD_some]

section

variable {loops : List (List (Vec3 Float))} {ps : List (Vec3 Float)} (hps : ps ∈ loops)
include hps

theorem place_vertexOf {p : Vec3 Float} (hp : p ∈ ps) :
    (ofLoops loops).place ((ofLoops loops).vertexOf p) = p.position := by
  have hat := vertexAt?_ofLoops hps hp
  have hlt := lt_of_vertexAt? hat
  have hget := Array.getElem?_eq_getElem hlt
  rw [place, hget, Option.map_some, Option.getD_some]
  exact Vec3.position_eq_of_same (same_of_vertexOf hat hget)

/-- The corners of a loop have the normal of the loop. -/
theorem normal_corners : Geometry.normal ((corners (ps.map (ofLoops loops).vertexOf)).map
    (ofLoops loops).place) = Geometry.normal (ps.map Vec3.position) := by
  rw [normal_eq_of_around_eq (fun F => F.around_corners _), List.map_map]
  exact congrArg Geometry.normal (List.map_congr_left fun p hp => place_vertexOf hps hp)

/-- A loop with a normal keeps three points when repeats collapse. -/
theorem three_le_length_collapsed (h : Geometry.normal (ps.map Vec3.position) ≠ 0) :
    3 ≤ (collapsed ps).length := by
  by_contra hfew
  have hnone := faceCorners_map_vertexOf fun p => vertexAt?_ofLoops hps
  rw [if_neg hfew, faceCorners] at hnone
  split at hnone
  · next hlen => exact h ((normal_corners hps).symm.trans (normal_of_length_lt hlen _))
  · cases hnone

theorem normal_map_vertexOf_collapsed (h : 3 ≤ (collapsed ps).length) :
    Geometry.normal (((collapsed ps).map (ofLoops loops).vertexOf).map (ofLoops loops).place) =
      Geometry.normal (ps.map Vec3.position) := by
  have hcorners := faceCorners_map_vertexOf fun p => vertexAt?_ofLoops hps
  rw [if_pos h] at hcorners
  rw [← (faceCorners_eq_some_iff.1 hcorners).2, normal_corners hps]

end

/-- The faces of a mesh that is built have the normals of the loops that were added, as far as these
make faces. -/
theorem normals_ofLoops (loops : List (List (Vec3 Float))) :
    (ofLoops loops).faces.toList.map (ofLoops loops).normal =
      (loops.filter fun ps => 3 ≤ (collapsed ps).length).map fun ps =>
        Geometry.normal (ps.map Vec3.position) := by
  have hfaces : (ofLoops loops).faces.toList.map (ofLoops loops).normal =
      (ofLoops loops).loops.map fun vs => Geometry.normal (vs.map (ofLoops loops).place) := by
    rw [Mesh.loops, List.map_map]
    exact List.map_congr_left fun f _ =>
      congrArg Geometry.normal (map_position_points _ f)
  rw [hfaces, loops_ofLoops, outlines, List.filter_map, List.map_map, List.map_map]
  refine List.map_congr_left fun ps hps => ?_
  obtain ⟨hps, hlen⟩ := List.mem_filter.1 hps
  exact normal_map_vertexOf_collapsed hps (of_decide_eq_true hlen)

/-- If the first loops have a normal, they make the first faces. -/
theorem exists_normals_ofLoops_append {front : List (List (Vec3 Float))}
    (rest : List (List (Vec3 Float)))
    (h : ∀ ps ∈ front, Geometry.normal (ps.map Vec3.position) ≠ 0) :
    ∃ normals, (ofLoops (front ++ rest)).faces.toList.map (ofLoops (front ++ rest)).normal =
      (front.map fun ps => Geometry.normal (ps.map Vec3.position)) ++ normals := by
  have hfront : front.filter (fun ps => 3 ≤ (collapsed ps).length) = front :=
    List.filter_eq_self.2 fun ps hps => decide_eq_true
      (three_le_length_collapsed (List.mem_append_left rest hps) (h ps hps))
  rw [normals_ofLoops, List.filter_append, hfront, List.map_append]
  exact ⟨_, rfl⟩

end Mesh

end BuildingModel.Geometry
