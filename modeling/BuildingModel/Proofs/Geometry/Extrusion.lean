import BuildingModel.Geometry.Item
import BuildingModel.Proofs.Geometry.Closed
import Mathlib.Algebra.BigOperators.Group.Multiset.Basic

/-!
# Extrusions are closed

The loops of an extrusion cancel out: the bottom runs against the profile and the top along it,
holes included, and the sides run along the bottom and back along the top. Neighbouring sides meet
in an edge that they pass in opposite directions. So the solid that a profile sweeps has no rim
(`closed_extrude`), wherever repeats collapse and however the holes are joined.
-/

namespace BuildingModel.Geometry

variable {K : Type} [Scalar K]

theorem sum_map_sub {ι : Type} (l : List ι) (f g : ι → ℤ) :
    (l.map fun i => f i - g i).sum = (l.map f).sum - (l.map g).sum :=
  Multiset.sum_map_sub (m := (l : Multiset ι))

section

variable (F : Flow (Vec3 K)) (offset : Vec3 K)

theorem around_bottomCap {p : Profile K} (h : p.outer ≠ []) :
    F.around (bottomCap p) =
      -((p.outer :: p.holes).map (F.comap (lift .origin)).around).sum := by
  have hne : (p.outer.map (lift Vec3.origin)).reverse ≠ [] := by simpa using h
  have hloop (l : List (Vec2 K)) : F.around (l.map (lift .origin)).reverse =
      -(F.comap (lift .origin)).around l := by
    rw [F.around_reverse, F.around_map]
  rw [bottomCap, F.around_bridge hne, hloop, List.map_map, List.map_cons, List.sum_cons, neg_add,
    List.sum_neg, List.map_map]
  congr 2
  exact List.map_congr_left fun hole _ => hloop hole

theorem around_topCap {p : Profile K} (h : p.outer ≠ []) :
    F.around (topCap offset p) =
      ((p.outer :: p.holes).map (F.comap (lift offset)).around).sum := by
  have hne : p.outer.map (lift offset) ≠ [] := by simpa using h
  rw [topCap, F.around_bridge hne, F.around_map, List.map_map, List.map_cons, List.sum_cons]
  congr 2
  exact List.map_congr_left fun hole _ => F.around_map _ hole

/-- Around the side over an edge, the flow runs along the bottom, up, back along the top, and
down. -/
theorem around_side (a b : Vec2 K) :
    F.around [lift .origin a, lift .origin b, lift offset b, lift offset a] =
      ((F.comap (lift .origin)).value a b - (F.comap (lift offset)).value a b) +
        (F.value (lift .origin b) (lift offset b) - F.value (lift .origin a) (lift offset a)) := by
  simp only [Flow.around, cyclicPairs_cons, List.cons_append, List.nil_append, List.zip_cons_cons,
    List.zip_nil_left, F.total_cons, F.total_nil, Flow.comap]
  rw [F.value_swap (lift offset b) (lift offset a), F.value_swap (lift offset a) (lift .origin a)]
  abel

/-- Around all sides over a loop, what runs up and down cancels out. -/
theorem sum_around_sides (loop : List (Vec2 K)) :
    ((sides offset loop).map F.around).sum =
      (F.comap (lift .origin)).around loop - (F.comap (lift offset)).around loop := by
  have hup : ((cyclicPairs loop).map fun p => F.value (lift .origin p.2) (lift offset p.2)).sum =
      ((cyclicPairs loop).map fun p => F.value (lift .origin p.1) (lift offset p.1)).sum := by
    -- The ends of the edges are their starts in another order.
    have hperm : ((cyclicPairs loop).map Prod.snd).Perm ((cyclicPairs loop).map Prod.fst) := by
      rw [map_snd_cyclicPairs, map_fst_cyclicPairs]
      exact List.rotate_perm loop 1
    have h := (hperm.map fun a => F.value (lift .origin a) (lift offset a)).sum_eq
    rwa [List.map_map, List.map_map] at h
  rw [sides, List.map_map]
  calc ((cyclicPairs loop).map fun p => F.around
        [lift .origin p.1, lift .origin p.2, lift offset p.2, lift offset p.1]).sum
      = ((cyclicPairs loop).map fun p =>
          ((F.comap (lift .origin)).value p.1 p.2 - (F.comap (lift offset)).value p.1 p.2) +
          (F.value (lift .origin p.2) (lift offset p.2) -
            F.value (lift .origin p.1) (lift offset p.1))).sum := by
        congr 1
        exact List.map_congr_left fun p _ => around_side F offset p.1 p.2
    _ = (F.comap (lift .origin)).around loop - (F.comap (lift offset)).around loop := by
        rw [List.sum_map_add, sum_map_sub, sum_map_sub, hup, sub_self, add_zero]
        rfl

/-- The loops of an extrusion cancel out. -/
theorem sum_around_extrusionLoops {p : Profile K} (h : p.outer ≠ []) :
    ((extrusionLoops offset p).map F.around).sum = 0 := by
  have hsides : (((p.outer :: p.holes).flatMap (sides offset)).map F.around).sum =
      ((p.outer :: p.holes).map (F.comap (lift .origin)).around).sum -
        ((p.outer :: p.holes).map (F.comap (lift offset)).around).sum := by
    rw [← sum_map_sub]
    induction p.outer :: p.holes with
    | nil => rfl
    | cons loop loops ih =>
      rw [List.flatMap_cons, List.map_append, List.sum_append, sum_around_sides, ih, List.map_cons,
        List.sum_cons]
  rw [extrusionLoops, List.map_cons, List.map_cons, List.sum_cons, List.sum_cons,
    around_bottomCap F h, around_topCap F offset h, hsides]
  abel

end

/-- The solid that a profile sweeps has no rim. -/
theorem Mesh.closed_ofLoops_extrusionLoops [LawfulScalar K] (offset : Vec3 K) {p : Profile K}
    (h : p.outer ≠ []) : (Mesh.ofLoops (extrusionLoops offset p)).Closed := by
  refine Mesh.closed_of_total_eq_zero fun F => ?_
  rw [Mesh.total_arrows_ofLoops]
  exact sum_around_extrusionLoops _ offset h

/-! ## Items -/

/-- What comes first in a sequence that succeeds succeeds. -/
theorem exists_of_bind_eq_ok {ε α β : Type} {e : Except ε α} {f : α → Except ε β} {b : β}
    (h : e >>= f = .ok b) : ∃ a, e = .ok a ∧ f a = .ok b := by
  cases e with
  | error e => cases h
  | ok a => exact ⟨a, rfl, h⟩

/-- What an item of a shape sweeps is an extrusion, perhaps moved. -/
theorem exists_of_extrusion {k : Kernel} {x : EntityIndex} {item : Entity} {m : Mesh Float}
    (h : extrusion k x item = .ok m) :
    ∃ (p : Profile Float) (depth : Float) (direction : Vec3 Float) (g : Vec3 Float → Vec3 Float),
      p.outer ≠ [] ∧ m = (extrude p depth direction).map g := by
  rw [extrusion] at h
  obtain ⟨area, -, h⟩ := exists_of_bind_eq_ok h
  obtain ⟨depth, -, h⟩ := exists_of_bind_eq_ok h
  obtain ⟨p, -, h⟩ := exists_of_bind_eq_ok h
  simp only at h
  rcases Nat.lt_or_ge p.outer.length 3 with hlt | hge
  · rw [if_pos hlt] at h
    cases h
  · rw [if_neg (Nat.not_lt.2 hge)] at h
    have hp : p.outer ≠ [] := List.ne_nil_of_length_pos (by omega)
    split at h
    · obtain rfl := Except.ok.inj h
      exact ⟨p, depth, _, id, hp, by rw [Mesh.map, Array.map_id]⟩
    · obtain ⟨t, -, h⟩ := exists_of_bind_eq_ok h
      obtain rfl := Except.ok.inj h
      exact ⟨p, depth, _, t.apply, hp, rfl⟩

/-- An item without a position of its own is an extrusion of its profile. -/
theorem extrusion_eq {k : Kernel} {x : EntityIndex} {item area : Entity} {depth : Float}
    {p : Profile Float} (harea : x.follow? item 0 = some area) (hdepth : item.real? 3 = some depth)
    (hp : profile x area k.segments = .ok p) (hlen : 3 ≤ p.outer.length)
    (hposition : item.reference? 1 = none) :
    extrusion k x item = .ok (extrude p depth (directionAt x item 2 axisZ)) := by
  rw [extrusion, harea, hdepth]
  change (profile x area k.segments >>= _) = _
  rw [hp]
  change (if p.outer.length < 3 then _ else _) = _
  rw [if_neg (Nat.not_lt.2 hlen), hposition]
  rfl

/-- An extrusion of a profile with a boundary is closed, whatever its holes, its depth and its
direction are; and so is the mesh of every item of a shape that is an extrusion. -/
theorem closed_extrude :
    (∀ (p : Profile Float) (depth : Float) (direction : Vec3 Float), p.outer ≠ [] →
      (extrude p depth direction).Closed) ∧
      ∀ k x item m, extrusion k x item = .ok m → m.Closed := by
  refine ⟨fun p depth direction h => Mesh.closed_ofLoops_extrusionLoops _ h,
    fun k x item m hm => ?_⟩
  obtain ⟨q, depth, direction, g, hq, rfl⟩ := exists_of_extrusion hm
  rw [Mesh.Closed, Mesh.arrows_map]
  exact Mesh.closed_ofLoops_extrusionLoops _ hq

/-- A boundary of one point, with a hole that runs to a point and back and one without points. -/
def needle : Profile Float :=
  ⟨[⟨0.0, 0.0⟩], [[⟨1.0, 0.0⟩, ⟨1.0, 0.0⟩, ⟨2.0, -0.0⟩], []]⟩

/-- A slab over a rectangle. -/
def slab : Entity where
  id := 1
  type := .known .extrudedAreaSolid
  attributes := [.reference 2, .null, .null, .real 0.5]

/-- The rectangle under the slab. -/
def slabArea : Entity where
  id := 2
  type := .known .rectangleProfileDef
  attributes := [.enumeration "AREA", .null, .null, .real 2.0, .real 3.0]

/-- An index that has the rectangle. -/
def slabIndex : EntityIndex where
  entries := .ofList [(2, ⟨0, 0, .known .rectangleProfileDef, some slabArea⟩)] compare

theorem extrusion_slab : ∃ m, extrusion {} slabIndex slab = .ok m := by
  have hlen : 3 ≤ (rectangle 2.0 3.0).outer.length := by
    rw [rectangle, Profile.ofOuter]
    split
    · decide
    · decide
  exact ⟨_, extrusion_eq rfl rfl rfl hlen rfl⟩

theorem closed_extrude_needle :
    needle.outer ≠ [] ∧ (extrude needle 1.0 ⟨1.0, 0.0, -1.0⟩).Closed ∧
      ∃ m, extrusion {} slabIndex slab = .ok m ∧ m.Closed := by
  have hne : needle.outer ≠ [] := List.cons_ne_nil _ _
  obtain ⟨m, hm⟩ := extrusion_slab
  exact ⟨hne, closed_extrude.1 needle _ _ hne, m, hm, closed_extrude.2 _ _ _ m hm⟩

end BuildingModel.Geometry
