import BuildingModel.Proofs.Geometry.Extrusion
import BuildingModel.Proofs.Geometry.Normal

/-!
# Which way the caps of an extrusion face

The bottom of an extrusion is the profile run backwards, the top is the moved profile, whatever the
direction is. So the normals of the caps are known from the area of the profile alone
(`exists_caps`): the bottom looks down and the top looks up. They face out of the solid if the
direction goes up, and into it if it goes down (`caps_outwards_iff`, `caps_downwards_wedge`).
-/

namespace BuildingModel.Geometry

/-- The area of a loop, computed exactly. -/
def exactArea (loop : List (Vec2 Float)) : ℚ :=
  ((cyclicPairs loop).map fun p => value p.1.x * value p.2.y - value p.2.x * value p.1.y).sum / 2

/-- Nothing is rounded where the area of a profile is computed, and where the profile is moved. -/
structure IsExact (p : Profile Float) (offset : Vec3 Float) : Prop where
  /-- The area is exact. -/
  area : value (signedArea p.outer) = exactArea p.outer
  /-- The moved points have exact first coordinates. -/
  x : ∀ a ∈ p.outer, value (a.x + offset.x) = value a.x + value offset.x
  /-- The moved points have exact second coordinates. -/
  y : ∀ a ∈ p.outer, value (a.y + offset.y) = value a.y + value offset.y

section

variable {p : Profile Float} {offset : Vec3 Float}

theorem position_lift_origin (a : Vec2 Float) :
    (lift Vec3.origin a).position = ![value a.x + 0, value a.y + 0, 0] := by
  have hzero : value (0.0 + 0.0) = 0 := rfl
  rw [add_zero, add_zero, ← value_add_zero a.x, ← value_add_zero a.y, ← hzero]
  rfl

theorem IsExact.position_lift (h : IsExact p offset) {a : Vec2 Float} (ha : a ∈ p.outer) :
    (lift offset a).position =
      ![value a.x + value offset.x, value a.y + value offset.y, value offset.z] := by
  rw [← h.x a ha, ← h.y a ha, ← value_zero_add offset.z]
  rfl

/-- The normal of a loop that is lifted exactly. -/
theorem normal_lifted {loop : List (Vec2 Float)} {u v z : ℚ}
    (h : ∀ a ∈ loop, (lift offset a).position = ![value a.x + u, value a.y + v, z]) :
    normal ((loop.map (lift offset)).map Vec3.position) = ![0, 0, 2 * exactArea loop] := by
  have hplaces : (loop.map (lift offset)).map Vec3.position =
      loop.map fun a => ![value a.x + u, value a.y + v, z] := by
    rw [List.map_map]
    exact List.map_congr_left h
  rw [hplaces, normal_flat (fun a : Vec2 Float => value a.x) fun a => value a.y, exactArea,
    mul_div_cancel₀ _ two_ne_zero]

theorem normal_bottomCap (hholes : p.holes = []) :
    normal ((bottomCap p).map Vec3.position) = ![0, 0, -(2 * exactArea p.outer)] := by
  rw [bottomCap, hholes, List.map_nil, bridge_nil, List.map_reverse, normal_reverse,
    normal_lifted fun a _ => position_lift_origin a]
  simp

theorem normal_topCap (hholes : p.holes = []) (h : IsExact p offset) :
    normal ((topCap offset p).map Vec3.position) = ![0, 0, 2 * exactArea p.outer] := by
  rw [topCap, hholes, List.map_nil, bridge_nil, normal_lifted fun a ha => h.position_lift ha]

/-- The first two faces of an extrusion are its caps: the bottom looks down and the top looks up,
whatever the direction is. -/
theorem exists_caps {depth : Float} {direction : Vec3 Float} (hholes : p.holes = [])
    (h : IsExact p (direction.normalize.scale depth)) (harea : exactArea p.outer ≠ 0) :
    ∃ bottom top, (extrude p depth direction).faces[0]? = some bottom ∧
      (extrude p depth direction).faces[1]? = some top ∧
      (extrude p depth direction).normal bottom = ![0, 0, -(2 * exactArea p.outer)] ∧
      (extrude p depth direction).normal top = ![0, 0, 2 * exactArea p.outer] := by
  have hbottom := normal_bottomCap hholes
  have htop := normal_topCap hholes h
  have hdouble : 2 * exactArea p.outer ≠ 0 := mul_ne_zero two_ne_zero harea
  -- Both caps have a normal, so they do not collapse and make the first two faces.
  have hlooks {c : ℚ} (hc : c ≠ 0) : ![0, 0, c] ≠ 0 := fun hzero => hc (congrFun hzero 2)
  have hcaps : ∀ ps ∈ [bottomCap p, topCap (direction.normalize.scale depth) p],
      normal (ps.map Vec3.position) ≠ 0 := by
    simp only [List.forall_mem_cons, hbottom, htop]
    exact ⟨hlooks (neg_ne_zero.2 hdouble), hlooks hdouble, nofun⟩
  obtain ⟨rest, hrest⟩ := Mesh.exists_normals_ofLoops_append
    ((p.outer :: p.holes).flatMap (sides (direction.normalize.scale depth))) hcaps
  have hnormals : (extrude p depth direction).faces.toList.map (extrude p depth direction).normal =
      ![0, 0, -(2 * exactArea p.outer)] :: ![0, 0, 2 * exactArea p.outer] :: rest := by
    rw [← hbottom, ← htop]
    exact hrest
  obtain ⟨bottom, _, hfaces, hnormal, hrest⟩ := List.map_eq_cons_iff.1 hnormals
  obtain ⟨top, _, rfl, hnormal', -⟩ := List.map_eq_cons_iff.1 hrest
  refine ⟨bottom, top, ?_, ?_, hnormal, hnormal'⟩
  · rw [← Array.getElem?_toList, hfaces]
    rfl
  · rw [← Array.getElem?_toList, hfaces]
    rfl

end

theorem vertical_dot (c : ℚ) (direction : Vec3 Float) :
    ![0, 0, c] ⬝ᵥ direction.position = c * value direction.z := by
  simp [Vec3.position, dotProduct, Fin.sum_univ_three]

/-- The caps of a profile without holes that runs counterclockwise. The bottom has its normal
against the direction, and the top has its normal along it, exactly if the direction goes up. -/
theorem caps_outwards_iff {p : Profile Float} {depth : Float} {direction : Vec3 Float}
    (hholes : p.holes = []) (harea : 0 < value (signedArea p.outer))
    (hexact : IsExact p (direction.normalize.scale depth)) :
    let m := extrude p depth direction
    ∃ bottom top, m.faces[0]? = some bottom ∧ m.faces[1]? = some top ∧
      m.normal bottom = ![0, 0, -(2 * value (signedArea p.outer))] ∧
      m.normal top = ![0, 0, 2 * value (signedArea p.outer)] ∧
      (m.normal bottom ⬝ᵥ direction.position < 0 ↔ 0 < value direction.z) ∧
      (0 < m.normal top ⬝ᵥ direction.position ↔ 0 < value direction.z) := by
  intro m
  rw [hexact.area] at harea ⊢
  have hdouble : 0 < 2 * exactArea p.outer := mul_pos two_pos harea
  obtain ⟨bottom, top, hbottom, htop, hnormal, hnormal'⟩ := exists_caps hholes hexact harea.ne'
  refine ⟨bottom, top, hbottom, htop, hnormal, hnormal', ?_, ?_⟩
  · rw [hnormal, vertical_dot, neg_mul, neg_lt_zero, mul_pos_iff_of_pos_left hdouble]
  · rw [hnormal', vertical_dot, mul_pos_iff_of_pos_left hdouble]

/-- A triangle that runs counterclockwise. -/
def wedge : Profile Float :=
  ⟨[⟨0.0, 0.0⟩, ⟨1.0, 0.0⟩, ⟨0.0, 1.0⟩], []⟩

/-- A triangle that is moved up along a slanted direction. -/
theorem caps_outwards_iff_wedge :
    let direction : Vec3 Float := ⟨3.0, 0.0, 4.0⟩
    let m := extrude wedge 5.0 direction
    ∃ bottom top, m.faces[0]? = some bottom ∧ m.faces[1]? = some top ∧
      m.normal bottom ⬝ᵥ direction.position < 0 ∧ 0 < m.normal top ⬝ᵥ direction.position := by
  intro direction m
  have hexact : IsExact wedge (direction.normalize.scale 5.0) :=
    ⟨by decide +kernel, by decide +kernel, by decide +kernel⟩
  have harea : 0 < value (signedArea wedge.outer) := by decide +kernel
  have hup : 0 < value direction.z := by decide +kernel
  obtain ⟨bottom, top, hbottom, htop, -, -, hiff, hiff'⟩ := caps_outwards_iff rfl harea hexact
  exact ⟨bottom, top, hbottom, htop, hiff.2 hup, hiff'.2 hup⟩

/-- Moved down, the triangle has a bottom that faces along the motion, and a top against it. -/
theorem caps_downwards_wedge :
    let direction : Vec3 Float := ⟨0.0, 0.0, -1.0⟩
    let m := extrude wedge 1.0 direction
    (wedge.holes = [] ∧ 0 < value (signedArea wedge.outer) ∧ 0 < value 1.0 ∧
        value direction.z ≠ 0 ∧ IsExact wedge (direction.normalize.scale 1.0)) ∧
      ∃ bottom top, m.faces[0]? = some bottom ∧ m.faces[1]? = some top ∧
        0 < m.normal bottom ⬝ᵥ direction.position ∧
        m.normal top ⬝ᵥ direction.position < 0 := by
  intro direction m
  have hexact : IsExact wedge (direction.normalize.scale 1.0) :=
    ⟨by decide +kernel, by decide +kernel, by decide +kernel⟩
  have harea : exactArea wedge.outer = 1 / 2 := by decide +kernel
  have hdown : value direction.z = -1 := by decide +kernel
  have hone : value 1.0 = 1 := by decide +kernel
  obtain ⟨bottom, top, hbottom, htop, hnormal, hnormal'⟩ :=
    exists_caps (p := wedge) rfl hexact (by rw [harea]; norm_num)
  rw [harea] at hnormal hnormal'
  refine ⟨⟨rfl, ?_, ?_, ?_, hexact⟩, bottom, top, hbottom, htop, ?_, ?_⟩
  · rw [hexact.area, harea]
    norm_num
  · rw [hone]
    norm_num
  · rw [hdown]
    norm_num
  · rw [hnormal, vertical_dot, hdown]
    norm_num
  · rw [hnormal', vertical_dot, hdown]
    norm_num

end BuildingModel.Geometry
