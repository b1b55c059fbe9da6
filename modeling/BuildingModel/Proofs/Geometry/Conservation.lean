import BuildingModel.Proofs.Geometry.Closed
import BuildingModel.Proofs.Geometry.Joining
import Mathlib.Data.List.Count

/-!
# Edges are conserved

Faces and holes are added to a mesh as loops of points. Between two vertices, the half-edges of the
mesh in one direction exceed those in the other by as many as the edges of the loops do, each point
taken at its vertex (`net_edges_addAll`): what collapses leads nowhere, crossings are passed in both
directions, and a loop that is dropped runs back on itself. So a mesh is closed exactly if its loops
pass every edge as often in one direction as in the other.
-/

namespace BuildingModel.Geometry

/-! ## Balanced edges -/

section

variable {α β : Type} [DecidableEq α] [DecidableEq β]

/-- Every edge is passed in one direction as often as in the other. -/
def Balanced (edges : List (α × α)) : Prop :=
  ∀ u v, edges.count (u, v) = edges.count (v, u)

theorem balanced_iff_perm {edges : List (α × α)} :
    Balanced edges ↔ edges.Perm (edges.map Prod.swap) := by
  have hswap (u v : α) : (edges.map Prod.swap).count (u, v) = edges.count (v, u) :=
    List.count_map_of_injective edges Prod.swap Prod.swap_injective (v, u)
  rw [List.perm_iff_count, Prod.forall]
  simp only [hswap, Balanced]

/-- Edges stay balanced when points are taken at what they stand for. -/
theorem Balanced.map {edges : List (α × α)} (h : Balanced edges) (f : α → β) :
    Balanced (edges.map (Prod.map f f)) := by
  rw [balanced_iff_perm] at h ⊢
  refine (h.map (Prod.map f f)).trans (.of_eq ?_)
  rw [List.map_map, List.map_map]
  rfl

end

section

variable {α β : Type}

/-- The edges of loops, each point taken at what it stands for. -/
def edgesBy {γ : Type} (f : γ → α) (loops : List (List γ)) : List (α × α) :=
  loops.flatMap fun loop => cyclicPairs (loop.map f)

/-- What points stand for may stand for something else. -/
theorem edgesBy_eq_map {γ : Type} {f : γ → α} {g : γ → β} {h : α → β} {loops : List (List γ)}
    (hfg : ∀ loop ∈ loops, ∀ p ∈ loop, h (f p) = g p) :
    edgesBy g loops = (edgesBy f loops).map (Prod.map h h) := by
  rw [edgesBy, edgesBy, List.map_flatMap]
  refine List.flatMap_congr fun loop hloop => ?_
  rw [← cyclicPairs_map, List.map_map]
  exact congrArg cyclicPairs (List.map_congr_left fun p hp => (hfg loop hloop p hp).symm)

theorem total_edgesBy (F : Flow β) (f : α → β) (loops : List (List α)) :
    F.total (edgesBy f loops) = (loops.map (F.comap f).around).sum := by
  induction loops with
  | nil => rfl
  | cons loop loops ih =>
    rw [edgesBy] at ih ⊢
    rw [List.flatMap_cons, F.total_append, ih, List.map_cons, List.sum_cons, ← F.around_map,
      Flow.around]

end

/-! ## Additions with holes -/

namespace Addition

variable {K : Type}

/-- The loops of a face and of its holes. -/
def loops : Addition K → List (List (Vec3 K))
  | .vertex _ => []
  | .face points => [points]
  | .faceWithHoles outer holes => outer :: holes

/-- Holes have a loop around them, if they have points. -/
def EnclosesHoles : Addition K → Prop
  | .faceWithHoles outer holes => outer = [] → ∀ hole ∈ holes, hole = []
  | _ => True

variable [Scalar K]

/-- What is added has the points of its loops. -/
theorem mem_points {a : Addition K} (h : a.EnclosesHoles) {loop : List (Vec3 K)}
    (hloop : loop ∈ a.loops) {p : Vec3 K} (hp : p ∈ loop) : p ∈ a.points := by
  cases a with
  | vertex q => exact absurd hloop List.not_mem_nil
  | face points => rwa [← List.mem_singleton.1 hloop]
  | faceWithHoles outer holes =>
    rcases eq_or_ne outer [] with rfl | ho
    · -- Without a loop around them, no hole has points.
      rcases List.mem_cons.1 hloop with rfl | hhole
      · exact absurd hp List.not_mem_nil
      · rw [h rfl loop hhole] at hp
        exact absurd hp List.not_mem_nil
    · exact mem_bridge ho hloop hp

/-- A flow around what is added is the sum of those around its loops. -/
theorem around_points {a : Addition K} (h : a.EnclosesHoles) (F : Flow (Vec3 K)) :
    F.around a.points = (a.loops.map F.around).sum := by
  cases a with
  | vertex p => exact F.around_of_length_lt (by simp [points])
  | face points => simp [Addition.points, loops]
  | faceWithHoles outer holes =>
    rcases eq_or_ne outer [] with rfl | ho
    · have hnone : ∀ loop ∈ [] :: holes, F.around loop = 0 := fun loop hloop => by
        rcases List.mem_cons.1 hloop with rfl | hhole
        · rfl
        · rw [h rfl loop hhole, F.around_nil]
      rw [points, bridge_nil_left, F.around_nil, loops, List.map_congr_left hnone]
      simp
    · rw [points, loops, F.around_bridge ho, List.map_cons, List.sum_cons]

theorem sum_around_points {as : List (Addition K)} (h : ∀ a ∈ as, a.EnclosesHoles)
    (F : Flow (Vec3 K)) :
    (as.map fun a => F.around a.points).sum = ((as.flatMap loops).map F.around).sum := by
  induction as with
  | nil => rfl
  | cons a as ih =>
    obtain ⟨ha, has⟩ := List.forall_mem_cons.1 h
    rw [List.map_cons, List.sum_cons, around_points ha, ih has, List.flatMap_cons, List.map_append,
      List.sum_append]

end Addition

namespace Mesh

/-! ## Meshes -/

/-- A mesh finds every point that was added. -/
theorem vertexAt?_of_mem_points {K : Type} [Scalar K] [LawfulScalar K] (m : Mesh K)
    {as : List (Addition K)} {a : Addition K} (ha : a ∈ as) {p : Vec3 K} (hp : p ∈ a.points) :
    (m.addAll as).vertexAt? p = some ((m.addAll as).vertexOf p) := by
  induction as generalizing m with
  | nil => cases ha
  | cons b as ih =>
    rw [addAll_cons]
    rcases List.mem_cons.1 ha with rfl | ha
    · exact vertexAt?_of_mem_loop m hp
        ((extends_addAll _ as).trans (extends_loop_loopVertices m a.points))
    · exact ih _ ha

/-- The flow over a mesh is the flow over the edges of the loops and holes that were added. -/
theorem total_arrows_eq_total_edgesBy {as : List (Addition Float)}
    (h : ∀ a ∈ as, a.EnclosesHoles) (F : Flow Nat) :
    F.total (addAll {} as).arrows =
      F.total (edgesBy (addAll {} as).vertexOf (as.flatMap Addition.loops)) := by
  have hempty : F.total ({} : Mesh Float).arrows = 0 := rfl
  rw [total_arrows_addAll F wellFormed_empty as (.refl _), hempty, zero_add,
    Addition.sum_around_points h, total_edgesBy]

/-- Edges of loops are balanced at the vertices if they are so at the places of the points. -/
theorem balanced_edgesBy_vertexOf_iff {as : List (Addition Float)}
    (h : ∀ a ∈ as, a.EnclosesHoles) :
    Balanced (edgesBy (addAll {} as).vertexOf (as.flatMap Addition.loops)) ↔
      Balanced (edgesBy Vec3.weldKey (as.flatMap Addition.loops)) := by
  obtain ⟨f, g, hf, hg⟩ := exists_vertexOf_eq (addAll {} as)
  constructor
  · intro hb
    have hkey : ∀ loop ∈ as.flatMap Addition.loops, ∀ p ∈ loop,
        g ((addAll {} as).vertexOf p) = p.weldKey := fun loop hloop p hp => by
      obtain ⟨a, ha, hloop⟩ := List.mem_flatMap.1 hloop
      exact hg p (vertexAt?_of_mem_points {} ha (Addition.mem_points (h a ha) hloop hp))
    rw [edgesBy_eq_map hkey]
    exact hb.map g
  · intro hb
    rw [edgesBy_eq_map fun loop _ p _ => hf p]
    exact hb.map f

/-- Between two vertices of a mesh that is built, the half-edges in one direction exceed those in
the other by as many as the edges of the loops and holes do that were added, each point taken at the
vertex where it is found. The mesh is closed exactly if these loops pass every edge as often in one
direction as in the other, points with the same coordinates taken as one. -/
theorem net_edges_addAll (as : List (Addition Float)) (h : ∀ a ∈ as, a.EnclosesHoles) :
    (∀ a ∈ as, ∀ loop ∈ a.loops, ∀ p ∈ loop,
      (addAll {} as).vertexAt? p = some ((addAll {} as).vertexOf p)) ∧
    (∀ u v, ((addAll {} as).arrows.count (u, v) : ℤ) - (addAll {} as).arrows.count (v, u) =
      ((edgesBy (addAll {} as).vertexOf (as.flatMap Addition.loops)).count (u, v) : ℤ) -
        (edgesBy (addAll {} as).vertexOf (as.flatMap Addition.loops)).count (v, u)) ∧
    ((addAll {} as).Closed ↔ Balanced (edgesBy Vec3.weldKey (as.flatMap Addition.loops))) := by
  have hnet : ∀ u v, ((addAll {} as).arrows.count (u, v) : ℤ) - (addAll {} as).arrows.count (v, u) =
      ((edgesBy (addAll {} as).vertexOf (as.flatMap Addition.loops)).count (u, v) : ℤ) -
        (edgesBy (addAll {} as).vertexOf (as.flatMap Addition.loops)).count (v, u) := fun u v => by
    rw [← Flow.total_net, ← Flow.total_net, total_arrows_eq_total_edgesBy h]
  refine ⟨fun a ha loop hloop p hp => ?_, hnet, ?_⟩
  · exact vertexAt?_of_mem_points {} ha (Addition.mem_points (h a ha) hloop hp)
  · rw [← balanced_edgesBy_vertexOf_iff h]
    refine forall_congr' fun u => forall_congr' fun v => ?_
    have := hnet u v
    omega

/-- A triangle with a hole in it, and the same seen from behind: a pillow. A point, a spike and a
face without points come between. -/
def pillow : List (Addition Float) :=
  let outer : List (Vec3 Float) := [⟨0.0, 0.0, 0.0⟩, ⟨4.0, 0.0, 0.0⟩, ⟨0.0, 4.0, 0.0⟩]
  let hole : List (Vec3 Float) := [⟨1.0, 1.0, 0.0⟩, ⟨1.0, 2.0, -0.0⟩, ⟨2.0, 1.0, 0.0⟩]
  [.faceWithHoles outer [hole, []], .vertex ⟨9.0, 9.0, 9.0⟩,
    .face [⟨0.0, 0.0, 0.0⟩, ⟨-0.0, 0.0, 0.0⟩, ⟨5.0, 5.0, 5.0⟩], .faceWithHoles [] [[]],
    .faceWithHoles outer.reverse [hole.reverse]]

theorem closed_pillow : (∀ a ∈ pillow, a.EnclosesHoles) ∧ (addAll {} pillow).Closed := by
  have h : ∀ a ∈ pillow, a.EnclosesHoles := by
    simp [pillow, Addition.EnclosesHoles]
  have hb : Balanced (edgesBy Vec3.weldKey (pillow.flatMap Addition.loops)) := by
    rw [balanced_iff_perm]
    decide +kernel
  exact ⟨h, (net_edges_addAll pillow h).2.2.2 hb⟩

end Mesh
end BuildingModel.Geometry
