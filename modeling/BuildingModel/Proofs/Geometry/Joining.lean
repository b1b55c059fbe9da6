import BuildingModel.Proofs.Geometry.Bridge
import Mathlib.Algebra.Ring.Nat

/-!
# Loops joined with holes

The holes of a face are joined to its loop one after the other. Each hole with points adds its own
edges and one crossing, which leads from a corner of the loop joined so far to a corner of the hole
and is passed in both directions (`Crosses`). Whatever the distances between the corners are, the
crossing is found, and the joined loop starts where the loop around the holes does
(`bridge_joins_holes`).
-/

namespace BuildingModel.Geometry

/-- The holes that have points. -/
def holesWithPoints {α : Type} (holes : List (List α)) : List (List α) :=
  holes.filter fun hole => !hole.isEmpty

/-- The edges of crossings, in both directions. -/
def passes {α : Type} (crossings : List (α × α)) : List (α × α) :=
  crossings.flatMap fun c => [c, c.swap]

section

variable {α : Type}

theorem holesWithPoints_nil_cons (holes : List (List α)) :
    holesWithPoints ([] :: holes) = holesWithPoints holes := rfl

theorem holesWithPoints_cons {hole : List α} (h : hole ≠ []) (holes : List (List α)) :
    holesWithPoints (hole :: holes) = hole :: holesWithPoints holes := by
  rw [holesWithPoints, List.filter_cons_of_pos (by simpa using h), holesWithPoints]

theorem passes_cons (a b : α) (crossings : List (α × α)) :
    passes ((a, b) :: crossings) = [(a, b), (b, a)] ++ passes crossings := rfl

end

variable {K : Type} [Scalar K]

/-- For every hole there is a crossing, from the corner of the loop joined so far to the corner of
the hole that are found nearest to each other. -/
def Crosses (outer : List (Vec3 K)) (holes : List (List (Vec3 K)))
    (crossings : List (Vec3 K × Vec3 K)) : Prop :=
  crossings.length = holes.length ∧
    ∀ k hole, holes[k]? = some hole → ∃ a b, crossings[k]? = some (a, b) ∧
      (bridge outer (holes.take k))[(nearestPair (bridge outer (holes.take k)) hole).1]? = some a ∧
      hole[(nearestPair (bridge outer (holes.take k)) hole).2]? = some b

theorem bridge_nil_cons (outer : List (Vec3 K)) (holes : List (List (Vec3 K))) :
    bridge outer ([] :: holes) = bridge outer holes := by
  rw [bridge_cons, bridgeHole_nil_right]

/-- Without a loop there is nothing to join holes to. -/
theorem bridge_nil_left (holes : List (List (Vec3 K))) :
    bridge ([] : List (Vec3 K)) holes = [] := by
  induction holes with
  | nil => rfl
  | cons hole holes ih => exact ih

/-- The crossing to the first hole comes before those to the other ones. -/
theorem Crosses.cons {outer hole : List (Vec3 K)} {holes : List (List (Vec3 K))} {a b : Vec3 K}
    {crossings : List (Vec3 K × Vec3 K)} (ha : outer[(nearestPair outer hole).1]? = some a)
    (hb : hole[(nearestPair outer hole).2]? = some b)
    (h : Crosses (bridgeHole outer hole) holes crossings) :
    Crosses outer (hole :: holes) ((a, b) :: crossings) := by
  refine ⟨congrArg (· + 1) h.1, fun k hole' hk => ?_⟩
  cases k with
  | zero =>
    obtain rfl : hole = hole' := by simpa using hk
    exact ⟨a, b, rfl, ha, hb⟩
  | succ k => exact h.2 k hole' hk

theorem head?_bridge (outer : List (Vec3 K)) (holes : List (List (Vec3 K))) :
    (bridge outer holes).head? = outer.head? := by
  induction holes generalizing outer with
  | nil => rfl
  | cons hole holes ih => rw [bridge_cons, ih, head?_bridgeHole]

/-- Every hole with points adds its points and those of a crossing. -/
theorem length_bridge {outer : List (Vec3 K)} (ho : outer ≠ []) (holes : List (List (Vec3 K))) :
    (bridge outer holes).length =
      outer.length + ((holesWithPoints holes).map fun hole => hole.length + 2).sum := by
  induction holes generalizing outer with
  | nil => rfl
  | cons hole holes ih =>
    rcases eq_or_ne hole [] with rfl | hh
    · rw [bridge_nil_cons, holesWithPoints_nil_cons, ih ho]
    · obtain ⟨a, b, ha, hb⟩ := exists_nearestPair ho hh
      rw [bridge_cons, ih (bridgeHole_ne_nil ho hole), bridgeHole_of_ne_nil ho hh,
        length_splice ha hb, holesWithPoints_cons hh, List.map_cons, List.sum_cons, Nat.add_assoc]

/-- The edges of a joined loop are those of the loop, of the holes and of the crossings. -/
theorem exists_crosses {outer : List (Vec3 K)} (ho : outer ≠ []) (holes : List (List (Vec3 K))) :
    ∃ crossings, Crosses outer (holesWithPoints holes) crossings ∧
      (cyclicPairs (bridge outer holes)).Perm
        (cyclicPairs outer ++ (holesWithPoints holes).flatMap cyclicPairs ++ passes crossings) := by
  induction holes generalizing outer with
  | nil =>
    refine ⟨[], ⟨rfl, fun k hole hk => by cases hk⟩, ?_⟩
    rw [bridge_nil]
    simp [holesWithPoints, passes]
  | cons hole holes ih =>
    rcases eq_or_ne hole [] with rfl | hh
    · rw [bridge_nil_cons, holesWithPoints_nil_cons]
      exact ih ho
    · obtain ⟨a, b, ha, hb⟩ := exists_nearestPair ho hh
      obtain ⟨crossings, hc, hperm⟩ := ih (bridgeHole_ne_nil ho hole)
      rw [holesWithPoints_cons hh]
      refine ⟨(a, b) :: crossings, hc.cons ha hb, ?_⟩
      have hstep : (cyclicPairs (bridgeHole outer hole)).Perm
          (cyclicPairs outer ++ cyclicPairs hole ++ [(a, b), (b, a)]) := by
        rw [bridgeHole_of_ne_nil ho hh]
        exact perm_cyclicPairs_splice ha hb
      rw [bridge_cons, List.flatMap_cons, passes_cons]
      refine hperm.trans (((hstep.append_right _).append_right _).trans ?_)
      simp only [List.append_assoc]
      exact ((List.perm_append_comm_assoc _ _ _).append_left _).append_left _

/-- A joined loop has the points of the loop and of the holes. -/
theorem mem_bridge {outer : List (Vec3 K)} (ho : outer ≠ []) {holes : List (List (Vec3 K))}
    {loop : List (Vec3 K)} (hloop : loop ∈ outer :: holes) {p : Vec3 K} (hp : p ∈ loop) :
    p ∈ bridge outer holes := by
  obtain ⟨crossings, -, hperm⟩ := exists_crosses ho holes
  rw [← map_fst_cyclicPairs loop] at hp
  obtain ⟨e, he, rfl⟩ := List.mem_map.1 hp
  rw [← map_fst_cyclicPairs (bridge outer holes)]
  refine List.mem_map_of_mem (hperm.mem_iff.2 (List.mem_append_left _ ?_))
  rcases List.mem_cons.1 hloop with rfl | hhole
  · exact List.mem_append_left _ he
  · refine List.mem_append_right _ (List.mem_flatMap.2 ⟨loop, List.mem_filter.2 ⟨hhole, ?_⟩, he⟩)
    cases loop with
    | nil => cases he
    | cons q loop => rfl

/-- Holes are joined to a loop with points, whatever the distances are. The joined loop starts where
the loop does and has the points of the loop, those of the holes, and two for every crossing. Its
edges are those of the loop and of the holes, and the crossings in both directions, each of which
leads from a corner of the loop joined so far to a corner of the hole. Without a loop, nothing is
left. -/
theorem bridge_joins_holes :
    (∀ holes : List (List (Vec3 K)), bridge ([] : List (Vec3 K)) holes = []) ∧
      ∀ (outer : List (Vec3 K)) (holes : List (List (Vec3 K))), outer ≠ [] →
        (bridge outer holes).head? = outer.head? ∧
        (bridge outer holes).length =
          outer.length + ((holesWithPoints holes).map fun hole => hole.length + 2).sum ∧
        ∃ crossings, Crosses outer (holesWithPoints holes) crossings ∧
          (cyclicPairs (bridge outer holes)).Perm
            (cyclicPairs outer ++ (holesWithPoints holes).flatMap cyclicPairs ++
              passes crossings) :=
  ⟨bridge_nil_left, fun outer holes ho =>
    ⟨head?_bridge outer holes, length_bridge ho holes, exists_crosses ho holes⟩⟩

/-- A loop so large that the squares of its distances are without bound. -/
def farLoop : List (Vec3 Float) :=
  [⟨1e200, 0.0, 0.0⟩, ⟨0.0, 1e200, 0.0⟩]

/-- A hole on the other side, one without points, and one that is nowhere. -/
def farHoles : List (List (Vec3 Float)) :=
  [[⟨-1e200, 0.0, 0.0⟩], [], [⟨0.0 / 0.0, 0.0, 0.0⟩, ⟨0.0, 0.0 / 0.0, 0.0⟩]]

/-- No distance is less than infinity, so the first corners are joined. -/
example : farHoles.map (nearestPair farLoop) = [(0, 0), (0, 0), (0, 0)] := by decide +kernel

theorem bridge_farHoles :
    farLoop ≠ [] ∧ (bridge farLoop farHoles).head? = some ⟨1e200, 0.0, 0.0⟩ ∧
      (bridge farLoop farHoles).length = 2 + (1 + 2) + (2 + 2) ∧
      ∃ crossings, Crosses farLoop (holesWithPoints farHoles) crossings ∧
        (cyclicPairs (bridge farLoop farHoles)).Perm
          (cyclicPairs farLoop ++ (holesWithPoints farHoles).flatMap cyclicPairs ++
            passes crossings) := by
  have hne : farLoop ≠ [] := List.cons_ne_nil _ _
  exact ⟨hne, bridge_joins_holes.2 farLoop farHoles hne⟩

end BuildingModel.Geometry
