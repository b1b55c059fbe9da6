import BuildingModel.Proofs.Geometry.Bridge
import Mathlib.Algebra.BigOperators.Group.List.Basic
import Mathlib.Algebra.Ring.Int.Defs
import Mathlib.Tactic.Abel

/-!
# Flows along loops

A flow gives every directed edge a number, opposite edges opposite numbers. What a flow sums up to
around a loop does not change when repeats collapse (`around_corners`) and turns its sign when the
loop is reversed (`around_reverse`); a loop joined with holes has the sums of all of them
(`around_bridge`), as the crossings are passed once in either direction.
-/

namespace BuildingModel.Geometry

/-- A number for every directed edge, opposite for opposite edges. -/
structure Flow (α : Type) where
  /-- The number of an edge. -/
  value : α → α → ℤ
  /-- Opposite edges have opposite numbers. -/
  value_swap : ∀ a b, value a b = -value b a

namespace Flow

variable {α β : Type} (F : Flow α)

theorem value_self (a : α) : F.value a a = 0 := by
  have h := F.value_swap a a
  omega

/-- The flow between points that stand for others. -/
def comap (g : β → α) : Flow β where
  value a b := F.value (g a) (g b)
  value_swap _ _ := F.value_swap _ _

/-- How often an edge is passed in its direction rather than against it. -/
def net [DecidableEq α] (u v : α) : Flow α where
  value a b := (if (a, b) = (u, v) then 1 else 0) - if (a, b) = (v, u) then 1 else 0
  value_swap a b := by
    have hswap (c d : α) : (b, a) = (c, d) ↔ (a, b) = (d, c) := by
      rw [Prod.mk.injEq, Prod.mk.injEq, and_comm]
    simp only [hswap, neg_sub]

/-- The sum of a flow over edges. -/
def total (edges : List (α × α)) : ℤ :=
  (edges.map fun p => F.value p.1 p.2).sum

@[simp]
theorem total_nil : F.total [] = 0 := rfl

@[simp]
theorem total_cons (p : α × α) (l : List (α × α)) :
    F.total (p :: l) = F.value p.1 p.2 + F.total l := rfl

@[simp]
theorem total_append (l m : List (α × α)) : F.total (l ++ m) = F.total l + F.total m := by
  rw [total, total, total, List.map_append, List.sum_append]

theorem total_net [DecidableEq α] (u v : α) (edges : List (α × α)) :
    (net u v).total edges = (edges.count (u, v) : ℤ) - edges.count (v, u) := by
  induction edges with
  | nil => rfl
  | cons p l ih =>
    rw [total_cons, ih, List.count_cons, List.count_cons]
    simp only [net, beq_iff_eq, Prod.mk.eta]
    push_cast
    omega

/-- The order of the edges does not matter. -/
theorem total_perm {l m : List (α × α)} (h : l.Perm m) : F.total l = F.total m :=
  (h.map _).sum_eq

theorem total_map_swap (l : List (α × α)) : F.total (l.map Prod.swap) = -F.total l := by
  induction l with
  | nil => rfl
  | cons p l ih =>
    rw [List.map_cons, total_cons, total_cons, ih, neg_add, Prod.fst_swap, Prod.snd_swap,
      F.value_swap]

/-- Edges that stay where they are do not count. -/
theorem total_filter_ne [DecidableEq α] (l : List (α × α)) :
    F.total (l.filter fun p => p.1 ≠ p.2) = F.total l := by
  induction l with
  | nil => rfl
  | cons p l ih =>
    obtain ⟨a, b⟩ := p
    by_cases h : a = b
    · subst h
      rw [List.filter_cons_of_neg (by simp), ih, total_cons, value_self, zero_add]
    · rw [List.filter_cons_of_pos (by simpa using h), total_cons, total_cons, ih]

/-! ## Loops -/

/-- The sum around a closed loop. -/
def around (l : List α) : ℤ :=
  F.total (cyclicPairs l)

@[simp]
theorem around_nil : F.around [] = 0 := rfl

theorem around_reverse (l : List α) : F.around l.reverse = -F.around l := by
  rw [around, F.total_perm (perm_cyclicPairs_reverse l), total_map_swap, around]

theorem around_map (g : β → α) (l : List β) : F.around (l.map g) = (F.comap g).around l := by
  rw [around, around, cyclicPairs_map, total, total, List.map_map]
  rfl

/-- Loops with fewer than three points run back on themselves. -/
theorem around_of_length_lt {l : List α} (h : l.length < 3) : F.around l = 0 := by
  match l, h with
  | [], _ => rfl
  | [a], _ => simp [around, cyclicPairs_cons, value_self]
  | [a, b], _ =>
    have := F.value_swap a b
    simp [around, cyclicPairs_cons, this]

/-- What collapses does not contribute. -/
theorem around_corners (F : Flow Nat) (vs : List Nat) :
    F.around (Mesh.corners vs) = F.around vs := by
  rw [around, around, ← F.total_filter_ne, ← F.total_filter_ne (cyclicPairs vs)]
  exact congrArg F.total (Mesh.changes_corners vs)

/-! ## Joining -/

/-- The crossing is passed in both directions, so loop and hole are left. -/
theorem around_splice {outer hole : List α} {crossing : Nat × Nat} {x y : α}
    (hx : outer[crossing.1]? = some x) (hy : hole[crossing.2]? = some y) :
    F.around (splice outer hole crossing) = F.around outer + F.around hole := by
  rw [around, F.total_perm (perm_cyclicPairs_splice hx hy), total_append, total_append, total_cons,
    total_cons, total_nil, F.value_swap y x, add_zero, add_neg_cancel, add_zero, around, around]

section

variable {K : Type} [Scalar K] (F : Flow (Vec3 K))

theorem around_bridgeHole {outer : List (Vec3 K)} (ho : outer ≠ []) (hole : List (Vec3 K)) :
    F.around (bridgeHole outer hole) = F.around outer + F.around hole := by
  rcases eq_or_ne hole [] with rfl | hh
  · rw [bridgeHole_nil_right, around_nil, add_zero]
  · obtain ⟨x, y, hx, hy⟩ := exists_nearestPair ho hh
    rw [bridgeHole_of_ne_nil ho hh, F.around_splice hx hy]

/-- A loop joined with holes has the sums of all of them. -/
theorem around_bridge {outer : List (Vec3 K)} (ho : outer ≠ []) (holes : List (List (Vec3 K))) :
    F.around (bridge outer holes) = F.around outer + (holes.map F.around).sum := by
  induction holes generalizing outer with
  | nil => rw [bridge_nil, List.map_nil, List.sum_nil, add_zero]
  | cons hole holes ih =>
    rw [bridge_cons, ih (bridgeHole_ne_nil ho hole), around_bridgeHole F ho, List.map_cons,
      List.sum_cons, add_assoc]

end

end Flow

end BuildingModel.Geometry
