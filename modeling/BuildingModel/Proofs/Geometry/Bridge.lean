import BuildingModel.Geometry.Bridge
import BuildingModel.Proofs.Geometry.Cycle
import Mathlib.Data.List.Basic

/-!
# Crossings between loops

A hole is joined to a loop at a corner of each, whatever the distances are (`nearestPair_lt`): also
when all of them are without bound or no numbers. The joined loop runs from the corner of the outer
loop once around the hole, and from there once around the outer loop (`exists_splice_eq`).
-/

namespace BuildingModel.Geometry

/-! ## The nearest pair -/

section

variable {K : Type}

/-- What was found is a pair of positions before the given ones. -/
def FoundBefore (m n : Nat) (found : Option (Nat × Nat × K)) : Prop :=
  ∀ c ∈ found, c.1 < m ∧ c.2.1 < n

theorem foundBefore_none (m n : Nat) : FoundBefore (K := K) m n none :=
  fun _ h => nomatch h

variable [Scalar K]

theorem FoundBefore.nearer {m n : Nat} {found : Option (Nat × Nat × K)}
    (h : FoundBefore m n found) {i j : Nat} (hi : i < m) (hj : j < n) (d : K) :
    FoundBefore m n (nearer found i j d) := by
  have hnew : FoundBefore m n (some (i, j, d)) := by
    rintro c ⟨⟩
    exact ⟨hi, hj⟩
  cases found with
  | none =>
    rw [Geometry.nearer]
    split
    · exact hnew
    · exact h
  | some c =>
    rw [Geometry.nearer]
    split
    · exact hnew
    · exact h

/-- A property that every step of a fold keeps holds at its end. -/
theorem foldl_zipIdx_invariant {α β : Type} {inv : β → Prop} {f : β → α × Nat → β} (l : List α)
    (hstep : ∀ b x i, i < l.length → inv b → inv (f b (x, i))) {b : β} (hb : inv b) :
    inv (l.zipIdx.foldl f b) := by
  refine List.foldlRecOn l.zipIdx f hb fun b hb xi hxi => ?_
  obtain ⟨x, i⟩ := xi
  exact hstep b x i (List.getElem?_eq_some_iff.1 (List.mem_zipIdx_iff_getElem?.1 hxi)).1 hb

/-- The nearest corners are corners. -/
theorem nearestPair_lt {a b : List (Vec3 K)} (ha : a ≠ []) (hb : b ≠ []) :
    (nearestPair a b).1 < a.length ∧ (nearestPair a b).2 < b.length := by
  have hfound : FoundBefore a.length b.length
      (a.zipIdx.foldl (fun found x =>
        b.zipIdx.foldl (fun found y => nearer found x.2 y.2 (x.1.sub y.1).normSquared) found)
        none) := by
    refine foldl_zipIdx_invariant a (fun found p i hi hfound => ?_) (foundBefore_none _ _)
    exact foldl_zipIdx_invariant b (fun _ _ j hj h => h.nearer hi hj _) hfound
  rw [nearestPair]
  split
  · next i j d heq => exact hfound _ heq
  · exact ⟨List.length_pos_iff.2 ha, List.length_pos_iff.2 hb⟩

end

/-! ## Joined loops -/

section

variable {α : Type} {outer hole : List α} {crossing : Nat × Nat} {x y : α}

/-- A joined loop, as the parts of the loop and the hole before and after the crossing. -/
theorem exists_splice_eq (hx : outer[crossing.1]? = some x) (hy : hole[crossing.2]? = some y) :
    ∃ o₁ o₂ r₁ r₂, outer = o₁ ++ x :: o₂ ∧ hole = r₁ ++ y :: r₂ ∧
      splice outer hole crossing = o₁ ++ [x] ++ y :: r₂ ++ (r₁ ++ [y]) ++ x :: o₂ := by
  obtain ⟨i, j⟩ := crossing
  obtain ⟨hi, rfl⟩ := List.getElem?_eq_some_iff.1 hx
  obtain ⟨hj, rfl⟩ := List.getElem?_eq_some_iff.1 hy
  refine ⟨outer.take i, outer.drop (i + 1), hole.take j, hole.drop (j + 1), ?_, ?_, ?_⟩
  · rw [List.getElem_cons_drop, List.take_append_drop]
  · rw [List.getElem_cons_drop, List.take_append_drop]
  · rw [List.getElem_cons_drop, List.getElem_cons_drop, List.take_append_getElem,
      List.take_append_getElem, splice]

/-- A joined loop starts where the loop does. -/
theorem head?_splice (hx : outer[crossing.1]? = some x) (hy : hole[crossing.2]? = some y) :
    (splice outer hole crossing).head? = outer.head? := by
  obtain ⟨o₁, o₂, r₁, r₂, rfl, -, h⟩ := exists_splice_eq hx hy
  rw [h]
  cases o₁ with
  | nil => rfl
  | cons a o₁ => rfl

/-- The points of the crossing come twice. -/
theorem length_splice (hx : outer[crossing.1]? = some x) (hy : hole[crossing.2]? = some y) :
    (splice outer hole crossing).length = outer.length + (hole.length + 2) := by
  obtain ⟨o₁, o₂, r₁, r₂, rfl, rfl, h⟩ := exists_splice_eq hx hy
  rw [h]
  simp only [List.length_append, List.length_cons, List.length_nil]
  omega

/-- A joined loop has the edges of the loop and of the hole, and passes the crossing in both
directions. -/
theorem perm_cyclicPairs_splice (hx : outer[crossing.1]? = some x)
    (hy : hole[crossing.2]? = some y) :
    (cyclicPairs (splice outer hole crossing)).Perm
      (cyclicPairs outer ++ cyclicPairs hole ++ [(x, y), (y, x)]) := by
  obtain ⟨o₁, o₂, r₁, r₂, rfl, rfl, h⟩ := exists_splice_eq hx hy
  -- From the corner of the loop, the joined loop runs around the hole and then around the loop.
  have hparts : splice (o₁ ++ x :: o₂) (r₁ ++ y :: r₂) crossing =
      o₁ ++ (x :: (y :: (r₂ ++ r₁) ++ [y]) ++ x :: o₂) := by
    rw [h]
    simp only [List.append_assoc, List.cons_append, List.nil_append]
  have hturn : (cyclicPairs (x :: (y :: (r₂ ++ r₁) ++ [y]))).Perm
      (cyclicPairs (r₁ ++ y :: r₂) ++ [(x, y), (y, x)]) := by
    refine (perm_cyclicPairs_append_comm [x] (y :: (r₂ ++ r₁) ++ [y])).trans ?_
    rw [List.append_assoc, List.singleton_append, cyclicPairs_append_self]
    exact (perm_cyclicPairs_append_comm (y :: r₂) r₁).append (.swap _ _ _)
  calc cyclicPairs (splice (o₁ ++ x :: o₂) (r₁ ++ y :: r₂) crossing)
      = cyclicPairs (o₁ ++ (x :: (y :: (r₂ ++ r₁) ++ [y]) ++ x :: o₂)) := by rw [hparts]
    List.Perm _ (cyclicPairs (x :: (y :: (r₂ ++ r₁) ++ [y]) ++ x :: o₂ ++ o₁)) :=
        perm_cyclicPairs_append_comm _ _
    _ = cyclicPairs (x :: (y :: (r₂ ++ r₁) ++ [y])) ++ cyclicPairs (x :: (o₂ ++ o₁)) := by
        rw [List.append_assoc]
        exact cyclicPairs_append_self _ _ _
    List.Perm _ (cyclicPairs (r₁ ++ y :: r₂) ++ [(x, y), (y, x)] ++ cyclicPairs (o₁ ++ x :: o₂)) :=
        hturn.append (perm_cyclicPairs_append_comm (x :: o₂) o₁)
    List.Perm _ (cyclicPairs (o₁ ++ x :: o₂) ++ cyclicPairs (r₁ ++ y :: r₂) ++ [(x, y), (y, x)]) :=
        List.perm_append_comm.trans (.of_eq (List.append_assoc _ _ _).symm)

end

variable {K : Type} [Scalar K] {outer hole : List (Vec3 K)}

@[simp]
theorem bridge_nil (outer : List (Vec3 K)) : bridge outer [] = outer := rfl

theorem bridge_cons (outer hole : List (Vec3 K)) (holes : List (List (Vec3 K))) :
    bridge outer (hole :: holes) = bridge (bridgeHole outer hole) holes := rfl

theorem bridgeHole_nil_right (outer : List (Vec3 K)) : bridgeHole outer [] = outer := by
  rw [bridgeHole, List.isEmpty_nil, Bool.or_true, if_pos rfl]

theorem bridgeHole_of_ne_nil (ho : outer ≠ []) (hh : hole ≠ []) :
    bridgeHole outer hole = splice outer hole (nearestPair outer hole) := by
  rw [bridgeHole, List.isEmpty_eq_false_iff.2 ho, List.isEmpty_eq_false_iff.2 hh]
  rfl

/-- Corners of a loop and a hole that both have some are found, whatever the distances are. -/
theorem exists_nearestPair {a b : List (Vec3 K)} (ha : a ≠ []) (hb : b ≠ []) :
    ∃ x y, a[(nearestPair a b).1]? = some x ∧ b[(nearestPair a b).2]? = some y := by
  obtain ⟨hi, hj⟩ := nearestPair_lt ha hb
  exact ⟨_, _, List.getElem?_eq_getElem hi, List.getElem?_eq_getElem hj⟩

theorem head?_bridgeHole (outer hole : List (Vec3 K)) :
    (bridgeHole outer hole).head? = outer.head? := by
  rcases eq_or_ne outer [] with rfl | ho
  · rfl
  rcases eq_or_ne hole [] with rfl | hh
  · rw [bridgeHole_nil_right]
  obtain ⟨x, y, hx, hy⟩ := exists_nearestPair ho hh
  rw [bridgeHole_of_ne_nil ho hh, head?_splice hx hy]

/-- A loop with corners keeps some. -/
theorem bridgeHole_ne_nil (ho : outer ≠ []) (hole : List (Vec3 K)) :
    bridgeHole outer hole ≠ [] := by
  intro h
  have := head?_bridgeHole outer hole
  rw [h] at this
  exact ho (List.head?_eq_none_iff.1 this.symm)

end BuildingModel.Geometry
