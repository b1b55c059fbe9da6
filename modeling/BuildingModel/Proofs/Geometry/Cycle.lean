import BuildingModel.Geometry.Mesh
import Mathlib.Data.List.Chain
import Mathlib.Data.List.Rotate
import Mathlib.Data.List.Zip

/-!
# Closed loops

The neighbours on a closed loop, and what is left of a loop of vertices when its repeats collapse:
the corners of a loop are some of its vertices in their order (`corners_sublist`), neighbours among
them are different, also across the seam (`ne_of_mem_cyclicPairs_corners`), and along them the
vertex changes as it does along the loop (`changes_corners`).
-/

namespace BuildingModel.Geometry

/-! ## Neighbours -/

section

variable {α β : Type}

theorem cyclicPairs_cons (a : α) (l : List α) : cyclicPairs (a :: l) = (a :: l).zip (l ++ [a]) :=
  rfl

@[simp]
theorem length_cyclicPairs (l : List α) : (cyclicPairs l).length = l.length := by
  cases l with
  | nil => rfl
  | cons a l => simp [cyclicPairs_cons]

/-- After a place on a closed loop comes the next one, or the first place. -/
theorem getElem?_cyclicPairs {l : List α} {i : Nat} (hi : i < l.length)
    (hnext : (i + 1) % l.length < l.length) :
    (cyclicPairs l)[i]? = some (l[i], l[(i + 1) % l.length]) := by
  cases l with
  | nil => cases hi
  | cons a l =>
    rw [cyclicPairs_cons, List.getElem?_zip_eq_some]
    refine ⟨List.getElem?_eq_getElem hi, ?_⟩
    rcases Nat.lt_or_eq_of_le (Nat.le_of_lt_succ hi) with hlt | rfl
    · simp [List.getElem?_append_left hlt, Nat.mod_eq_of_lt (Nat.succ_lt_succ hlt), hlt]
    · simp

theorem cyclicPairs_map (f : α → β) (l : List α) :
    cyclicPairs (l.map f) = (cyclicPairs l).map (Prod.map f f) := by
  cases l with
  | nil => rfl
  | cons a l =>
    rw [List.map_cons, cyclicPairs_cons, cyclicPairs_cons, ← List.zip_map, List.map_append]
    rfl

theorem map_fst_cyclicPairs (l : List α) : (cyclicPairs l).map Prod.fst = l := by
  cases l with
  | nil => rfl
  | cons a l => exact List.map_fst_zip (by simp)

theorem map_snd_cyclicPairs (l : List α) : (cyclicPairs l).map Prod.snd = l.rotate 1 := by
  cases l with
  | nil => rfl
  | cons a l =>
    rw [List.rotate_cons_succ, List.rotate_zero]
    exact List.map_snd_zip (by simp)

/-- A closed loop through two points runs from one to the other and back. -/
theorem cyclicPairs_append (a : α) (l : List α) (b : α) (m : List α) :
    cyclicPairs (a :: l ++ b :: m) = (a :: l).zip (l ++ [b]) ++ (b :: m).zip (m ++ [a]) := by
  have h : (a :: l).length = (l ++ [b]).length := by simp
  rw [← List.zip_append h, List.append_assoc, List.singleton_append, List.cons_append,
    cyclicPairs_cons, List.append_assoc, List.cons_append]

/-- A closed loop that comes to its start again is two loops. -/
theorem cyclicPairs_append_self (a : α) (l m : List α) :
    cyclicPairs (a :: l ++ a :: m) = cyclicPairs (a :: l) ++ cyclicPairs (a :: m) :=
  cyclicPairs_append a l a m

/-- It does not matter where a closed loop starts. -/
theorem perm_cyclicPairs_append_comm (l m : List α) :
    (cyclicPairs (l ++ m)).Perm (cyclicPairs (m ++ l)) := by
  cases l with
  | nil => rw [List.nil_append, List.append_nil]
  | cons a l =>
    cases m with
    | nil => rw [List.nil_append, List.append_nil]
    | cons b m =>
      rw [cyclicPairs_append, cyclicPairs_append]
      exact List.perm_append_comm

/-- Against its direction, the edges of a closed loop are passed the other way. -/
theorem perm_cyclicPairs_reverse (l : List α) :
    (cyclicPairs l.reverse).Perm ((cyclicPairs l).map Prod.swap) := by
  cases l with
  | nil => exact .refl _
  | cons a l =>
    have hlen : (l ++ [a]).length = (a :: l).length := by simp
    have hback : ((cyclicPairs (a :: l)).map Prod.swap).reverse = cyclicPairs (a :: l.reverse) := by
      rw [cyclicPairs_cons, cyclicPairs_cons, List.zip_swap, List.zip_eq_zipWith,
        List.reverse_zipWith hlen, List.reverse_concat, List.reverse_cons, List.zip_eq_zipWith]
    rw [List.reverse_cons]
    refine (perm_cyclicPairs_append_comm l.reverse [a]).trans ?_
    rw [List.singleton_append, ← hback]
    exact List.reverse_perm _

/-- A relation holds between all neighbours of a closed loop if the loop, run once more to its
start, is a chain. -/
theorem forall_cyclicPairs_iff {r : α → α → Prop} (a : α) (l : List α) :
    (∀ p ∈ cyclicPairs (a :: l), r p.1 p.2) ↔ List.IsChain r (a :: (l ++ [a])) := by
  -- The end of the loop stays where it is while the front moves along.
  suffices h : ∀ z,
      (∀ p ∈ (a :: l).zip (l ++ [z]), r p.1 p.2) ↔ List.IsChain r (a :: (l ++ [z])) from h a
  intro z
  induction l generalizing a with
  | nil => simp
  | cons b l ih =>
    rw [List.cons_append, List.zip_cons_cons, List.forall_mem_cons, List.isChain_cons_cons, ih]

/-- The neighbours on a closed loop that differ. -/
def changes [DecidableEq α] (l : List α) : List (α × α) :=
  (cyclicPairs l).filter fun p => p.1 ≠ p.2

theorem length_changes_le [DecidableEq α] (l : List α) : (changes l).length ≤ l.length :=
  (List.length_filter_le _ _).trans (length_cyclicPairs l).le

end

/-! ## Corners -/

namespace Mesh

theorem dropRepeats_sublist (l : List Nat) : (dropRepeats l).Sublist l := by
  fun_induction dropRepeats l with
  | case1 a l ih => exact ih.cons a
  | case2 a b l _ ih => exact ih.cons_cons a
  | case3 l => exact .refl l

@[simp]
theorem head?_dropRepeats (l : List Nat) : (dropRepeats l).head? = l.head? := by
  fun_induction dropRepeats l with
  | case1 a l ih => exact ih
  | case2 a b l => rfl
  | case3 l => rfl

/-- Neighbours that are left are different. -/
theorem isChain_dropRepeats (l : List Nat) : (dropRepeats l).IsChain (· ≠ ·) := by
  fun_induction dropRepeats l with
  | case1 a l ih => exact ih
  | case2 a b l hab ih =>
    refine List.isChain_cons.2 ⟨fun c hc => ?_, ih⟩
    rw [head?_dropRepeats, List.head?_cons, Option.mem_some_iff] at hc
    rwa [← hc]
  | case3 l hl =>
    -- Only lists with fewer than two members are left.
    match l, hl with
    | [], _ => exact .nil
    | [a], _ => exact .singleton a
    | a :: b :: l, hl => exact absurd rfl (hl a b l)

theorem corners_eq_of_cons {vs : List Nat} {a : Nat} {l : List Nat} (h : dropRepeats vs = a :: l) :
    corners vs = if l.getLast? = some a then a :: l.dropLast else a :: l := by
  rw [corners, h]

/-- Either no repeat is left across the seam, or the last vertex repeats the first one and goes. -/
theorem corners_cases (vs : List Nat) :
    (corners vs = dropRepeats vs ∧ ∀ a l, dropRepeats vs = a :: l → l.getLast? ≠ some a) ∨
      ∃ a l, dropRepeats vs = a :: (l ++ [a]) ∧ corners vs = a :: l := by
  cases h : dropRepeats vs with
  | nil => exact .inl ⟨by rw [corners, h], by simp⟩
  | cons a l =>
    rw [corners_eq_of_cons h]
    split
    · next hlast =>
      obtain ⟨l, rfl⟩ := List.getLast?_eq_some_iff.1 hlast
      exact .inr ⟨a, l, rfl, by rw [List.dropLast_concat]⟩
    · next hlast =>
      refine .inl ⟨rfl, fun b m hb => ?_⟩
      obtain ⟨rfl, rfl⟩ := List.cons.inj hb
      exact hlast

/-- Corners are vertices of the loop. -/
theorem corners_sublist (vs : List Nat) : (corners vs).Sublist vs := by
  refine List.Sublist.trans ?_ (dropRepeats_sublist vs)
  rcases corners_cases vs with ⟨h, -⟩ | ⟨a, l, h, hc⟩
  · rw [h]
  · rw [h, hc]
    exact (List.sublist_append_left l [a]).cons_cons a

/-- Neighbouring corners are different, unless there is only one. -/
theorem ne_of_mem_cyclicPairs_corners {vs : List Nat} (h : 1 < (corners vs).length) :
    ∀ p ∈ cyclicPairs (corners vs), p.1 ≠ p.2 := by
  have hchain := isChain_dropRepeats vs
  rcases corners_cases vs with ⟨hc, hseam⟩ | ⟨a, l, hd, hc⟩
  · cases hd : dropRepeats vs with
    | nil => rw [hc, hd] at h; cases h
    | cons a l =>
      rw [hc, hd, forall_cyclicPairs_iff, ← List.cons_append, List.isChain_append]
      rw [hd] at hchain
      refine ⟨hchain, List.isChain_singleton a, fun b hb c hcmem => ?_⟩
      rw [List.head?_cons, Option.mem_some_iff] at hcmem
      -- The last corner is not the first one, as there are others between them.
      have hl : l ≠ [] := by
        rintro rfl
        rw [hc, hd] at h
        exact Nat.lt_irrefl _ h
      rw [List.getLast?_cons_of_ne_nil hl] at hb
      rintro rfl
      exact hseam a l hd (by rw [hcmem]; exact hb)
  · rw [hc, forall_cyclicPairs_iff]
    rwa [hd] at hchain

/-! ## Changes along a loop -/

/-- What collapses are the edges that do not change the vertex. -/
theorem filter_zip_dropRepeats (l : List Nat) (z : Nat) :
    ((dropRepeats l).zip ((dropRepeats l).tail ++ [z])).filter (fun p => p.1 ≠ p.2) =
      (l.zip (l.tail ++ [z])).filter fun p => p.1 ≠ p.2 := by
  fun_induction dropRepeats l with
  | case1 a l ih => simpa using ih
  | case2 a b l hab ih =>
    obtain ⟨m, hm⟩ := List.head?_eq_some_iff.1
      ((head?_dropRepeats (b :: l)).trans List.head?_cons)
    rw [hm] at ih ⊢
    simpa [hab] using ih
  | case3 l => rfl

theorem changes_dropRepeats (vs : List Nat) : changes (dropRepeats vs) = changes vs := by
  cases vs with
  | nil => rfl
  | cons a l =>
    obtain ⟨m, hm⟩ := List.head?_eq_some_iff.1
      ((head?_dropRepeats (a :: l)).trans List.head?_cons)
    have h := filter_zip_dropRepeats (a :: l) a
    rw [hm] at h ⊢
    exact h

/-- Along the corners of a loop, the vertex changes as it does along the loop. -/
theorem changes_corners (vs : List Nat) : changes (corners vs) = changes vs := by
  rw [← changes_dropRepeats vs]
  rcases corners_cases vs with ⟨h, -⟩ | ⟨a, l, hd, hc⟩
  · rw [h]
  · have hseam : a :: (l ++ [a]) = a :: l ++ a :: [] := rfl
    rw [hd, hc, hseam, changes, changes, cyclicPairs_append_self, List.filter_append]
    simp [cyclicPairs_cons]

/-- The corners that are left are as many as there are changes of the vertex, unless it is only
one. -/
theorem length_corners {vs : List Nat} (h : 1 < (corners vs).length) :
    (corners vs).length = (changes vs).length := by
  have hne : ∀ p ∈ cyclicPairs (corners vs), decide (p.1 ≠ p.2) = true := fun p hp =>
    decide_eq_true (ne_of_mem_cyclicPairs_corners h p hp)
  rw [← changes_corners, changes, List.filter_eq_self.2 hne, length_cyclicPairs]

/-- Enough corners for a face are left if the vertex changes three times. -/
theorem three_le_length_corners_iff (vs : List Nat) :
    3 ≤ (corners vs).length ↔ 3 ≤ (changes vs).length := by
  constructor
  · intro h
    rwa [length_corners (by omega)] at h
  · intro h
    rw [← changes_corners] at h
    exact h.trans (length_changes_le _)

theorem mem_dropRepeats {a : Nat} {l : List Nat} : a ∈ dropRepeats l ↔ a ∈ l := by
  fun_induction dropRepeats l with
  | case1 b l ih => rw [ih]; simp
  | case2 b c l _ ih =>
    rw [List.mem_cons, ih]
    exact List.mem_cons.symm
  | case3 l => rfl

/-- Every vertex of a loop is one of its corners. -/
theorem mem_corners {a : Nat} {vs : List Nat} : a ∈ corners vs ↔ a ∈ vs := by
  rw [← mem_dropRepeats (l := vs)]
  rcases corners_cases vs with ⟨h, -⟩ | ⟨b, l, hd, hc⟩
  · rw [h]
  · rw [hd, hc, List.mem_cons, List.mem_cons, List.mem_append, List.mem_singleton, ← or_assoc,
      or_right_comm, or_self]

end Mesh

end BuildingModel.Geometry
