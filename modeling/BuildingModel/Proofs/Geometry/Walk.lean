import BuildingModel.Geometry.Mesh
import Mathlib.Data.ENat.Lattice

/-!
# Walks over any half-edges

In a mesh that is not known to be well-formed, an edge may lead to an edge that is missing, start at
a point that is missing, or lead round without end. From a cursor, edge after edge is met up to the
first one without an edge or a point (`met?`); how many there are is a number or infinite (`reach`).
A walk with a limit meets these edges in order (`getElem?_walk`), all of them or as many as it may
(`length_walk`).
-/

namespace BuildingModel.Geometry.Mesh

variable {K : Type}

/-- The edge at a cursor and the point where it starts, if both exist. -/
def edgeAt? (m : Mesh K) (cursor : Option Nat) : Option (HalfEdge × Vec3 K) := do
  let edge ← m.edges[← cursor]?
  let p ← m.vertices[edge.origin]?
  return (edge, p)

/-- The numbered edge on the way from a cursor and the point where it starts. There is none where
the way has ended before. -/
def met? (m : Mesh K) (cursor : Option Nat) : Nat → Option (HalfEdge × Vec3 K)
  | 0 => m.edgeAt? cursor
  | k + 1 => (m.met? cursor k).bind fun q => m.edgeAt? (some q.1.next)

/-- How many edges are met on the way from a cursor before an edge or a point is missing. -/
noncomputable def reach (m : Mesh K) (cursor : Option Nat) : ℕ∞ :=
  ⨅ (k : ℕ) (_ : m.met? cursor k = none), (k : ℕ∞)

variable (m : Mesh K)

/-- The way from a cursor is that from the edge at the cursor, after this edge. -/
theorem met?_succ (cursor : Option Nat) (k : Nat) :
    m.met? cursor (k + 1) = (m.edgeAt? cursor).bind fun q => m.met? (some q.1.next) k := by
  induction k with
  | zero => rfl
  | succ k ih =>
    rw [met?, ih, Option.bind_assoc]
    rfl

theorem walk_succ (count : Nat) (cursor : Option Nat) :
    m.walk (count + 1) cursor =
      (m.edgeAt? cursor).elim [] fun q => q :: m.walk count (some q.1.next) := by
  rw [walk]
  cases cursor with
  | none => rfl
  | some e =>
    rw [Option.bind_some]
    cases he : m.edges[e]? with
    | none => simp [edgeAt?, he]
    | some edge => cases hp : m.vertices[edge.origin]? <;> simp [edgeAt?, he, hp]

/-- A walk meets the edges on the way, up to its limit. -/
theorem getElem?_walk (count : Nat) (cursor : Option Nat) (k : Nat) :
    (m.walk count cursor)[k]? = if k < count then m.met? cursor k else none := by
  induction count generalizing cursor k with
  | zero => rfl
  | succ count ih =>
    rw [walk_succ]
    cases k with
    | zero => cases h : m.edgeAt? cursor <;> simp [met?, h]
    | succ k => cases h : m.edgeAt? cursor <;> simp [met?_succ, h, ih]

theorem lt_length_walk_iff {count k : Nat} {cursor : Option Nat} :
    k < (m.walk count cursor).length ↔ k < count ∧ m.met? cursor k ≠ none := by
  rw [← Nat.not_le, ← List.getElem?_eq_none_iff, getElem?_walk]
  split <;> simp [*]

/-- A walk is as long as its limit or the way allows. -/
theorem length_walk (count : Nat) (cursor : Option Nat) :
    ((m.walk count cursor).length : ℕ∞) = min (count : ℕ∞) (m.reach cursor) := by
  have hlimit : (m.walk count cursor).length ≤ count :=
    Nat.le_of_not_lt fun h => Nat.lt_irrefl _ (m.lt_length_walk_iff.1 h).1
  refine le_antisymm (le_min (Nat.cast_le.2 hlimit) (le_iInf₂ fun k hk => ?_)) ?_
  · -- The walk does not go beyond the end of the way.
    exact Nat.cast_le.2 (Nat.le_of_not_lt fun h => (m.lt_length_walk_iff.1 h).2 hk)
  · by_cases hend : m.met? cursor (m.walk count cursor).length = none
    · exact min_le_of_right_le (iInf₂_le (m.walk count cursor).length hend)
    · -- The way goes on, so it is the limit that ends the walk.
      have hcount : count ≤ (m.walk count cursor).length :=
        Nat.le_of_not_lt fun h => Nat.lt_irrefl _ (m.lt_length_walk_iff.2 ⟨h, hend⟩)
      exact min_le_of_left_le (Nat.cast_le.2 hcount)

end BuildingModel.Geometry.Mesh
