import BuildingModel.Proofs.Geometry.Conservation
import Mathlib.Data.Finset.Card
import Mathlib.Data.Finset.Image

/-!
# Corners of faces

The faces of a mesh that is built are, in order, the corners of the loops that were added, as far as
three are left (`WellFormed.loops_addAll`). As only neighbours collapse, these three need not be
different: a loop that goes back and forth between two places, more than once, makes a face with two
vertices (`loop_pendulum`), and it is the only kind of loop that does (`three_le_card_corners_iff`).
-/

namespace BuildingModel.Geometry

namespace Mesh

variable {K : Type}

/-! ## The loops of a mesh -/

/-- The vertices along the loop of a face. -/
def vertexLoop (m : Mesh K) (f : Face) : List Nat :=
  (m.walk f.size f.start).map (·.1.origin)

/-- The loops of the faces in order. -/
def loops (m : Mesh K) : List (List Nat) :=
  m.faces.toList.map m.vertexLoop

/-- Edges and vertices that a mesh has more do not matter to a walk along its edges. -/
theorem WellFormed.walk_eq {m m' : Mesh K} (h : m.WellFormed) (hext : m'.Extends m)
    (hedges : ∀ e < m.edges.size, m'.edges[e]? = m.edges[e]?) (count : Nat) {e : Nat}
    (he : e < m.edges.size) : m'.walk count (some e) = m.walk count (some e) := by
  induction count generalizing e with
  | zero => rfl
  | succ count ih =>
    have hmem : m.edges[e] ∈ m.edges := Array.getElem_mem he
    have hvertex : m'.vertices[m.edges[e].origin]? = m.vertices[m.edges[e].origin]? := by
      obtain ⟨ps, hps⟩ := hext
      rw [hps, Array.getElem?_append_left (h.origin_lt _ hmem)]
    rw [walk, walk, Option.bind_some, Option.bind_some, hedges e he, Array.getElem?_eq_getElem he]
    simp only [hvertex, ih (h.next_lt _ hmem)]

theorem WellFormed.loops_eq {m m' : Mesh K} (h : m.WellFormed) (hext : m'.Extends m)
    (hedges : ∀ e < m.edges.size, m'.edges[e]? = m.edges[e]?) :
    m.faces.toList.map m'.vertexLoop = m.loops := by
  refine List.map_congr_left fun f hf => ?_
  obtain ⟨s, hs, hlt, -⟩ := h.isLoop f (Array.mem_toList_iff.1 hf)
  rw [vertexLoop, vertexLoop, hs, h.walk_eq hext hedges f.size hlt]

theorem WellFormed.loops_addsVertices {m m' : Mesh K} (h : m.WellFormed)
    (h' : m'.AddsVertices m) : m'.loops = m.loops := by
  rw [loops, h'.faces]
  exact h.loops_eq h'.vertices fun e _ => by rw [h'.edges]

/-- The walk along a new face meets its corners. -/
theorem map_origin_walk_addFace {m : Mesh K} {cs : List Nat}
    (hlt : ∀ c ∈ cs, c < m.vertices.size) (count i : Nat) (h : i + count ≤ cs.length) :
    ((m.addFace cs).walk count (some (m.edges.size + i))).map (·.1.origin) =
      (cs.drop i).take count := by
  induction count generalizing i with
  | zero => rfl
  | succ count ih =>
    have hi : i < cs.length := by omega
    obtain ⟨p, hp⟩ : ∃ p, (m.addFace cs).vertices[cs[i]]? = some p :=
      ⟨_, Array.getElem?_eq_getElem (hlt _ (List.getElem_mem hi))⟩
    rw [walk, Option.bind_some, edges_addFace_add hi]
    simp only [hp]
    rw [List.map_cons, List.drop_eq_getElem_cons hi, List.take_succ_cons]
    congr 1
    cases count with
    | zero => rfl
    | succ count =>
      -- The walk does not come back to the first corner before it ends.
      rw [Nat.mod_eq_of_lt (by omega)]
      exact ih (i + 1) (by omega)

theorem WellFormed.loops_addFace {m : Mesh K} (h : m.WellFormed) {cs : List Nat}
    (hcs : 0 < cs.length) (hlt : ∀ c ∈ cs, c < m.vertices.size) :
    (m.addFace cs).loops = m.loops ++ [cs] := by
  have hnew : (m.addFace cs).vertexLoop ⟨some m.edges.size, cs.length⟩ = cs := by
    have hwalk := map_origin_walk_addFace hlt cs.length 0 (by omega)
    rwa [Nat.add_zero, List.drop_zero, List.take_length] at hwalk
  rw [loops, faces_addFace hcs, Array.toList_push, List.map_append,
    h.loops_eq (extends_addFace m cs) fun e he => edges_addFace_of_lt he, List.map_singleton, hnew]

/-! ## The loops that were added -/

/-- The corners of a loop, if there are enough of them for a face. -/
def faceCorners (vs : List Nat) : Option (List Nat) :=
  if (corners vs).length < 3 then none else some (corners vs)

theorem faceCorners_eq_some_iff {vs cs : List Nat} :
    faceCorners vs = some cs ↔ 2 < (changes vs).length ∧ corners vs = cs := by
  rw [← Nat.succ_le_iff, ← three_le_length_corners_iff, faceCorners]
  split
  · next h => simp [Nat.not_le.2 h]
  · next h => simp [Nat.not_lt.1 h]

section

variable [Scalar K] [LawfulScalar K]

theorem WellFormed.loops_loop {m : Mesh K} (h : m.WellFormed) (ps : List (Vec3 K)) :
    (m.loop ps).2.loops = m.loops ++ (faceCorners (m.loopVertices ps).1).toList := by
  have hold := h.loops_addsVertices (addsVertices_loopVertices m ps)
  rw [loop_eq, faceCorners]
  split
  · rw [hold, Option.toList_none, List.append_nil]
  · next hlen =>
    rw [(h.loopVertices ps).loops_addFace (by omega) fun c hc =>
      lt_of_mem_loopVertices ((corners_sublist _).mem hc), hold, Option.toList_some]

/-- The faces that are added are the corners of the loops at their vertices, in order. -/
theorem WellFormed.loops_addAll {m : Mesh K} (h : m.WellFormed) (as : List (Addition K))
    {m' : Mesh K} (h' : m'.Extends (m.addAll as)) :
    (m.addAll as).loops =
      m.loops ++ as.filterMap fun a => faceCorners (a.points.map m'.vertexOf) := by
  induction as generalizing m with
  | nil => exact (List.append_nil _).symm
  | cons a as ih =>
    rw [addAll_cons] at h' ⊢
    have hvertices := map_vertexOf_loopVertices m a.points
      ((h'.trans (extends_addAll _ as)).trans (extends_loop_loopVertices m a.points))
    rw [ih (h.loop a.points) h', h.loops_loop, List.append_assoc, hvertices.symm]
    congr 1
    rw [List.filterMap_cons]
    cases faceCorners (a.points.map m'.vertexOf) <;> rfl

end

end Mesh

/-! ## Places -/

/-- The places of points: those with the same coordinates are at one place. -/
def places (ps : List (Vec3 Float)) : Finset (UInt64 × UInt64 × UInt64) :=
  (ps.map Vec3.weldKey).toFinset

/-- The loop goes back and forth between two places, more than once. -/
def BackAndForth (ps : List (Vec3 Float)) : Prop :=
  (places ps).card = 2 ∧ 2 < (changes (ps.map Vec3.weldKey)).length

instance (ps : List (Vec3 Float)) : Decidable (BackAndForth ps) :=
  inferInstanceAs (Decidable (_ ∧ _))

section

variable {α β : Type} [DecidableEq α] [DecidableEq β]

/-- What points stand for changes only where the points do. -/
theorem length_changes_map_le (f : α → β) (l : List α) :
    (changes (l.map f)).length ≤ (changes l).length := by
  rw [changes, changes, ← List.countP_eq_length_filter, ← List.countP_eq_length_filter,
    cyclicPairs_map, List.countP_map]
  refine List.countP_mono_left fun p _ hp => ?_
  rw [decide_eq_true_eq]
  rw [Function.comp_apply, decide_eq_true_eq] at hp
  exact fun h => hp (congrArg f h)

theorem card_toFinset_map_le (f : α → β) (l : List α) :
    (l.map f).toFinset.card ≤ l.toFinset.card := by
  have h : (l.map f).toFinset = l.toFinset.image f := Multiset.toFinset_map f (l : Multiset α)
  rw [h]
  exact Finset.card_image_le

/-- Where points change, there are two. -/
theorem one_lt_card_of_changes {l : List α} (h : changes l ≠ []) : 1 < l.toFinset.card := by
  obtain ⟨p, hp⟩ := List.exists_mem_of_ne_nil _ h
  obtain ⟨hp, hne⟩ := List.mem_filter.1 hp
  have h₁ : p.1 ∈ l := by
    rw [← map_fst_cyclicPairs l]
    exact List.mem_map_of_mem hp
  have h₂ : p.2 ∈ l := by
    rw [← List.mem_rotate (n := 1), ← map_snd_cyclicPairs l]
    exact List.mem_map_of_mem hp
  exact Finset.one_lt_card.2
    ⟨p.1, List.mem_toFinset.2 h₁, p.2, List.mem_toFinset.2 h₂, of_decide_eq_true hne⟩

end

namespace Mesh

/-- Every vertex of a loop is a corner of its face. -/
theorem toFinset_corners (vs : List Nat) : (corners vs).toFinset = vs.toFinset := by
  ext v
  rw [List.mem_toFinset, List.mem_toFinset, mem_corners]

/-- The vertices of points are as many, and change as often, as their places. -/
theorem card_and_changes_map_vertexOf {m : Mesh Float} {ps : List (Vec3 Float)}
    (h : ∀ p ∈ ps, m.vertexAt? p = some (m.vertexOf p)) :
    (ps.map m.vertexOf).toFinset.card = (places ps).card ∧
      (changes (ps.map m.vertexOf)).length = (changes (ps.map Vec3.weldKey)).length := by
  obtain ⟨f, g, hf, hg⟩ := exists_vertexOf_eq m
  have hvertices : (ps.map Vec3.weldKey).map f = ps.map m.vertexOf := by
    rw [List.map_map]
    exact List.map_congr_left fun p _ => hf p
  have hkeys : (ps.map m.vertexOf).map g = ps.map Vec3.weldKey := by
    rw [List.map_map]
    exact List.map_congr_left fun p hp => hg p (h p hp)
  constructor
  · refine le_antisymm ?_ ?_
    · rw [← hvertices]
      exact card_toFinset_map_le f _
    · rw [places, ← hkeys]
      exact card_toFinset_map_le g _
  · refine le_antisymm ?_ ?_
    · rw [← hvertices]
      exact length_changes_map_le f _
    · rw [← hkeys]
      exact length_changes_map_le g _

theorem card_and_changes_loopVertices (m : Mesh Float) (ps : List (Vec3 Float)) :
    (m.loopVertices ps).1.toFinset.card = (places ps).card ∧
      (changes (m.loopVertices ps).1).length = (changes (ps.map Vec3.weldKey)).length := by
  rw [← map_vertexOf_loopVertices m ps (.refl _)]
  exact card_and_changes_map_vertexOf fun p hp => vertexAt?_of_mem_loop m hp (.refl _)

/-- Points at three places have three corners. -/
theorem two_lt_length_changes_of_card {vs : List Nat} (h : 2 < vs.toFinset.card) :
    2 < (changes vs).length := by
  rw [← toFinset_corners] at h
  exact (three_le_length_corners_iff vs).1 (h.trans_le (List.toFinset_card_le _))

/-- A loop makes a face if its place changes three times. -/
theorem fst_loop_iff (m : Mesh Float) (ps : List (Vec3 Float)) :
    (m.loop ps).1 = true ↔ 3 ≤ (changes (ps.map Vec3.weldKey)).length := by
  rw [← (card_and_changes_loopVertices m ps).2, ← three_le_length_corners_iff]
  simp only [loop]
  split
  · next h => simpa using h
  · next h => simpa using h

end Mesh

/-- A loop changes its place three times if it has three places, or else goes back and forth. -/
theorem two_lt_length_changes_iff (ps : List (Vec3 Float)) :
    2 < (changes (ps.map Vec3.weldKey)).length ↔ 2 < (places ps).card ∨ BackAndForth ps := by
  constructor
  · intro h
    have hne : changes (ps.map Vec3.weldKey) ≠ [] := List.ne_nil_of_length_pos (by omega)
    have hcard : 1 < (places ps).card := one_lt_card_of_changes hne
    rcases Nat.lt_or_ge 2 (places ps).card with hlt | hle
    · exact .inl hlt
    · exact .inr ⟨by omega, h⟩
  · rintro (h | h)
    · -- The vertices of a mesh that has the points show as much as their places.
      obtain ⟨hcard, hchanges⟩ := Mesh.card_and_changes_loopVertices {} ps
      rw [← hchanges]
      exact Mesh.two_lt_length_changes_of_card (by rwa [hcard])
    · exact h.2

namespace Mesh

theorem fst_loop_eq_false_iff (m : Mesh Float) (ps : List (Vec3 Float)) :
    (m.loop ps).1 = false ↔ (m.loop ps).2.faces = m.faces := by
  have hold := (addsVertices_loopVertices m ps).faces
  simp only [loop]
  split
  · exact ⟨fun _ => hold, fun _ => rfl⟩
  · refine Iff.intro (fun h => by cases h) fun h => ?_
    have hsize := congrArg Array.size h
    simp [addFace, hold] at hsize

/-- The faces of a mesh that is built come of the loops whose place changes three times, and have as
many different corners as these have places. -/
theorem forall_mem_loops_addAll_iff {r : Nat → Prop} (as : List (Addition Float)) :
    (∀ cs ∈ (addAll {} as).loops, r cs.toFinset.card) ↔
      ∀ a ∈ as, 2 < (changes (a.points.map Vec3.weldKey)).length → r (places a.points).card := by
  have hloops : (addAll {} as).loops =
      as.filterMap fun a => faceCorners (a.points.map (addAll {} as).vertexOf) :=
    wellFormed_empty.loops_addAll as (.refl _)
  rw [hloops]
  simp only [List.mem_filterMap, forall_exists_index, and_imp]
  rw [forall_comm]
  refine forall_congr' fun a => forall_comm.trans (forall_congr' fun ha => ?_)
  obtain ⟨hcard, hchanges⟩ := card_and_changes_map_vertexOf fun p hp =>
    vertexAt?_of_mem_points {} ha hp
  rw [← hcard, ← hchanges, ← toFinset_corners]
  exact ⟨fun h hlt => h _ (faceCorners_eq_some_iff.2 ⟨hlt, rfl⟩), fun h cs hcs => by
    obtain ⟨hlt, rfl⟩ := faceCorners_eq_some_iff.1 hcs
    exact h hlt⟩

/-- A loop makes a face exactly if it has three places or goes back and forth between two more than
once, and no face is added if it does not. So the faces of a mesh that is built have three different
vertices each exactly if no loop that was added goes back and forth. -/
theorem three_le_card_corners_iff (m : Mesh Float) (ps : List (Vec3 Float))
    (as : List (Addition Float)) :
    ((m.loop ps).1 = true ↔ 3 ≤ (places ps).card ∨ BackAndForth ps) ∧
      ((m.loop ps).1 = false ↔ (m.loop ps).2.faces = m.faces) ∧
      ((∀ cs ∈ (addAll {} as).loops, 3 ≤ cs.toFinset.card) ↔
        ∀ a ∈ as, ¬ BackAndForth a.points) := by
  refine ⟨(fst_loop_iff m ps).trans (two_lt_length_changes_iff ps), fst_loop_eq_false_iff m ps, ?_⟩
  rw [forall_mem_loops_addAll_iff]
  refine forall_congr' fun a => forall_congr' fun ha => ?_
  rw [two_lt_length_changes_iff]
  constructor
  · intro h hback
    have := h (.inr hback)
    have := hback.1
    omega
  · rintro hback (h | h)
    · exact h
    · exact absurd h hback

/-- A triangle with repeats, a spike, and a point. -/
def sail : List (Addition Float) :=
  [.face [⟨0.0, 0.0, 0.0⟩, ⟨-0.0, 0.0, 0.0⟩, ⟨1.0, 0.0, 0.0⟩, ⟨0.0, 1.0, 0.0⟩, ⟨0.0, 0.0, 0.0⟩],
    .face [⟨0.0, 0.0, 0.0⟩, ⟨1.0, 0.0, 0.0⟩, ⟨0.0, 0.0, 0.0⟩], .vertex ⟨2.0, 0.0, 0.0⟩]

theorem three_le_card_corners_sail :
    (∀ a ∈ sail, ¬ BackAndForth a.points) ∧
      ∀ cs ∈ (addAll {} sail).loops, 3 ≤ cs.toFinset.card := by
  have h : ∀ a ∈ sail, ¬ BackAndForth a.points := by decide +kernel
  exact ⟨h, (three_le_card_corners_iff {} [] sail).2.2.2 h⟩

/-- A loop that runs between two points and does so again. -/
def pendulum : List (Vec3 Float) :=
  [⟨0.0, 0.0, 0.0⟩, ⟨1.0, 0.0, 0.0⟩, ⟨0.0, 0.0, 0.0⟩, ⟨1.0, 0.0, 0.0⟩]

/-- The loop has two places, yet it makes a face. -/
theorem loop_pendulum :
    (places pendulum).card < 3 ∧ (({} : Mesh Float).loop pendulum).1 = true ∧
      ∃ cs ∈ (addAll {} [.face pendulum]).loops, cs.toFinset.card < 3 := by
  have hcard : (places pendulum).card < 3 := by decide +kernel
  have hchanges : 2 < (changes (pendulum.map Vec3.weldKey)).length := by decide +kernel
  refine ⟨hcard, (fst_loop_iff {} pendulum).2 hchanges, ?_⟩
  by_contra hnone
  have hthree : ∀ cs ∈ (addAll {} [.face pendulum]).loops, 3 ≤ cs.toFinset.card :=
    fun cs hcs => Nat.le_of_not_lt fun hlt => hnone ⟨cs, hcs, hlt⟩
  have := (forall_mem_loops_addAll_iff [.face pendulum]).1 hthree _ (List.mem_singleton_self _)
    hchanges
  exact Nat.not_le.2 hcard this

end Mesh

end BuildingModel.Geometry
