import BuildingModel.Document.Arena

/-!
# Arenas of trees

A tree that is put into an arena label by label, each hung under the one it was met from
(`Arena.hangTree`), takes up neighbouring slots in preorder (`Arena.toList_hangTree`). Assembling
such slots from the last to the first puts the tree into the slot of its root and leaves the other
slots empty (`Arena.foldr_slots`). So what is assembled from an arena is the tree that was put into
it (`Arena.tree?_hangTree`): every label is in it once.
-/

namespace BuildingModel

variable {α : Type}

theorem Tree.size_node (a : α) (ts : List (Tree α)) :
    (Tree.node a ts).size = (Tree.labelsOfAll ts).length + 1 := by
  rw [Tree.size, Tree.labels, List.length_cons]

theorem Tree.length_labelsOfAll_cons (t : Tree α) (ts : List (Tree α)) :
    (Tree.labelsOfAll (t :: ts)).length = t.size + (Tree.labelsOfAll ts).length := by
  rw [Tree.labelsOfAll, List.length_append, Tree.size]

theorem Tree.size_pos (t : Tree α) : 0 < t.size := by
  obtain ⟨a, ts⟩ := t
  rw [Tree.size_node]
  exact Nat.succ_pos _

namespace Arena

/-! ## Layout -/

mutual

/-- The arena with a tree whose root hangs under the label of a slot, unless it is a root. -/
def hangTree (arena : Arena α) (parent : Option Nat) : Tree α → Arena α
  | .node a ts => hangTrees (arena.hang parent a) (some arena.size) ts

/-- The arena with several trees. -/
def hangTrees (arena : Arena α) (parent : Option Nat) : List (Tree α) → Arena α
  | [] => arena
  | t :: ts => hangTrees (hangTree arena parent t) parent ts

end

/-- The slots of the roots of trees, the first of which starts at slot `k`. -/
def roots (k : Nat) : List (Tree α) → List Nat
  | [] => []
  | t :: ts => k :: roots (k + t.size) ts

mutual

/-- The slots of a tree that starts at slot `k`. -/
def slots (k : Nat) : Tree α → List (Slot α)
  | .node a ts => ⟨a, (roots (k + 1) ts).toArray⟩ :: slotsOfAll (k + 1) ts

/-- The slots of trees, the first of which starts at slot `k`. -/
def slotsOfAll (k : Nat) : List (Tree α) → List (Slot α)
  | [] => []
  | t :: ts => slots k t ++ slotsOfAll (k + t.size) ts

end

mutual

/-- The labels of a tree are in its slots in preorder. -/
theorem map_label_slots : ∀ (t : Tree α) (k : Nat), (slots k t).map Slot.label = t.labels
  | .node a ts, k => by
    rw [slots, Tree.labels, List.map_cons, map_label_slotsOfAll]

theorem map_label_slotsOfAll : ∀ (ts : List (Tree α)) (k : Nat),
    (slotsOfAll k ts).map Slot.label = Tree.labelsOfAll ts
  | [], _ => rfl
  | t :: ts, k => by
    rw [slotsOfAll, Tree.labelsOfAll, List.map_append, map_label_slots, map_label_slotsOfAll]

end

theorem length_slots (t : Tree α) (k : Nat) : (slots k t).length = t.size := by
  rw [Tree.size, ← map_label_slots t k, List.length_map]

/-- Slots in which the label of one has got further children. -/
def adopt (parent : Option Nat) (cs : List Nat) (l : List (Slot α)) : List (Slot α) :=
  match parent with
  | none => l
  | some p => l.modify p fun s => { s with children := s.children ++ cs.toArray }

section

variable {parent : Option Nat} {cs : List Nat} {l : List (Slot α)}

theorem length_adopt : (adopt parent cs l).length = l.length := by
  cases parent with
  | none => rfl
  | some p => exact List.length_modify _ _ _

theorem adopt_append (h : ∀ p ∈ parent, p < l.length) (r : List (Slot α)) :
    adopt parent cs (l ++ r) = adopt parent cs l ++ r := by
  cases parent with
  | none => rfl
  | some p =>
    have hp := h p rfl
    clear h
    induction l generalizing p with
    | nil => exact absurd hp (Nat.not_lt_zero p)
    | cons s l ih =>
      cases p with
      | zero => rfl
      | succ p => exact congrArg (s :: ·) (ih p (Nat.lt_of_succ_lt_succ hp))

theorem adopt_adopt (ds : List Nat) :
    adopt parent ds (adopt parent cs l) = adopt parent (cs ++ ds) l := by
  cases parent with
  | none => rfl
  | some p =>
    rw [adopt, adopt, List.modify_modify_eq]
    refine congrArg (l.modify p) (funext fun s => ?_)
    simp

theorem adopt_nil : adopt parent [] l = l := by
  cases parent with
  | none => rfl
  | some p => exact (congrArg (l.modify p) (funext fun s => by simp)).trans (List.modify_id p l)

/-- The last label gets its first children. -/
theorem adopt_last {k : Nat} (h : k = l.length) (a : α) :
    adopt (some k) cs (l ++ [{ label := a }]) = l ++ [⟨a, cs.toArray⟩] := by
  subst h
  induction l with
  | nil => simp [adopt]
  | cons s l ih => exact congrArg (s :: ·) ih

end

theorem toList_hang (arena : Arena α) {parent : Option Nat} (h : ∀ p ∈ parent, p < arena.size)
    (a : α) : (arena.hang parent a).toList =
      adopt parent [arena.size] arena.toList ++ [{ label := a }] := by
  cases parent with
  | none => exact Array.toList_push
  | some p =>
    rw [← adopt_append h, ← Array.toList_push, hang, Array.toList_modify]
    simp [adopt]

mutual

/-- A tree takes up the slots behind the arena it is put into. -/
theorem toList_hangTree : ∀ (t : Tree α) (arena : Arena α) {parent : Option Nat},
    (∀ p ∈ parent, p < arena.size) → (hangTree arena parent t).toList =
      adopt parent [arena.size] arena.toList ++ slots arena.size t
  | .node a ts, arena, parent, h => by
    have hhang := toList_hang arena h a
    have hsize : (arena.hang parent a).size = arena.size + 1 := by
      rw [← Array.length_toList, hhang, List.length_append, length_adopt]
      rfl
    have hlast : arena.size = (adopt parent [arena.size] arena.toList).length := by
      rw [length_adopt, Array.length_toList]
    have hroot : ∀ p ∈ some arena.size, p < (arena.hang parent a).size := by
      rintro p ⟨⟩
      omega
    -- The root is the last label when its subtrees come, so it is the one that adopts them.
    rw [hangTree, toList_hangTrees ts _ hroot, hhang, hsize, adopt_last hlast, List.append_assoc]
    rfl

/-- Several trees take up the slots behind the arena they are put into. -/
theorem toList_hangTrees : ∀ (ts : List (Tree α)) (arena : Arena α) {parent : Option Nat},
    (∀ p ∈ parent, p < arena.size) → (hangTrees arena parent ts).toList =
      adopt parent (roots arena.size ts) arena.toList ++ slotsOfAll arena.size ts
  | [], arena, parent, _ => by
    rw [hangTrees, roots, adopt_nil, slotsOfAll, List.append_nil]
  | t :: ts, arena, parent, h => by
    have ht := toList_hangTree t arena h
    have hsize : (hangTree arena parent t).size = arena.size + t.size := by
      rw [← Array.length_toList, ht, List.length_append, length_adopt, length_slots,
        Array.length_toList]
    have hparent : ∀ p ∈ parent, p < (hangTree arena parent t).size := fun p hp => by
      have := h p hp
      omega
    have hbefore : ∀ p ∈ parent, p < (adopt parent [arena.size] arena.toList).length := by
      rwa [length_adopt]
    rw [hangTrees, toList_hangTrees ts _ hparent, ht, hsize, adopt_append hbefore, adopt_adopt,
      List.append_assoc]
    rfl

end

/-- The labels of trees are in an arena of their own in preorder. -/
theorem map_label_hangTrees (ts : List (Tree α)) :
    (hangTrees #[] none ts).toList.map Slot.label = Tree.labelsOfAll ts := by
  have hslots : (hangTrees #[] none ts).toList = slotsOfAll 0 ts :=
    toList_hangTrees ts #[] nofun
  rw [hslots, map_label_slotsOfAll]

/-! ## Assembly -/

/-- No tree is assembled at the `n` slots from slot `k` on. -/
def Vacant (built : Array (Option (Tree α))) (k n : Nat) : Prop :=
  ∀ i, k ≤ i → i < k + n → built[i]? = some none

/-- Trees at the slots of their roots, the first of which starts at slot `k`. -/
def place (built : Array (Option (Tree α))) (k : Nat) : List (Tree α) → Array (Option (Tree α))
  | [] => built
  | t :: ts => (place built (k + t.size) ts).setIfInBounds k (some t)

section

variable {built : Array (Option (Tree α))} {k n : Nat}

theorem Vacant.mono {j m : Nat} (h : Vacant built k n) (hj : k ≤ j) (hm : j + m ≤ k + n) :
    Vacant built j m :=
  fun i hi hl => h i (Nat.le_trans hj hi) (Nat.lt_of_lt_of_le hl hm)

/-- Trees are placed behind the slots before the first of them. -/
theorem getElem?_place_of_lt (ts : List (Tree α)) {i : Nat} (h : i < k) :
    (place built k ts)[i]? = built[i]? := by
  induction ts generalizing k with
  | nil => rfl
  | cons t ts ih =>
    rw [place, Array.getElem?_setIfInBounds_ne (Nat.ne_of_gt h), ih (Nat.lt_add_right _ h)]

theorem Vacant.place {j m : Nat} (h : Vacant built j m) (ts : List (Tree α)) (hk : j + m ≤ k) :
    Vacant (place built k ts) j m := fun i hi hl => by
  rw [getElem?_place_of_lt ts (Nat.lt_of_lt_of_le hl hk), h i hi hl]

/-- A tree that was put at a vacant slot is taken out of it. -/
theorem take_setIfInBounds (h : built[k]? = some none) (t : Tree α) (is : List Nat) :
    take (built.setIfInBounds k (some t)) (k :: is) =
      (t :: (take built is).1, (take built is).2) := by
  have hk : k < built.size := (Array.getElem?_eq_some_iff.1 h).1
  have hself : built.setIfInBounds k none = built := by
    refine Array.ext_getElem? fun i => ?_
    rw [Array.getElem?_setIfInBounds]
    split
    next hi => rw [← hi, h]
    next => rfl
  rw [take, Array.setIfInBounds_setIfInBounds, hself,
    Array.getElem?_setIfInBounds_self_of_lt hk]
  rfl

/-- Trees are taken as they were placed. -/
theorem take_place (ts : List (Tree α)) (h : Vacant built k (Tree.labelsOfAll ts).length) :
    take (place built k ts) (roots k ts) = (ts, built) := by
  induction ts generalizing k with
  | nil => rfl
  | cons t ts ih =>
    rw [Tree.length_labelsOfAll_cons] at h
    have ht := t.size_pos
    have hk : (place built (k + t.size) ts)[k]? = some none := by
      rw [getElem?_place_of_lt ts (by omega), h k (Nat.le_refl k) (by omega)]
    -- The slot of the first root was vacant before, and is vacant again when it is taken.
    rw [place, roots, take_setIfInBounds hk, ih (h.mono (by omega) (by omega))]

mutual

/-- Assembling the slots of a tree puts it into the slot of its root, and takes what was put into
the other slots. -/
theorem foldr_slots : ∀ (t : Tree α) {built : Array (Option (Tree α))} {k : Nat},
    Vacant built k t.size →
    ((slots k t).zipIdx k).foldr assembleSlot built = built.setIfInBounds k (some t)
  | .node a ts, built, k, h => by
    rw [Tree.size_node] at h
    have hts := h.mono (Nat.le_add_right k 1) (Nat.le_of_eq (Nat.add_right_comm k 1 _))
    rw [slots, List.zipIdx_cons, List.foldr_cons, foldr_slotsOfAll ts hts, assembleSlot,
      take_place ts hts]

/-- Assembling the slots of several trees puts them into the slots of their roots. -/
theorem foldr_slotsOfAll : ∀ (ts : List (Tree α)) {built : Array (Option (Tree α))} {k : Nat},
    Vacant built k (Tree.labelsOfAll ts).length →
    ((slotsOfAll k ts).zipIdx k).foldr assembleSlot built = place built k ts
  | [], _, _, _ => rfl
  | t :: ts, built, k, h => by
    rw [Tree.length_labelsOfAll_cons] at h
    -- The later trees are assembled first, and leave the slots before them as they were.
    have ht := (h.mono (Nat.le_refl k) (by omega)).place ts (Nat.le_refl (k + t.size))
    rw [slotsOfAll, List.zipIdx_append, List.foldr_append, length_slots,
      foldr_slotsOfAll ts (h.mono (by omega) (by omega)), foldr_slots t ht, place]

end

end

theorem tree?_empty : tree? (#[] : Arena α) = none :=
  rfl

/-- What is assembled is the tree that was put into the arena. -/
theorem tree?_hangTree (t : Tree α) : tree? (hangTree #[] none t) = some t := by
  have hslots : (hangTree #[] none t).toList = slots 0 t := toList_hangTree t #[] nofun
  have hsize : (hangTree #[] none t).size = t.size := by
    rw [← Array.length_toList, hslots, length_slots]
  have hvacant : Vacant (Array.replicate t.size (none : Option (Tree α))) 0 t.size :=
    fun i _ hi => by
      rw [Array.getElem?_replicate, if_pos (by omega)]
  rw [tree?, assemble, ← Array.foldr_toList, Array.toList_zipIdx, hslots, hsize,
    foldr_slots t hvacant, Array.getElem?_setIfInBounds_self_of_lt]
  · rfl
  · rw [Array.size_replicate]
    exact t.size_pos

end Arena

end BuildingModel
