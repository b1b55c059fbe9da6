import BuildingModel.Proofs.Geometry.Item
import BuildingModel.Proofs.Model.RoundTrip
import BuildingModel.Proofs.Model.Types

/-!
# Chains of placements

A local placement is relative to another placement, which may be relative to a further one, and so
on (`Chain`). Resolving it looks up the members of its chain one after the other (`visits`), none
twice and no more than the limit, also where the chain does not end; their relative placements are
all that the result is made of (`placement_eq_product_visits`).

Where the chain repeats nothing and keeps to the limit, all its members count, for the placement and
for the one it is relative to. So the one is the product of the other and its own relative placement
(`placement_composes`).
-/

namespace BuildingModel.Geometry

variable {x : EntityIndex}

/-! ## Members of a chain -/

/-- The placement of a local placement relative to the one above: what its second attribute refers
to, or no change where that is nothing. -/
def relativePlacement (x : EntityIndex) (e : Entity) : Except GeometryError (Matrix 4) :=
  match (e.reference? 1).bind x.get? with
  | some relative => ownPlacement x relative
  | none => .ok .identity

/-- The placement of a member of a chain relative to the one above. -/
def ownShare (x : EntityIndex) (e : Entity) : Except GeometryError (Matrix 4) :=
  if e.type = .known .localPlacement then relativePlacement x e else ownPlacement x e

/-- The instance that a member of a chain is relative to. Only local placements are. -/
def upward? (e : Entity) : Option EntityId :=
  if e.type = .known .localPlacement then e.reference? 0 else none

/-- What an instance adds to a chain. -/
def relative (x : EntityIndex) (id : EntityId) : Except GeometryError (Matrix 4) :=
  entity x id >>= ownShare x

/-- The instance above an instance in a chain. -/
def above? (x : EntityIndex) (id : EntityId) : Option EntityId :=
  (x.get? id).bind upward?

/-- The members of the chain from an instance up to the end. An instance without an entity is the
last member. -/
inductive Chain (x : EntityIndex) : EntityId → List EntityId → Prop
  /-- An instance that is relative to nothing. -/
  | last {id : EntityId} : above? x id = none → Chain x id [id]
  /-- An instance and the chain of the one it is relative to. -/
  | link {id next : EntityId} {ids : List EntityId} : above? x id = some next → Chain x next ids →
    Chain x id (id :: ids)

/-- The members of a chain that are looked up, at most `fuel` of them and none of those seen before.
The first member that fails is the last one looked up. -/
def visitsWithin (x : EntityIndex) : (fuel : Nat) → (seen : List EntityId) → Option EntityId →
    List EntityId
  | 0, _, _ => []
  | _ + 1, _, none => []
  | fuel + 1, seen, some id =>
    if seen.contains id then []
    else match relative x id with
      | .ok _ => id :: visitsWithin x fuel (id :: seen) (above? x id)
      | .error _ => [id]

/-- The instances that resolving a placement looks up, in order. -/
def visits (x : EntityIndex) (id : EntityId) : List EntityId :=
  visitsWithin x chainLimit [] (some id)

/-- The placement in the world of the relative placements of a chain, the lowest first. -/
def product (ms : List (Matrix 4)) : Matrix 4 :=
  ms.reverse.foldl Matrix.mul .identity

theorem product_cons (m : Matrix 4) (ms : List (Matrix 4)) :
    product (m :: ms) = (product ms).mul m := by
  rw [product, List.reverse_cons, List.foldl_append]
  rfl

/-- A member adds its share and leads to the one above. -/
theorem link_eq (x : EntityIndex) (e : Entity) :
    link x e = (ownShare x e).map (·, upward? e) := by
  rw [link, ownShare, upward?]
  split
  · rw [relativePlacement]
    cases (e.reference? 1).bind x.get? <;> rfl
  · rfl

theorem chainWithin_none (x : EntityIndex) (fuel : Nat) (seen : List EntityId) :
    chainWithin x fuel seen none = .ok [] := by
  cases fuel <;> rfl

/-- A chain goes on above an instance that was not seen. -/
theorem chainWithin_succ {id : EntityId} {seen : List EntityId} (h : id ∉ seen) (fuel : Nat) :
    chainWithin x (fuel + 1) seen (some id) = do
      let m ← relative x id
      let ms ← chainWithin x fuel (id :: seen) (above? x id)
      return m :: ms := by
  rw [chainWithin, if_neg (by simpa using h), relative, above?, entity]
  cases hget : x.get? id with
  | none => rfl
  | some e =>
    rw [Option.bind_some]
    simp only [ok_bind, link_eq]
    cases ownShare x e <;> rfl

/-! ## What is looked up -/

/-- A chain consists of the relative placements of what is looked up. -/
theorem chainWithin_eq_mapM (x : EntityIndex) (fuel : Nat) (seen : List EntityId)
    (next : Option EntityId) :
    chainWithin x fuel seen next = (visitsWithin x fuel seen next).mapM (relative x) := by
  fun_induction visitsWithin x fuel seen next with
  | case1 => rfl
  | case2 => rfl
  | case3 seen fuel id hseen =>
    rw [chainWithin, if_pos hseen]
    rfl
  | case4 seen fuel id hseen m hm ih =>
    rw [chainWithin_succ (by simpa using hseen), List.mapM_cons, ih]
  | case5 seen fuel id hseen e he =>
    rw [chainWithin_succ (by simpa using hseen), List.mapM_cons, he]
    rfl

/-- What is looked up is looked up once, and was not seen before. -/
theorem nodup_visitsWithin (fuel : Nat) (seen : List EntityId) (next : Option EntityId) :
    (visitsWithin x fuel seen next).Nodup ∧ ∀ id ∈ visitsWithin x fuel seen next, id ∉ seen := by
  fun_induction visitsWithin x fuel seen next with
  | case1 | case2 | case3 => exact ⟨List.nodup_nil, nofun⟩
  | case4 seen fuel id hseen m hm ih =>
    obtain ⟨hnodup, hfresh⟩ := ih
    refine ⟨List.nodup_cons.2 ⟨fun h => hfresh id h List.mem_cons_self, hnodup⟩,
      List.forall_mem_cons.2 ⟨by simpa using hseen, fun id' h => ?_⟩⟩
    exact fun hmem => hfresh id' h (List.mem_cons_of_mem _ hmem)
  | case5 seen fuel id hseen => exact ⟨List.nodup_singleton _, by simpa using hseen⟩

theorem length_visitsWithin_le (fuel : Nat) (seen : List EntityId) (next : Option EntityId) :
    (visitsWithin x fuel seen next).length ≤ fuel := by
  fun_induction visitsWithin x fuel seen next with
  | case1 | case2 | case3 => exact Nat.zero_le _
  | case4 seen fuel id hseen m hm ih => exact Nat.succ_le_succ ih
  | case5 => exact Nat.succ_le_succ (Nat.zero_le _)

theorem placement_eq (x : EntityIndex) (id : EntityId) :
    placement x id = (chainWithin x chainLimit [] (some id)).map product := by
  rw [placement]
  cases chainWithin x chainLimit [] (some id) <;> rfl

theorem placement_eq_product_visits (x : EntityIndex) (id : EntityId) :
    placement x id = ((visits x id).mapM (relative x)).map product := by
  rw [placement_eq, chainWithin_eq_mapM, visits]

/-! ## Whole chains -/

/-- A chain that repeats nothing and keeps to the limit consists of the relative placements of all
its members. -/
theorem Chain.chainWithin_eq {id : EntityId} {ids seen : List EntityId} (h : Chain x id ids)
    (hnodup : ids.Nodup) (hfresh : ∀ i ∈ ids, i ∉ seen) {fuel : Nat} (hfuel : ids.length ≤ fuel) :
    chainWithin x fuel seen (some id) = ids.mapM (relative x) := by
  induction h generalizing seen fuel with
  | @last id habove =>
    obtain ⟨fuel, rfl⟩ := Nat.exists_eq_succ_of_ne_zero (Nat.ne_of_gt hfuel)
    rw [chainWithin_succ (hfresh id List.mem_cons_self), habove, chainWithin_none]
    rfl
  | @link id next ids habove hrest ih =>
    obtain ⟨fuel, rfl⟩ := Nat.exists_eq_succ_of_ne_zero (Nat.ne_of_gt (Nat.lt_of_lt_of_le
      (Nat.succ_pos _) hfuel))
    obtain ⟨hid, hnodup⟩ := List.nodup_cons.1 hnodup
    have hfresh' : ∀ i ∈ ids, i ∉ id :: seen := fun i hi =>
      List.not_mem_cons_of_ne_of_not_mem (fun heq => hid (heq ▸ hi))
        (hfresh i (List.mem_cons_of_mem _ hi))
    rw [chainWithin_succ (hfresh id List.mem_cons_self), habove, List.mapM_cons,
      ih hnodup hfresh' (Nat.le_of_succ_le_succ hfuel)]

/-- The placement of such a chain. -/
theorem Chain.placement_eq {id : EntityId} {ids : List EntityId} (h : Chain x id ids)
    (hnodup : ids.Nodup) (hlimit : ids.length ≤ chainLimit) :
    placement x id = (ids.mapM (relative x)).map product := by
  rw [Geometry.placement_eq, h.chainWithin_eq hnodup (fun _ _ => List.not_mem_nil) hlimit]

/-- Where the chain of a local placement repeats nothing and has no more members than the limit, its
placement is the product of the one it is relative to and its own relative placement, or fails as
the one it is relative to does; if its own relative placement fails, it fails so. Whatever the
chain, what is looked up for a placement is looked up once, and the limit holds. -/
theorem placement_composes (x : EntityIndex) :
    (∀ (p q : EntityId) (e : Entity) (ids : List EntityId), x.get? p = some e →
      e.type = .known .localPlacement → e.reference? 0 = some q →
      Chain x p ids → ids.Nodup → ids.length ≤ 256 →
        (∀ m, relativePlacement x e = .ok m → placement x p = (placement x q).map (·.mul m)) ∧
        ∀ err, relativePlacement x e = .error err → placement x p = .error err) ∧
      ∀ id, (visits x id).Nodup ∧ (visits x id).length ≤ 256 ∧
        placement x id = ((visits x id).mapM (relative x)).map product := by
  refine ⟨fun p q e ids hget htype hq hchain hnodup hlimit => ?_, fun id =>
    ⟨(nodup_visitsWithin _ _ _).1, length_visitsWithin_le _ _ _, placement_eq_product_visits x id⟩⟩
  have habove : above? x p = some q := by
    rw [above?, hget, Option.bind_some, upward?, if_pos htype, hq]
  have hrelative : relative x p = relativePlacement x e := by
    rw [relative, entity, hget, ok_bind, ownShare, if_pos htype]
  have hp := hchain.placement_eq hnodup hlimit
  cases hchain with
  | last hnone =>
    rw [habove] at hnone
    cases hnone
  | @link _ next rest hnext hrest =>
    obtain rfl : next = q := Option.some.inj (hnext.symm.trans habove)
    rw [hp, hrest.placement_eq (List.nodup_cons.1 hnodup).2 (Nat.le_of_succ_le hlimit),
      List.mapM_cons, hrelative]
    refine ⟨fun m hm => ?_, fun err herr => by rw [herr]; rfl⟩
    rw [hm]
    cases rest.mapM (relative x) with
    | error err => rfl
    | ok ms => exact congrArg Except.ok (product_cons m ms)

/-! ## A wall in a storey -/

open BuildingModel.Step (Definition file)

/-- The placement of a storey. -/
def storeyPlacement : Definition where
  id := 1
  tag := ⟨(EntityClass.name .localPlacement).toList, by decide, List.all_eq_true.1 (by decide)⟩
  attributes := [.null, .reference 3]

/-- The placement of a wall, relative to that of the storey. -/
def wallPlacement : Definition where
  id := 2
  tag := ⟨(EntityClass.name .localPlacement).toList, by decide, List.all_eq_true.1 (by decide)⟩
  attributes := [.reference 1, .reference 3]

/-- The relative placement of both. -/
def axisSystem : Definition where
  id := 3
  tag := ⟨(EntityClass.name .axis2Placement3D).toList, by decide, List.all_eq_true.1 (by decide)⟩
  attributes := [.reference 4, .null, .null]

/-- The origin of the relative placement. -/
def axisOrigin : Definition where
  id := 4
  tag := ⟨(EntityClass.name .cartesianPoint).toList, by decide, List.all_eq_true.1 (by decide)⟩
  attributes := [.list [.integer 1, .integer 2, .integer 3]]

theorem type_storeyPlacement : storeyPlacement.entity.type = .known .localPlacement :=
  EntityIndex.type_eq_known rfl

theorem type_wallPlacement : wallPlacement.entity.type = .known .localPlacement :=
  EntityIndex.type_eq_known rfl

theorem type_axisSystem : axisSystem.entity.type = .known .axis2Placement3D :=
  EntityIndex.type_eq_known rfl

theorem type_axisOrigin : axisOrigin.entity.type = .known .cartesianPoint :=
  EntityIndex.type_eq_known rfl

section

variable (hget : ∀ d ∈ [storeyPlacement, wallPlacement, axisSystem, axisOrigin],
  x.get? d.id = some d.entity)
include hget

theorem chain_storeyPlacement : Chain x 1 [1] := by
  have hstorey : x.get? 1 = some storeyPlacement.entity := hget storeyPlacement (by simp)
  refine .last ?_
  rw [above?, hstorey, Option.bind_some, upward?, if_pos type_storeyPlacement]
  rfl

theorem chain_wallPlacement : Chain x 2 [2, 1] := by
  have hwall : x.get? 2 = some wallPlacement.entity := hget wallPlacement (by simp)
  have habove : above? x 2 = some 1 := by
    rw [above?, hwall, Option.bind_some, upward?, if_pos type_wallPlacement]
    rfl
  exact .link habove (chain_storeyPlacement hget)

/-- Both local placements have the relative placement of the axis system. -/
theorem exists_relativePlacement_axisSystem :
    ∃ m, ∀ e : Entity, e.reference? 1 = some 3 → relativePlacement x e = .ok m := by
  have haxes : x.get? 3 = some axisSystem.entity := hget axisSystem (by simp)
  have horigin : x.get? 4 = some axisOrigin.entity := hget axisOrigin (by simp)
  have hpoint : point x 4 = .ok (point3 [.integer 1, .integer 2, .integer 3]) := by
    rw [point, entity, horigin, ok_bind, if_pos type_axisOrigin]
    rfl
  obtain ⟨m, hm⟩ : ∃ m, placement3 x axisSystem.entity = .ok m := by
    rw [placement3, show axisSystem.entity.reference? 0 = some 4 from rfl, require, ok_bind, hpoint]
    exact ⟨_, rfl⟩
  have hown : ownPlacement x axisSystem.entity = .ok m := by
    rw [ownPlacement, type_axisSystem]
    exact hm
  refine ⟨m, fun e he => ?_⟩
  rw [relativePlacement, he, Option.bind_some, haxes]
  exact hown

theorem placement_storey {m : Matrix 4}
    (hm : relativePlacement x storeyPlacement.entity = .ok m) :
    placement x 1 = .ok (product [m]) := by
  have hstorey : x.get? 1 = some storeyPlacement.entity := hget storeyPlacement (by simp)
  rw [(chain_storeyPlacement hget).placement_eq (by decide) (by decide), List.mapM_cons, relative,
    entity, hstorey, ok_bind, ownShare, if_pos type_storeyPlacement, hm]
  rfl

end

/-- The wall stands where its relative placement puts it in the storey. -/
theorem placement_composes_wall :
    let x := EntityIndex.ofContent (file [storeyPlacement, wallPlacement, axisSystem, axisOrigin])
    x.get? 2 = some wallPlacement.entity ∧
      wallPlacement.entity.type = .known .localPlacement ∧
      wallPlacement.entity.reference? 0 = some 1 ∧
      Chain x 2 [2, 1] ∧ [(2 : EntityId), 1].Nodup ∧ [(2 : EntityId), 1].length ≤ 256 ∧
      ∃ m, relativePlacement x wallPlacement.entity = .ok m ∧
        placement x 1 = .ok (product [m]) ∧ placement x 2 = .ok ((product [m]).mul m) := by
  intro x
  have hget : ∀ d ∈ [storeyPlacement, wallPlacement, axisSystem, axisOrigin],
      x.get? d.id = some d.entity := fun _ => Model.get?_file (by decide)
  have hwall : x.get? 2 = some wallPlacement.entity := hget wallPlacement (by simp)
  have hchain : Chain x 2 [2, 1] := chain_wallPlacement hget
  obtain ⟨m, hm⟩ := exists_relativePlacement_axisSystem hget
  have hstorey : placement x 1 = .ok (product [m]) := placement_storey hget (hm _ rfl)
  have hcomposes := ((placement_composes x).1 2 1 _ _ hwall type_wallPlacement rfl hchain
    (by decide) (by decide)).1 m (hm _ rfl)
  rw [hstorey] at hcomposes
  exact ⟨hwall, type_wallPlacement, rfl, hchain, by decide, by decide, m, hm _ rfl, hstorey,
    hcomposes⟩

end BuildingModel.Geometry
