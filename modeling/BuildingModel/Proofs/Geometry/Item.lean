import BuildingModel.Geometry.Item
import BuildingModel.Proofs.Geometry.Building
import BuildingModel.Proofs.Geometry.Extrusion

/-!
# Meshes of items

Whatever an item is, and however its repeated shapes and operands are nested, its meshes are
well-formed (`wellFormed_of_meshesWithin`): each of them is built from loops, and is moved at most.
-/

namespace BuildingModel.Geometry

/-! ## Items without items -/

/-- What is built from loops is well-formed. -/
theorem Mesh.wellFormed_ofLoops (loops : List (List (Vec3 Float))) :
    (Mesh.ofLoops loops).WellFormed := by
  rw [ofLoops_eq_addAll]
  exact wellFormed_empty.addAll _

theorem wellFormed_of_meshesOfLoops {loops : List (List (Vec3 Float))} {m : Mesh Float}
    (hm : m ∈ meshesOfLoops loops) : m.WellFormed := by
  rw [List.mem_singleton.1 (List.mem_of_mem_filter hm)]
  exact Mesh.wellFormed_ofLoops loops

theorem wellFormed_of_extrusion {k : Kernel} {x : EntityIndex} {item : Entity} {m : Mesh Float}
    (h : extrusion k x item = .ok m) : m.WellFormed := by
  obtain ⟨p, depth, direction, g, -, rfl⟩ := exists_of_extrusion h
  exact (Mesh.wellFormed_ofLoops _).map g

theorem wellFormed_of_shells {x : EntityIndex} {item : Entity} {ms : List (Mesh Float)}
    (h : shells x item = .ok ms) : ∀ m ∈ ms, m.WellFormed := by
  rw [shells] at h
  -- Which shells an item has is told by its type; their meshes are built in the same way.
  obtain ⟨ids, rfl⟩ : ∃ ids : List EntityId,
      ms = (ids.filterMap x.get?).flatMap fun shell => meshesOfLoops (shellLoops x shell) := by
    split at h
    · obtain ⟨outer, -, h⟩ := exists_of_bind_eq_ok h
      exact ⟨_, (Except.ok.inj h).symm⟩
    · obtain ⟨outer, -, h⟩ := exists_of_bind_eq_ok h
      exact ⟨_, (Except.ok.inj h).symm⟩
    · exact ⟨_, (Except.ok.inj h).symm⟩
  intro m hm
  obtain ⟨shell, -, hm⟩ := List.mem_flatMap.1 hm
  exact wellFormed_of_meshesOfLoops hm

/-! ## Nested items -/

/-- What follows a success goes on from what it gave. -/
theorem ok_bind {ε α β : Type} (a : α) (f : α → Except ε β) : Except.ok a >>= f = f a :=
  rfl

/-- What a sequence of trials gives was given by one of them. -/
theorem exists_of_mem_of_mapM_eq_ok {ε α β : Type} {f : α → Except ε β} {as : List α}
    {bs : List β} (h : as.mapM f = .ok bs) {b : β} (hb : b ∈ bs) : ∃ a ∈ as, f a = .ok b := by
  induction as generalizing bs with
  | nil =>
    obtain rfl := Except.ok.inj h
    cases hb
  | cons a as ih =>
    rw [List.mapM_cons] at h
    obtain ⟨c, hc, h⟩ := exists_of_bind_eq_ok h
    obtain ⟨cs, hcs, h⟩ := exists_of_bind_eq_ok h
    obtain rfl := Except.ok.inj h
    rcases List.mem_cons.1 hb with rfl | hb
    · exact ⟨a, List.mem_cons_self, hc⟩
    · obtain ⟨a', ha', hf⟩ := ih hcs hb
      exact ⟨a', List.mem_cons_of_mem _ ha', hf⟩

/-- The meshes of an item are well-formed. -/
theorem wellFormed_of_meshesWithin {k : Kernel} {x : EntityIndex} {levels : Nat} {item : Entity}
    {ms : List (Mesh Float)} (h : meshesWithin k x levels item = .ok ms) :
    ∀ m ∈ ms, m.WellFormed := by
  induction levels generalizing item ms with
  | zero => cases h
  | succ levels ih =>
    rw [meshesWithin] at h
    -- One case for each family of items, behind the one of items without a processor.
    split at h
    · cases h
    next extruded =>
      obtain ⟨m, hm, h⟩ := exists_of_bind_eq_ok h
      obtain rfl := Except.ok.inj h
      exact fun m' hm' => List.mem_singleton.1 hm' ▸ wellFormed_of_extrusion hm
    next ofShells => exact wellFormed_of_shells h
    next ofPoints =>
      obtain ⟨loops, -, h⟩ := exists_of_bind_eq_ok h
      obtain rfl := Except.ok.inj h
      exact fun m hm => wellFormed_of_meshesOfLoops hm
    next mapped =>
      obtain ⟨source, -, h⟩ := exists_of_bind_eq_ok h
      obtain ⟨shape, -, h⟩ := exists_of_bind_eq_ok h
      obtain ⟨t, -, h⟩ := exists_of_bind_eq_ok h
      obtain ⟨nested, hnested, h⟩ := exists_of_bind_eq_ok h
      obtain rfl := Except.ok.inj h
      intro m hm
      obtain ⟨g, hg, rfl⟩ := List.mem_map.1 hm
      obtain ⟨gs, hgs, hg⟩ := List.mem_flatten.1 hg
      obtain ⟨item, -, hitem⟩ := exists_of_mem_of_mapM_eq_ok hnested hgs
      exact (ih hitem g hg).map t.apply
    next boolean =>
      obtain ⟨first, -, h⟩ := exists_of_bind_eq_ok h
      exact ih h

end BuildingModel.Geometry
