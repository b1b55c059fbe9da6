import BuildingModel.Model
import BuildingModel.Proofs.Model.RoundTrip
import BuildingModel.Proofs.Model.Types
import Mathlib.Data.List.Perm.Subperm

/-!
# Chains of conversions

A unit of length converts to another unit by a factor, that one to a further one, and so on, up to
a metre, or to what gives no length (`Chain`). The scale of the first unit is the product of the
factors and the scale of the metre, multiplied from the end of the chain
(`Chain.lengthScaleWithin?_eq`): a chain of different units is shorter than the index, as there is
at least one measure beside the units (`Chain.length_lt_size`). The scale of a model is that of the
first unit that gives a length (`lengthScale_of_listed`).

Together: where the project lists the head of a chain behind nothing but references to what gives
no length, the chain is the scale of the model (`lengthScale_eq_foldr`).
-/

namespace BuildingModel

namespace EntityIndex

variable {x : EntityIndex}

/-- What a parameter refers to is an instance. -/
theorem exists_get?_of_resolve? {p : Parameter} {e : Entity} (h : x.resolve? p = some e) :
    ∃ id, x.get? id = some e := by
  obtain ⟨id, -, hid⟩ := Option.bind_eq_some_iff.1 h
  exact ⟨id, hid⟩

/-- What an attribute refers to is an instance. -/
theorem exists_get?_of_follow? {e e' : Entity} {i : Nat} (h : x.follow? e i = some e') :
    ∃ id, x.get? id = some e' := by
  obtain ⟨p, -, hp⟩ := Option.bind_eq_some_iff.1 h
  exact exists_get?_of_resolve? hp

end EntityIndex

namespace Units

/-! ## Kinds of units -/

/-- A unit is a unit of length. -/
def IsLength (unit : Entity) : Prop :=
  unit.enumeration? 1 = some "LENGTHUNIT"

/-- A unit is a metre with a prefix of a scale, or without one. -/
structure IsMetre (unit : Entity) (scale : Float) : Prop where
  /-- It is a unit of the International System. -/
  type_eq : unit.type = .known .siUnit
  /-- It is a unit of length. -/
  isLength : IsLength unit
  /-- It is a metre. -/
  name_eq : unit.enumeration? 3 = some "METRE"
  /-- The scale is that of the prefix. -/
  eq_prefixScale : ∀ name, unit.enumeration? 2 = some name → scale = prefixScale name
  /-- Without a prefix, it is one. -/
  eq_one : unit.enumeration? 2 = none → scale = 1.0

/-- An entity is no unit that lengths are known in: it is no unit of length, or one of the
International System other than the metre, or neither of this system nor a conversion. -/
def GivesNoLength (unit : Entity) : Prop :=
  ¬ IsLength unit ∨ (unit.type = .known .siUnit ∧ unit.enumeration? 3 ≠ some "METRE") ∨
    (unit.type ≠ .known .siUnit ∧ unit.type ≠ .known .conversionBasedUnit)

/-- A unit of length converts by a factor to a base, which may be missing. -/
structure Converts (x : EntityIndex) (unit : Entity) (factor : Float) (base : Option Entity) :
    Prop where
  /-- It is a unit that is defined by a conversion. -/
  type_eq : unit.type = .known .conversionBasedUnit
  /-- It is a unit of length. -/
  isLength : IsLength unit
  /-- The measure of the conversion has the factor and the base. -/
  exists_measure : ∃ measure, x.follow? unit 3 = some measure ∧
    measure.type = .known .measureWithUnit ∧ measure.real? 0 = some factor ∧
    x.follow? measure 1 = base

/-- Units of which each converts to the next one, with their factors and the scale at the end. -/
inductive Chain (x : EntityIndex) : List Entity → List Float → Float → Prop
  /-- A unit that converts to a metre. -/
  | metre {unit base : Entity} {factor scale : Float} : Converts x unit factor (some base) →
    IsMetre base scale → Chain x [unit] [factor] scale
  /-- A unit whose base is missing or gives no length counts as a multiple of the metre. -/
  | baseless {unit : Entity} {base : Option Entity} {factor : Float} :
    Converts x unit factor base → (∀ e, base = some e → GivesNoLength e) →
    Chain x [unit] [factor] 1.0
  /-- A unit that converts to the head of a chain. -/
  | link {unit next : Entity} {units : List Entity} {factor scale : Float} {factors : List Float} :
    Converts x unit factor (some next) → Chain x (next :: units) factors scale →
    Chain x (unit :: next :: units) (factor :: factors) scale

variable {x : EntityIndex}

/-! ## One unit -/

theorem IsMetre.lengthScaleWithin?_eq {unit : Entity} {scale : Float} (h : IsMetre unit scale)
    (fuel : Nat) : lengthScaleWithin? x (fuel + 1) unit = some scale := by
  have hlength : unit.enumeration? 1 = some "LENGTHUNIT" := h.isLength
  have hscale : ((unit.enumeration? 2).map prefixScale).getD 1.0 = scale := by
    cases hname : unit.enumeration? 2 with
    | none => exact (h.eq_one hname).symm
    | some name => exact (h.eq_prefixScale name hname).symm
  simp only [lengthScaleWithin?, hlength, h.type_eq, h.name_eq, bne_self_eq_false,
    Bool.false_eq_true, if_false, hscale]

theorem Converts.lengthScaleWithin?_eq {unit : Entity} {factor : Float} {base : Option Entity}
    (h : Converts x unit factor base) (fuel : Nat) :
    lengthScaleWithin? x (fuel + 1) unit =
      some (factor * ((base.bind (lengthScaleWithin? x fuel)).getD 1.0)) := by
  have hlength : unit.enumeration? 1 = some "LENGTHUNIT" := h.isLength
  obtain ⟨measure, hmeasure, htype, hfactor, rfl⟩ := h.exists_measure
  simp only [lengthScaleWithin?, hlength, h.type_eq, hmeasure, htype, hfactor, bne_self_eq_false,
    Bool.false_eq_true, if_false, if_true, Option.map_some]

theorem GivesNoLength.lengthScaleWithin?_eq {unit : Entity} (h : GivesNoLength unit)
    (fuel : Nat) : lengthScaleWithin? x fuel unit = none := by
  cases fuel with
  | zero => rfl
  | succ fuel =>
    rw [lengthScaleWithin?]
    rcases h with h | ⟨htype, hname⟩ | ⟨hsystem, hconversion⟩
    · rw [if_pos (bne_iff_ne.2 h)]
    · simp only [htype, if_pos (bne_iff_ne.2 hname), ite_self]
    · split
      · rfl
      · split
        · next htype => exact absurd htype hsystem
        · next htype => exact absurd htype hconversion
        · rfl

/-! ## Chains -/

namespace Chain

variable {units : List Entity} {factors : List Float} {scale : Float}

/-- The scale of the head of a chain, where as many units are followed as the chain has, and one
more. -/
theorem lengthScaleWithin?_eq (h : Chain x units factors scale) {fuel : Nat}
    (hfuel : units.length < fuel) :
    units.head?.bind (lengthScaleWithin? x fuel) = some (factors.foldr (· * ·) scale) := by
  induction h generalizing fuel with
  | metre hunit hbase =>
    obtain ⟨fuel, rfl⟩ : ∃ n, fuel = n + 2 := ⟨fuel - 2, by simp at hfuel; omega⟩
    rw [List.head?_cons, Option.bind_some, hunit.lengthScaleWithin?_eq, Option.bind_some,
      hbase.lengthScaleWithin?_eq]
    rfl
  | @baseless unit base factor hunit hbase =>
    obtain ⟨fuel, rfl⟩ : ∃ n, fuel = n + 1 := ⟨fuel - 1, by simp at hfuel; omega⟩
    have hnone : base.bind (lengthScaleWithin? x fuel) = none :=
      Option.bind_eq_none_iff.2 fun e he => (hbase e he).lengthScaleWithin?_eq fuel
    rw [List.head?_cons, Option.bind_some, hunit.lengthScaleWithin?_eq, hnone]
    rfl
  | link hunit _ ih =>
    obtain ⟨fuel, rfl⟩ : ∃ n, fuel = n + 1 := ⟨fuel - 1, by simp at hfuel; omega⟩
    have hnext := ih (Nat.lt_of_succ_lt_succ hfuel)
    rw [List.head?_cons, Option.bind_some] at hnext
    rw [List.head?_cons, Option.bind_some, hunit.lengthScaleWithin?_eq, Option.bind_some, hnext]
    rfl

/-- The units of a chain are conversions. -/
theorem type_eq (h : Chain x units factors scale) :
    ∀ unit ∈ units, unit.type = .known .conversionBasedUnit := by
  induction h with
  | metre hunit _ => exact List.forall_mem_singleton.2 hunit.type_eq
  | baseless hunit _ => exact List.forall_mem_singleton.2 hunit.type_eq
  | link hunit _ ih => exact List.forall_mem_cons.2 ⟨hunit.type_eq, ih⟩

/-- Every unit behind the head of a chain is an instance. -/
theorem exists_get? (h : Chain x units factors scale) :
    ∀ unit ∈ units.tail, ∃ id, x.get? id = some unit := by
  induction h with
  | metre | baseless => exact nofun
  | link hunit _ ih =>
    obtain ⟨measure, -, -, -, hnext⟩ := hunit.exists_measure
    exact List.forall_mem_cons.2 ⟨EntityIndex.exists_get?_of_follow? hnext, ih⟩

/-- There is a measure in the index of a chain. -/
theorem exists_measure (h : Chain x units factors scale) :
    ∃ measure id, x.get? id = some measure ∧ measure.type = .known .measureWithUnit := by
  have hconverts {unit : Entity} {factor : Float} {base : Option Entity}
      (h : Converts x unit factor base) :
      ∃ measure id, x.get? id = some measure ∧ measure.type = .known .measureWithUnit := by
    obtain ⟨measure, hmeasure, htype, -⟩ := h.exists_measure
    obtain ⟨id, hid⟩ := EntityIndex.exists_get?_of_follow? hmeasure
    exact ⟨measure, id, hid, htype⟩
  cases h with
  | metre hunit _ | baseless hunit _ | link hunit _ => exact hconverts hunit

/-- A chain of different units is shorter than the index. -/
theorem length_lt_size (h : Chain x units factors scale)
    (hnamed : ∀ id e, x.get? id = some e → e.id = id)
    (hhead : ∀ unit, units.head? = some unit → ∃ id, x.get? id = some unit)
    (hdistinct : (units.map (·.id)).Nodup) : units.length < x.size := by
  obtain ⟨measure, id, hid, htype⟩ := h.exists_measure
  have hget {e : Entity} (he : ∃ id, x.get? id = some e) : x.get? e.id = some e := by
    obtain ⟨id, hid⟩ := he
    rwa [hnamed id e hid]
  have hunits : ∀ unit ∈ units, x.get? unit.id = some unit := by
    intro unit hunit
    cases units with
    | nil => cases hunit
    | cons head tail =>
      rcases List.mem_cons.1 hunit with rfl | hunit
      · exact hget (hhead unit rfl)
      · exact hget (h.exists_get? unit hunit)
  -- The measure is one more instance, as its type is another.
  have hfresh : measure.id ∉ units.map (·.id) := by
    intro hmem
    obtain ⟨unit, hunit, heq⟩ := List.mem_map.1 hmem
    have hsame := hunits unit hunit
    rw [heq, hget ⟨id, hid⟩, Option.some.injEq] at hsame
    rw [hsame, h.type_eq unit hunit] at htype
    cases htype
  have hsub : measure.id :: units.map (·.id) ⊆ x.ids := by
    refine List.cons_subset.2 ⟨EntityIndex.mem_ids_of_get? (hget ⟨id, hid⟩), fun i hi => ?_⟩
    obtain ⟨unit, hunit, rfl⟩ := List.mem_map.1 hi
    exact EntityIndex.mem_ids_of_get? (hunits unit hunit)
  have hlen := (List.subperm_of_subset (List.nodup_cons.2 ⟨hfresh, hdistinct⟩) hsub).length_le
  rwa [List.length_cons, List.length_map, EntityIndex.ids, Std.TreeMap.length_keys] at hlen

end Chain

/-! ## The scale of a model -/

/-- The scale of a model is that of the first unit of its project that gives a length. -/
theorem lengthScale_of_listed {project assignment unit : Entity} {skipped rest : List Parameter}
    {listed : Parameter} {scale : Float}
    (hproject : (x.entitiesOf (.known .project)).head? = some project)
    (hassignment : x.follow? project 8 = some assignment)
    (hlist : assignment.list? 0 = some (skipped ++ listed :: rest))
    (hskipped : ∀ p ∈ skipped, ∀ e, x.resolve? p = some e → GivesNoLength e)
    (hlisted : x.resolve? listed = some unit) (hscale : lengthScale? x unit = some scale) :
    lengthScale x = scale := by
  have hunits : x.followAll assignment 0 =
      skipped.filterMap x.resolve? ++ unit :: rest.filterMap x.resolve? := by
    obtain ⟨p, hp, hitems⟩ := Option.bind_eq_some_iff.1 hlist
    rw [EntityIndex.followAll, hp, Option.map_some, Option.getD_some, EntityIndex.resolveAll,
      hitems, Option.getD_some, List.filterMap_append, List.filterMap_cons_some hlisted]
  have hnone : (skipped.filterMap x.resolve?).findSome? (lengthScale? x) = none := by
    refine List.findSome?_eq_none_iff.2 fun e he => ?_
    obtain ⟨p, hp, he⟩ := List.mem_filterMap.1 he
    exact (hskipped p hp e he).lengthScaleWithin?_eq x.size
  simp only [lengthScale, hproject, hassignment, hunits, List.findSome?_append, hnone,
    Option.none_or, List.findSome?_cons, hscale, Option.getD_some]

/-- Where the first project of a file lists a unit that is the head of a chain of different units,
and before it only what cannot be found or gives no length, the scale of the lengths is the product
of the factors and the scale at the end of the chain, multiplied from the end. -/
theorem lengthScale_eq_foldr {content : String} {withProperties : Bool} {m : Model}
    (hload : Model.load content withProperties = .ok m) {project assignment unit : Entity}
    {skipped rest : List Parameter} {listed : Parameter} {units : List Entity}
    {factors : List Float} {scale : Float}
    (hproject : (m.index.entitiesOf (.known .project)).head? = some project)
    (hassignment : m.index.follow? project 8 = some assignment)
    (hlist : assignment.list? 0 = some (skipped ++ listed :: rest))
    (hskipped : ∀ p ∈ skipped, ∀ e, m.index.resolve? p = some e → GivesNoLength e)
    (hlisted : m.index.resolve? listed = some unit)
    (hchain : Chain m.index (unit :: units) factors scale)
    (hdistinct : ((unit :: units).map (·.id)).Nodup) :
    m.lengthScale = factors.foldr (· * ·) scale := by
  have hlen := hchain.length_lt_size (Model.named_of_load hload)
    (fun e he => by
      obtain rfl := Option.some.inj he
      exact EntityIndex.exists_get?_of_resolve? hlisted) hdistinct
  have hscale := hchain.lengthScaleWithin?_eq hlen
  rw [List.head?_cons, Option.bind_some] at hscale
  obtain ⟨header, rfl⟩ := Model.exists_of_load hload
  exact lengthScale_of_listed hproject hassignment hlist hskipped hlisted hscale

/-! ## A project in yards -/

open Step (Attribute Definition file)

/-- What units of length tell of themselves. -/
def lengthUnit : Attribute :=
  .enumeration ⟨"LENGTHUNIT".toList, by decide, List.all_eq_true.1 (by decide)⟩

/-- The project. -/
def yardProject : Definition :=
  .ofClass 1 .project [.null, .null, .null, .null, .null, .null, .null, .null, .reference 2]

/-- The units of the project: an instance that is missing, an area, and a length in parsec come
before the yard. -/
def yardAssignment : Definition :=
  .ofClass 2 .unitAssignment
    [.list [.reference 99, .reference 3, .reference 4, .reference 5, .reference 9]]

/-- The unit of areas. -/
def squareMetre : Definition :=
  .ofClass 3 .siUnit [.derived,
    .enumeration ⟨"AREAUNIT".toList, by decide, List.all_eq_true.1 (by decide)⟩, .null,
    .enumeration ⟨"SQUARE_METRE".toList, by decide, List.all_eq_true.1 (by decide)⟩]

/-- A length that is not told in metres. -/
def parsec : Definition :=
  .ofClass 4 .siUnit [.derived, lengthUnit, .null,
    .enumeration ⟨"PARSEC".toList, by decide, List.all_eq_true.1 (by decide)⟩]

/-- A yard. -/
def yard : Definition :=
  .ofClass 5 .conversionBasedUnit [.null, lengthUnit, .text "YARD", .reference 6]

/-- Three feet. -/
def threeFeet : Definition :=
  .ofClass 6 .measureWithUnit [.integer 3, .reference 7]

/-- A foot. -/
def foot : Definition :=
  .ofClass 7 .conversionBasedUnit [.null, lengthUnit, .text "FOOT", .reference 8]

/-- Three decimetres. -/
def threeDecimetres : Definition :=
  .ofClass 8 .measureWithUnit [.integer 3, .reference 9]

/-- A decimetre. -/
def decimetre : Definition :=
  .ofClass 9 .siUnit [.derived, lengthUnit,
    .enumeration ⟨"DECI".toList, by decide, List.all_eq_true.1 (by decide)⟩,
    .enumeration ⟨"METRE".toList, by decide, List.all_eq_true.1 (by decide)⟩]

/-- A project whose lengths are in yards. -/
def inYards : List Definition :=
  [yardProject, yardAssignment, squareMetre, parsec, yard, threeFeet, foot, threeDecimetres,
    decimetre]

theorem nodup_inYards : (inYards.map (·.id)).Nodup := by
  decide

theorem isMetre_decimetre : IsMetre decimetre.entity 1e-1 where
  type_eq := Definition.type_ofClass _ _ _
  isLength := rfl
  name_eq := rfl
  eq_prefixScale name h := by
    obtain rfl := Option.some.inj h
    rfl
  eq_one h := by cases h

section

variable (hget : ∀ d ∈ inYards, x.get? d.id = some d.entity)
include hget

/-- A yard is three feet, and a foot three decimetres. -/
theorem chain_yard : Chain x [yard.entity, foot.entity] [.ofInt 3, .ofInt 3] 1e-1 := by
  have hyard : Converts x yard.entity (.ofInt 3) (some foot.entity) :=
    ⟨Definition.type_ofClass _ _ _, rfl, threeFeet.entity, hget threeFeet (by simp [inYards]),
      Definition.type_ofClass _ _ _, rfl, hget foot (by simp [inYards])⟩
  have hfoot : Converts x foot.entity (.ofInt 3) (some decimetre.entity) :=
    ⟨Definition.type_ofClass _ _ _, rfl, threeDecimetres.entity,
      hget threeDecimetres (by simp [inYards]), Definition.type_ofClass _ _ _, rfl,
      hget decimetre (by simp [inYards])⟩
  exact .link hyard (.metre hfoot isMetre_decimetre)

theorem follow?_yardProject : x.follow? yardProject.entity 8 = some yardAssignment.entity :=
  hget yardAssignment (by simp [inYards])

theorem resolve?_yard : x.resolve? (.reference 5) = some yard.entity :=
  hget yard (by simp [inYards])

/-- Neither areas nor lengths in parsec give a length. -/
theorem givesNoLength_inYards (hmissing : x.get? 99 = none) :
    ∀ p ∈ [Parameter.reference 99, .reference 3, .reference 4],
      ∀ e, x.resolve? p = some e → GivesNoLength e := by
  have harea : x.get? 3 = some squareMetre.entity := hget squareMetre (by simp [inYards])
  have hparsec : x.get? 4 = some parsec.entity := hget parsec (by simp [inYards])
  intro p hp e he
  simp only [List.mem_cons, List.not_mem_nil, or_false] at hp
  rcases hp with rfl | rfl | rfl
  · cases hmissing.symm.trans he
  · obtain rfl := Option.some.inj (harea.symm.trans he)
    have hunit : squareMetre.entity.enumeration? 1 = some "AREAUNIT" := rfl
    exact .inl (by simp [IsLength, hunit])
  · obtain rfl := Option.some.inj (hparsec.symm.trans he)
    have hname : parsec.entity.enumeration? 3 = some "PARSEC" := rfl
    exact .inr (.inl ⟨Definition.type_ofClass _ _ _, by simp [hname]⟩)

end

theorem head?_inYards :
    ((EntityIndex.ofContent (file inYards)).entitiesOf (.known .project)).head? =
      some yardProject.entity := by
  have hmem (e : Entity) :
      e ∈ (EntityIndex.ofContent (file inYards)).entitiesOf (.known .project) ↔
        e = yardProject.entity := by
    rw [Model.mem_entitiesOf_file nodup_inYards]
    simp [inYards, yardProject, yardAssignment, squareMetre, parsec, yard, threeFeet, foot,
      threeDecimetres, decimetre, eq_comm]
  cases hlist : (EntityIndex.ofContent (file inYards)).entitiesOf (.known .project) with
  | nil => exact absurd ((hmem _).2 rfl) (by simp [hlist])
  | cons e _ =>
    rw [List.head?_cons, (hmem e).1 (hlist ▸ List.mem_cons_self)]

/-- The lengths of the project are in yards. -/
theorem lengthScale_eq_foldr_inYards :
    ∃ m, Model.load (file inYards) = .ok m ∧
      (m.index.entitiesOf (.known .project)).head? = some yardProject.entity ∧
      m.index.follow? yardProject.entity 8 = some yardAssignment.entity ∧
      yardAssignment.entity.list? 0 = some ([.reference 99, .reference 3, .reference 4] ++
        .reference 5 :: [.reference 9]) ∧
      (∀ p ∈ [Parameter.reference 99, .reference 3, .reference 4], ∀ e,
        m.index.resolve? p = some e → GivesNoLength e) ∧
      m.index.resolve? (.reference 5) = some yard.entity ∧
      Chain m.index [yard.entity, foot.entity] [.ofInt 3, .ofInt 3] 1e-1 ∧
      ([yard.entity, foot.entity].map (·.id)).Nodup ∧
      m.lengthScale = .ofInt 3 * (.ofInt 3 * 1e-1) := by
  have hload := Model.load_file_eq inYards true
  generalize hm : Model.ofParts { schemaVersion := "IFC4" } (.ofContent (file inYards)) true = m
    at hload
  have hindex : m.index = .ofContent (file inYards) := Model.index_of_load hload
  have hget : ∀ d ∈ inYards, m.index.get? d.id = some d.entity := fun d hd => by
    rw [hindex, Model.get?_file nodup_inYards hd]
  have hmissing : m.index.get? 99 = none := by
    rw [hindex, Model.get?_file_eq]
    rfl
  have hproject : (m.index.entitiesOf (.known .project)).head? = some yardProject.entity := by
    rw [hindex, head?_inYards]
  have hlist : yardAssignment.entity.list? 0 = some ([.reference 99, .reference 3, .reference 4] ++
      .reference 5 :: [.reference 9]) := rfl
  have hskipped := givesNoLength_inYards hget hmissing
  have hdistinct : ([yard.entity, foot.entity].map (·.id)).Nodup := by decide
  exact ⟨m, hload, hproject, follow?_yardProject hget, hlist, hskipped, resolve?_yard hget,
    chain_yard hget, hdistinct, lengthScale_eq_foldr hload hproject
      (follow?_yardProject hget) hlist hskipped (resolve?_yard hget) (chain_yard hget) hdistinct⟩

end Units

end BuildingModel
