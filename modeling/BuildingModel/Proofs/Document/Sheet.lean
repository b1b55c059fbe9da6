import BuildingModel.Document.Encoding
import BuildingModel.Proofs.Json.Sorted
import BuildingModel.Proofs.Model.RoundTrip
import BuildingModel.Proofs.Model.Types

/-!
# Property sheets

The sheet of a node has the property sets of its entity by their names, each with its properties by
theirs, and the quantities of all sets by theirs. What has the same name overwrites what comes
before it, so under a name there is the last value that has the name (`properties_node`). Where
names are distinct, nothing is lost, added, or put into another set.
-/

namespace BuildingModel.Document

open BuildingModel.Step (Definition file)

/-! ## Values by their names -/

section

variable {α : Type} {name : α → String} {as : List α} {key : String}

/-- The last of several values that has a name. -/
def lastNamed? (name : α → String) (as : List α) (key : String) : Option α :=
  as.reverse.find? (name · == key)

theorem isSome_lastNamed?_iff : (lastNamed? name as key).isSome ↔ ∃ a ∈ as, name a = key := by
  rw [lastNamed?, List.find?_isSome]
  simp

theorem of_lastNamed? {a : α} (h : lastNamed? name as key = some a) : a ∈ as ∧ name a = key :=
  ⟨List.mem_reverse.1 (List.mem_of_find?_eq_some h), by simpa using List.find?_some h⟩

/-- Among values with distinct names, the last one with a name is the only one. -/
theorem lastNamed?_of_nodup (hnames : (as.map name).Nodup) {a : α} (ha : a ∈ as) :
    lastNamed? name as (name a) = some a := by
  obtain ⟨b, hb⟩ := Option.isSome_iff_exists.1 (isSome_lastNamed?_iff.2 ⟨a, ha, rfl⟩)
  obtain ⟨hmem, hname⟩ := of_lastNamed? hb
  rw [hb, List.inj_on_of_nodup_map hnames hmem ha hname]

/-- An object shows values by their names: its keys are distinct, and they are the names of the
values. Under a name it shows the last value that has the name. -/
structure ShowsLast (name : α → String) (shows : α → Json → Prop) (as : List α) (j : Json) :
    Prop where
  /-- It is an object with distinct keys. -/
  object : ∃ fields, j = .object fields ∧ (fields.map Prod.fst).Nodup
  /-- What it has under a key. -/
  field : ∀ key, Option.Rel shows (lastNamed? name as key) (j.field? key)

theorem lookup_sortFields_map {β : Type} (value : α → β) (as : List α) (key : String) :
    (Json.sortFields (as.map fun a => (name a, value a))).lookup key =
      (lastNamed? name as key).map value := by
  rw [Json.lookup_sortFields, ← List.map_reverse, List.find?_map, Option.map_map]
  rfl

/-- What is shown under a name shows a value with the name. -/
theorem ShowsLast.exists_of_field? {shows : α → Json → Prop} {j v : Json}
    (h : ShowsLast name shows as j) (hv : j.field? key = some v) :
    ∃ a ∈ as, name a = key ∧ shows a v := by
  have hfield := h.field key
  rw [hv] at hfield
  cases hlast : lastNamed? name as key with
  | none =>
    rw [hlast] at hfield
    cases hfield
  | some a =>
    rw [hlast] at hfield
    obtain ⟨ha, hname⟩ := of_lastNamed? hlast
    cases hfield with
    | some hshows => exact ⟨a, ha, hname, hshows⟩

/-- The last value that has a name is shown under it. -/
theorem ShowsLast.exists_of_lastNamed? {shows : α → Json → Prop} {j : Json}
    (h : ShowsLast name shows as j) (key : String) {a : α}
    (ha : lastNamed? name as key = some a) :
    ∃ v, j.field? key = some v ∧ shows a v := by
  have hfield := h.field key
  rw [ha] at hfield
  cases hv : j.field? key with
  | none =>
    rw [hv] at hfield
    cases hfield
  | some v =>
    rw [hv] at hfield
    cases hfield with
    | some hshows => exact ⟨v, rfl, hshows⟩

/-- If names are distinct, every value is shown under its name. -/
theorem ShowsLast.exists_field? {shows : α → Json → Prop} {j : Json}
    (h : ShowsLast name shows as j) (hnames : (as.map name).Nodup) {a : α} (ha : a ∈ as) :
    ∃ v, j.field? (name a) = some v ∧ shows a v :=
  h.exists_of_lastNamed? _ (lastNamed?_of_nodup hnames ha)

/-- Sorted fields show what they are made of. -/
theorem showsLast_sortFields {β : Type} (value : α → β) (encode : β → Json)
    {shows : α → Json → Prop} (hshows : ∀ a ∈ as, shows a (encode (value a))) :
    ShowsLast name shows as
      (.object ((Json.sortFields (as.map fun a => (name a, value a))).map
        fun (key, v) => (key, encode v))) := by
  constructor
  case object =>
    refine ⟨_, rfl, ?_⟩
    rw [List.map_map]
    exact Json.nodup_keys_sortFields _
  case field =>
    intro key
    rw [Json.field?, Json.lookup_map, lookup_sortFields_map]
    cases h : lastNamed? name as key with
    | none => exact .none
    | some a => exact .some (hshows a (of_lastNamed? h).1)

end

/-! ## Sheets -/

theorem lookup_textField_of_ne {key other : String} (h : other ≠ key) (o : Option String) :
    (Json.textField key o).lookup other = none := by
  cases o with
  | none => rfl
  | some s => simp [Json.textField, h]

theorem lookup_namedField_of_ne {α : Type} {key other : String} (h : other ≠ key)
    (encode : α → Json) (values : List (String × α)) :
    (namedField key encode values).lookup other = none := by
  rw [namedField]
  split
  · rfl
  · simp [h]

/-- A field of named values is absent exactly if there are none, and it shows the last ones. -/
theorem lookup_namedField {α β : Type} {name : α → String} {as : List α} (key : String)
    (value : α → β) (encode : β → Json) {shows : α → Json → Prop}
    (hshows : ∀ a ∈ as, shows a (encode (value a))) {field : Option Json}
    (hfield : (namedField key encode (Json.sortFields (as.map fun a => (name a, value a)))).lookup
      key = field) :
    (field = none ↔ as = []) ∧ ∀ j, field = some j → ShowsLast name shows as j := by
  rw [namedField, Json.isEmpty_sortFields, List.isEmpty_map] at hfield
  cases as with
  | nil =>
    subst hfield
    exact ⟨iff_of_true rfl rfl, fun j hj => by cases hj⟩
  | cons a as =>
    obtain rfl : some _ = field := List.lookup_cons_self.symm.trans hfield
    refine ⟨by simp, fun j hj => ?_⟩
    obtain rfl := Option.some.inj hj
    exact showsLast_sortFields value encode hshows

theorem lookup_pair_of_ne {key first second : String} (hfirst : key ≠ first)
    (hsecond : key ≠ second) (v w : Json) : [(first, v), (second, w)].lookup key = none := by
  simp [hfirst, hsecond]

theorem field?_propertySets (t : PropertySheet) : t.toJson.field? "propertySets" =
    (namedField "propertySets" setJson t.propertySets).lookup "propertySets" := by
  rw [PropertySheet.toJson, Json.field?, List.lookup_append, List.lookup_append, List.lookup_append,
    List.lookup_append, lookup_pair_of_ne (by decide) (by decide),
    lookup_textField_of_ne (by decide), lookup_textField_of_ne (by decide),
    lookup_namedField_of_ne (by decide) Amount.toJson, Option.or_none, Option.or_none,
    Option.none_or, Option.none_or]

theorem field?_quantities (t : PropertySheet) : t.toJson.field? "quantities" =
    (namedField "quantities" Amount.toJson t.quantities).lookup "quantities" := by
  rw [PropertySheet.toJson, Json.field?, List.lookup_append, List.lookup_append, List.lookup_append,
    List.lookup_append, lookup_pair_of_ne (by decide) (by decide),
    lookup_textField_of_ne (by decide), lookup_textField_of_ne (by decide),
    lookup_namedField_of_ne (by decide) setJson, Option.or_none, Option.none_or,
    Option.none_or, Option.none_or]

theorem field?_properties (n : Node) : n.toJson.field? "properties" = some n.properties.toJson := by
  rw [Node.toJson, Json.field?, Node.fields, List.lookup_append, List.lookup_append,
    List.lookup_append, List.lookup_append, List.lookup_append,
    lookup_pair_of_ne (by decide) (by decide), lookup_textField_of_ne (by decide),
    lookup_textField_of_ne (by decide), lookup_textField_of_ne (by decide), List.lookup_cons_self,
    Option.none_or, Option.none_or, Option.none_or, Option.none_or, Option.some_or]

/-- A property set is shown by the last values of its properties. -/
def ShowsSet (set : PropertySet) (j : Json) : Prop :=
  ShowsLast Property.name (fun q v => v = q.value.toJson) set.properties j

/-- A quantity is shown by its value and unit. -/
def ShowsQuantity (q : Quantity) (j : Json) : Prop :=
  j = .object [("unit", .text q.unit), ("value", .ofFloat q.value)]

theorem propertySets_sheet (m : Model) (e : Entity) {field : Option Json}
    (hfield : (propertySheet m true e).toJson.field? "propertySets" = field) :
    (field = none ↔ m.propertySets e.id = []) ∧
      ∀ j, field = some j → ShowsLast PropertySet.name ShowsSet (m.propertySets e.id) j := by
  rw [field?_propertySets] at hfield
  have hset (set : PropertySet) : ShowsSet set
      (setJson (Json.sortFields (set.properties.map fun q => (q.name, q.value)))) :=
    showsLast_sortFields Property.value PropertyValue.toJson fun _ _ => rfl
  exact lookup_namedField _ _ setJson (fun set _ => hset set) hfield

theorem quantities_sheet (m : Model) (e : Entity) {field : Option Json}
    (hfield : (propertySheet m true e).toJson.field? "quantities" = field) :
    (field = none ↔ m.quantities e.id = []) ∧
      ∀ j, field = some j → ShowsLast Quantity.name ShowsQuantity (m.quantities e.id) j := by
  rw [field?_quantities] at hfield
  have hquantity (q : Quantity) : ShowsQuantity q (Amount.toJson ⟨q.value, q.unit⟩) := rfl
  exact lookup_namedField _ _ Amount.toJson (fun q _ => hquantity q) hfield

/-- If sets have distinct names, and the properties in each of them have, too, then what is shown
under the name of a set and the name of a property is the value of this property of this set. -/
theorem bind_field?_eq_some_iff {sets : List PropertySet} {field : Option Json}
    (hnone : field = none ↔ sets = [])
    (hshows : ∀ j, field = some j → ShowsLast PropertySet.name ShowsSet sets j)
    (hsets : (sets.map PropertySet.name).Nodup)
    (hproperties : ∀ set ∈ sets, (set.properties.map Property.name).Nodup)
    {setName name : String} {v : Json} :
    (field.bind (Json.field? setName)).bind (Json.field? name) = some v ↔
      ∃ set ∈ sets, set.name = setName ∧ ∃ q ∈ set.properties, q.name = name ∧
        q.value.toJson = v := by
  constructor
  · intro h
    obtain ⟨w, hw, hv⟩ := Option.bind_eq_some_iff.1 h
    obtain ⟨j, hj, hw⟩ := Option.bind_eq_some_iff.1 hw
    obtain ⟨set, hset, hname, hshow⟩ := (hshows j hj).exists_of_field? hw
    obtain ⟨q, hq, hqname, hvalue⟩ := ShowsLast.exists_of_field? hshow hv
    exact ⟨set, hset, hname, q, hq, hqname, hvalue.symm⟩
  · rintro ⟨set, hset, rfl, q, hq, rfl, rfl⟩
    -- As there is a set, there is a field.
    obtain ⟨j, rfl⟩ : ∃ j, field = some j :=
      Option.ne_none_iff_exists'.1 fun hfield => by simp [hnone.1 hfield] at hset
    obtain ⟨w, hw, hshow⟩ := (hshows j rfl).exists_field? hsets hset
    obtain ⟨v, hv, hvalue⟩ := ShowsLast.exists_field? hshow (hproperties set hset) hq
    rw [Option.bind_some, hw, Option.bind_some, hv, hvalue]

/-- The sheet of a node has a field of property sets exactly if its entity has property sets, and a
field of quantities exactly if it has quantities. The former shows the last set of each name, by the
last values of its properties; the latter shows the last quantity of each name over all sets, by its
value and unit. If the sets have distinct names, and the properties in each of them have, too, then
the value of every property is found under the name of its set, and no other value. -/
theorem properties_node {s : NodeSource} (h : s.withProperties = true) (e : Entity) :
    ∃ p, (s.node e).toJson.field? "properties" = some p ∧
      (p.field? "propertySets" = none ↔ s.model.propertySets e.id = []) ∧
      (∀ j, p.field? "propertySets" = some j →
        ShowsLast PropertySet.name ShowsSet (s.model.propertySets e.id) j) ∧
      (p.field? "quantities" = none ↔ s.model.quantities e.id = []) ∧
      (∀ j, p.field? "quantities" = some j →
        ShowsLast Quantity.name ShowsQuantity (s.model.quantities e.id) j) ∧
      (((s.model.propertySets e.id).map PropertySet.name).Nodup →
        (∀ set ∈ s.model.propertySets e.id, (set.properties.map Property.name).Nodup) →
        ∀ setName name v,
          ((p.field? "propertySets").bind (Json.field? setName)).bind (Json.field? name) = some v ↔
            ∃ set ∈ s.model.propertySets e.id, set.name = setName ∧
              ∃ q ∈ set.properties, q.name = name ∧ q.value.toJson = v) := by
  obtain ⟨hsets, hshowsSets⟩ := propertySets_sheet s.model e rfl
  obtain ⟨hquantities, hshowsQuantities⟩ := quantities_sheet s.model e rfl
  refine ⟨(propertySheet s.model true e).toJson, ?_, hsets, hshowsSets, hquantities,
    hshowsQuantities, fun hnames hproperties setName name v => ?_⟩
  · rw [field?_properties, NodeSource.node, h]
  · exact bind_field?_eq_some_iff hsets hshowsSets hnames hproperties

/-! ## A property that is written twice -/

/-- A fire rating. -/
def rating (id : EntityId) (value : String) : Definition :=
  .ofClass id .propertySingleValue [.text "FireRating", .null, .text value]

/-- A wall. -/
def ratedWall : Definition :=
  .ofClass 1 .wall []

/-- A property set with two ratings. -/
def ratings : Definition :=
  .ofClass 4 .propertySet
    [.null, .null, .text "Common", .null, .list [.reference 2, .reference 3]]

/-- The relation that gives the wall the set. -/
def rates : Definition :=
  .ofClass 5 .relDefinesByProperties
    [.null, .null, .null, .null, .list [.reference 1], .reference 4]

/-- A wall whose rating was raised. -/
def ratedTwice : List Definition :=
  [ratedWall, rating 2 "F30", rating 3 "F90", ratings, rates]

/-- The model of the wall. -/
def ratedModel : Model :=
  .ofParts { schemaVersion := "IFC4" } (.ofContent (file ratedTwice)) true

theorem index_ratedModel : ratedModel.index = .ofContent (file ratedTwice) := rfl

theorem definitionLinks_ofParts (header : Step.Header) (x : EntityIndex) :
    (Model.ofParts header x true).definitionLinks = Properties.links x := rfl

theorem nodup_ratedTwice : (ratedTwice.map (·.id)).Nodup := by decide

theorem map_type_ratedTwice : ratedTwice.map (fun d => (d.id, d.type)) =
    [(1, .known .wall), (2, .known .propertySingleValue), (3, .known .propertySingleValue),
      (4, .known .propertySet), (5, .known .relDefinesByProperties)] := by
  simp only [ratedTwice, ratedWall, rating, ratings, rates, List.map_cons, List.map_nil,
    Definition.id_ofClass, Definition.type_ofClass]

theorem get?_ratedModel {d : Definition} (hd : d ∈ ratedTwice) :
    ratedModel.index.get? d.id = some d.entity := by
  rw [index_ratedModel]
  exact Model.get?_file nodup_ratedTwice hd

theorem resolve?_ratedModel {d : Definition} (hd : d ∈ ratedTwice) :
    ratedModel.index.resolve? (.reference d.id) = some d.entity := by
  rw [EntityIndex.resolve?, Parameter.asReference?, Option.bind_some]
  exact get?_ratedModel hd

theorem typeOf?_ratings : ratedModel.index.typeOf? ratings.id = some (.known .propertySet) := by
  rw [index_ratedModel, Model.typeOf?_file nodup_ratedTwice (by simp [ratedTwice])]
  exact congrArg some (Definition.type_ofClass _ _ _)

/-- There is one relation. -/
theorem definitionLinks_ratedModel :
    ratedModel.definitionLinks = [⟨ratedWall.id, ratings.id⟩] := by
  have hmem {id : EntityId} :
      id ∈ ratedModel.index.idsOf (.known .relDefinesByProperties) ↔ id = rates.id := by
    rw [index_ratedModel, Model.mem_idsOf_file_iff_mem_map, map_type_ratedTwice]
    simp [rates]
  have hids : ratedModel.index.idsOf (.known .relDefinesByProperties) = [rates.id] :=
    List.perm_singleton.1 ((List.perm_ext_iff_of_nodup
      ((EntityIndex.idsOf_pairwise _ _).imp fun hlt => UInt32.ne_of_lt hlt)
      (List.nodup_singleton _)).2 fun _ => by rw [hmem, List.mem_singleton])
  have hlinks : ratedModel.definitionLinks = Properties.links ratedModel.index := by
    rw [index_ratedModel, ratedModel, definitionLinks_ofParts]
  rw [hlinks, Properties.links, EntityIndex.entitiesOf, hids,
    List.filterMap_cons_some (get?_ratedModel (by simp [ratedTwice]))]
  rfl

/-- The set has the ratings in order. -/
theorem propertySet_ratings : Properties.propertySet ratedModel.index ratings.entity =
    ⟨"Common", [⟨"FireRating", .text "F30", none⟩, ⟨"FireRating", .text "F90", none⟩]⟩ := by
  have hrating (id : EntityId) (value : String) :
      Properties.property? ratedModel.index (rating id value).entity =
        some ⟨"FireRating", .text value, none⟩ := by
    have htype : (rating id value).entity.type = .known .propertySingleValue :=
      Definition.type_ofClass _ _ _
    rw [Properties.property?, htype]
    rfl
  have hitems : ratings.entity.attribute? 4 =
      some (.list [.reference (rating 2 "F30").id, .reference (rating 3 "F90").id]) := rfl
  have hall : ratedModel.index.followAll ratings.entity 4 =
      [(rating 2 "F30").entity, (rating 3 "F90").entity] := by
    rw [EntityIndex.followAll, hitems, Option.map_some, Option.getD_some, EntityIndex.resolveAll,
      Parameter.asList?, Option.getD_some,
      List.filterMap_cons_some (resolve?_ratedModel (by simp [ratedTwice])),
      List.filterMap_cons_some (resolve?_ratedModel (by simp [ratedTwice])), List.filterMap_nil]
  rw [Properties.propertySet, hall, List.filterMap_cons_some (hrating _ _),
    List.filterMap_cons_some (hrating _ _), List.filterMap_nil]
  rfl

theorem definitionsOf_ratedModel (t : EntityType) :
    Properties.definitionsOf ratedModel.index ratedModel.definitionLinks t ratedWall.id =
      if t = .known .propertySet then [ratings.entity] else [] := by
  simp only [Properties.definitionsOf, definitionLinks_ratedModel, List.filter_cons,
    List.filter_nil, typeOf?_ratings, BEq.rfl, Bool.true_and, Option.some.injEq,
    decide_eq_true_eq, eq_comm (b := t)]
  split
  · rw [List.map_singleton,
      List.filterMap_cons_some (get?_ratedModel (by simp [ratedTwice])), List.filterMap_nil]
  · rfl

theorem propertySets_ratedModel : ratedModel.propertySets ratedWall.id =
    [⟨"Common", [⟨"FireRating", .text "F30", none⟩, ⟨"FireRating", .text "F90", none⟩]⟩] := by
  rw [Model.propertySets, Properties.propertySets, definitionsOf_ratedModel, if_pos rfl,
    List.map_singleton, propertySet_ratings]
  rfl

theorem quantities_ratedModel : ratedModel.quantities ratedWall.id = [] := by
  rw [Model.quantities, Model.quantitySets, Properties.quantitySets, definitionsOf_ratedModel,
    if_neg (by decide)]
  rfl

/-- The later rating is shown. -/
theorem properties_node_ratedWall :
    ∃ m, Model.load (file ratedTwice) = .ok m ∧
      ∃ p, (({ model := m } : NodeSource).node ratedWall.entity).toJson.field? "properties" =
          some p ∧
        ((p.field? "propertySets").bind (Json.field? "Common")).bind (Json.field? "FireRating") =
          some (.text "F90") ∧
        p.field? "quantities" = none := by
  refine ⟨ratedModel, Model.load_file_eq ratedTwice true, ?_⟩
  obtain ⟨p, hp, hnone, hsets, hquantities, -⟩ :=
    properties_node (s := { model := ratedModel }) rfl ratedWall.entity
  have hwritten : ratedModel.propertySets ratedWall.entity.id = _ := propertySets_ratedModel
  simp only [hwritten] at hnone hsets
  refine ⟨p, hp, ?_, hquantities.2 quantities_ratedModel⟩
  obtain ⟨j, hj⟩ := Option.ne_none_iff_exists'.1 fun h => List.cons_ne_nil _ _ (hnone.1 h)
  -- The set has two values under one name, of which the last one is shown.
  obtain ⟨w, hw, hshow⟩ := (hsets j hj).exists_of_lastNamed? "Common" rfl
  obtain ⟨v, hv, rfl⟩ := ShowsLast.exists_of_lastNamed? hshow "FireRating" rfl
  rw [hj, Option.bind_some, hw, Option.bind_some, hv]
  rfl

end BuildingModel.Document
