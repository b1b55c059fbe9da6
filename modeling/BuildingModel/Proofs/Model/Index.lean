import BuildingModel.Model.Index
import BuildingModel.Proofs.Step.Statement
import Mathlib.Data.List.Nodup

/-!
# What an index answers

The answers of an index are told by the statements it is made from: the entry of an instance name
is the last statement under it (`entry?_ofStatements`), and the names of a type are those of the
statements of the type (`mem_idsOf`). All lists of names are strictly ascending.
-/

namespace BuildingModel.EntityIndex

/-! ## Entries -/

/-- In a map that is filled in order, a key has the last value that was given to it. -/
theorem getElem?_foldl_insert {α κ β : Type} [Ord κ] [Std.TransOrd κ] [Std.LawfulEqOrd κ]
    [DecidableEq κ] (key : α → κ) (value : α → β) (as : List α) (m : Std.TreeMap κ β compare)
    (k : κ) : (as.foldl (fun m a => m.insert (key a) (value a)) m)[k]? =
      ((as.reverse.find? (key · == k)).map value).or m[k]? := by
  induction as generalizing m with
  | nil => rfl
  | cons a as ih =>
    rw [List.foldl_cons, ih, List.reverse_cons, List.find?_append, Std.TreeMap.getElem?_insert]
    cases as.reverse.find? (key · == k) with
    | some b => rfl
    | none =>
      by_cases h : key a = k
      · simp [h]
      · simp [h, Std.LawfulEqCmp.compare_eq_iff_eq]

/-- The entry of an instance name is the last statement under it. -/
theorem entry?_ofStatements (ss : List Step.Statement) (id : EntityId) :
    entry? (ofStatements ss) id = (ss.reverse.find? (·.id == id)).map .ofStatement := by
  have h := getElem?_foldl_insert (·.id) IndexEntry.ofStatement ss {} id
  rwa [Std.TreeMap.getElem?_emptyc, Option.or_none] at h

/-- Under an instance name that only one statement has, the index has that statement. -/
theorem entry?_of_mem {ss : List Step.Statement} (hss : (ss.map (·.id)).Nodup)
    {s : Step.Statement} (hs : s ∈ ss) : entry? (ofStatements ss) s.id = some (.ofStatement s) := by
  rw [entry?_ofStatements]
  obtain ⟨t, ht⟩ : ∃ t, ss.reverse.find? (·.id == s.id) = some t :=
    Option.isSome_iff_exists.1 (List.find?_isSome.2 ⟨s, List.mem_reverse.2 hs, by simp⟩)
  have hid : t.id = s.id := by simpa using List.find?_some ht
  have hmem : t ∈ ss := List.mem_reverse.1 (List.mem_of_find?_eq_some ht)
  rw [ht, List.inj_on_of_nodup_map hss hmem hs hid]
  rfl

/-- Under an instance name without statements, the index has nothing. -/
theorem entry?_eq_none_iff {ss : List Step.Statement} {id : EntityId} :
    entry? (ofStatements ss) id = none ↔ ∀ s ∈ ss, s.id ≠ id := by
  rw [entry?_ofStatements, Option.map_eq_none_iff, List.find?_eq_none]
  simp

/-- An entry of a file is made of the last statement under its name. -/
theorem exists_statement_of_entry? {content : String} {id : EntityId} {entry : IndexEntry}
    (h : entry? (ofContent content) id = some entry) :
    ∃ s ∈ Step.Statement.ofContent content, s.id = id ∧ .ofStatement s = entry := by
  rw [ofContent, entry?_ofStatements] at h
  obtain ⟨s, hs, rfl⟩ := Option.map_eq_some_iff.1 h
  exact ⟨s, List.mem_reverse.1 (List.mem_of_find?_eq_some hs), by simpa using List.find?_some hs,
    rfl⟩

/-- An entity of a file is read from the last statement under its name. -/
theorem exists_statement_of_get? {content : String} {id : EntityId} {e : Entity}
    (h : (ofContent content).get? id = some e) :
    ∃ s ∈ Step.Statement.ofContent content, s.id = id ∧
      entry? (ofContent content) id = some (.ofStatement s) ∧
      ∃ i, Step.Instance.parse s.text = .ok i ∧ .ofInstance i = e := by
  obtain ⟨entry, hentry, he⟩ := Option.bind_eq_some_iff.1 h
  obtain ⟨s, hs, hid, rfl⟩ := exists_statement_of_entry? hentry
  refine ⟨s, hs, hid, hentry, ?_⟩
  change (((Step.Instance.parse s.text).map Entity.ofInstance).toOption) = some e at he
  cases hp : Step.Instance.parse s.text with
  | ok i => exact ⟨i, rfl, by rw [hp] at he; exact Option.some.inj he⟩
  | error f => rw [hp] at he; cases he

/-- An entity of a file has the name that it is found under. -/
theorem id_of_get?_ofContent {content : String} {id : EntityId} {e : Entity}
    (h : (ofContent content).get? id = some e) : e.id = id := by
  obtain ⟨s, hs, rfl, -, i, hi, rfl⟩ := exists_statement_of_get? h
  obtain ⟨ds, r, htext, hds, hdigit, hhead, hname⟩ := Step.Statement.exists_digits_of_mem hs
  rw [htext] at hi
  exact Step.id_of_parse_digits hds hdigit hhead hname hi

/-! ## Lists of names -/

variable (x : EntityIndex)

theorem ids_pairwise : x.ids.Pairwise (· < ·) :=
  Std.TreeMap.ordered_keys.imp Std.compare_eq_lt.1

theorem mem_idsOf {t : EntityType} {id : EntityId} : id ∈ x.idsOf t ↔ (id, t) ∈ x.written := by
  rw [idsOf, Std.TreeSet.mem_toList, Std.TreeSet.mem_ofList, List.contains_iff_mem,
    List.mem_filterMap]
  constructor
  · rintro ⟨⟨i, type⟩, hw, h⟩
    obtain ⟨rfl, rfl⟩ : type = t ∧ i = id := by simpa using h
    exact hw
  · exact fun hw => ⟨_, hw, by simp⟩

variable {x} in
/-- What has a type has an entry. -/
theorem mem_ids_of_typeOf? {id : EntityId} {t : EntityType} (h : x.typeOf? id = some t) :
    id ∈ x.ids := by
  obtain ⟨entry, hentry, -⟩ := Option.map_eq_some_iff.1 h
  exact mem_ids.2 (Option.isSome_of_eq_some hentry)

variable {x} in
/-- Whether the type of a name passes a test; a name without a type does not. -/
theorem getD_map_typeOf? {p : EntityType → Bool} {id : EntityId} :
    ((x.typeOf? id).map p).getD false = true ↔ ∃ t, x.typeOf? id = some t ∧ p t = true := by
  cases x.typeOf? id with
  | none => simp
  | some t => simp

theorem idsOf_pairwise (t : EntityType) : (x.idsOf t).Pairwise (· < ·) :=
  Std.TreeSet.ordered_toList.imp Std.compare_eq_lt.1

end BuildingModel.EntityIndex
