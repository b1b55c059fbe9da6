import BuildingModel.Proofs.Model.Index
import BuildingModel.Proofs.Schema.Names
import BuildingModel.Proofs.Step.Clause
import BuildingModel.Proofs.Step.Keyword
import BuildingModel.Proofs.Step.Parameter
import BuildingModel.Proofs.Step.Phrase

/-!
# References

The digits of an instance number are read in three places: by the search for statements, by the
reader of instances, and by the reader of references. The first two refuse a number that does not
fit 32 bits, the third takes it for 0. So in a content of well-formed statements (`InstancePhrase`)
with different names, a reference goes to the instance of its number, or nowhere, unless its number
does not fit and there is an instance 0 (`EntityIndex.resolve?_mentioned_iff`).
-/

namespace BuildingModel

namespace Step

open Text

/-! ## Well-formed statements -/

/-- A well-formed statement of an instance: its name, of any size, and a record by the grammar of
records. -/
structure InstancePhrase where
  /-- The blanks in front. -/
  gap : Run isDataBlank
  /-- The digits of the name. -/
  digits : Digits
  /-- The blanks before the equals sign. -/
  before : Blanks
  /-- The blanks behind the equals sign. -/
  margin : Run isDataBlank
  /-- The keyword. -/
  keyword : NonemptyRun isTagChar
  /-- The blanks between keyword and parameters. -/
  inner : Blanks
  /-- The parameters. -/
  parameters : Enclosure
  /-- The blanks before the semicolon. -/
  after : Blanks

namespace InstancePhrase

variable (w : InstancePhrase)

/-- The number that the name stands for. -/
def value : Nat :=
  digitsValue w.digits.chars

/-- What stands between the keyword and the semicolon. -/
def tail : List Char :=
  w.inner.chars ++ (w.parameters.text ++ w.after.chars)

/-- What stands between the number sign and the semicolon. -/
def body : List Char :=
  w.digits.chars ++ (w.before.chars ++ '=' :: (w.margin.chars ++ (w.keyword.chars ++ w.tail)))

/-- The statement from its number sign to its semicolon. -/
def statement : List Char :=
  '#' :: (w.body ++ [';'])

/-- The entity of the statement, if its name fits 32 bits. -/
def entity? : Option Entity :=
  (entityId? w.digits.chars).map fun id =>
    .ofInstance ⟨id, ⟨String.ofList w.keyword.chars, w.parameters.values⟩⟩

theorem unbroken_tail : Unbroken false w.tail false :=
  w.inner.unbroken_blanks.append (w.parameters.unbroken_text.append w.after.unbroken_blanks)

theorem unbroken_body : Unbroken false w.body false :=
  w.digits.unbroken_digits.append (w.before.unbroken_blanks.append ⟨by decide,
    (unbroken_of_all w.margin.all (by decide) (by decide)).append
      ((unbroken_of_all w.keyword.all (by decide) (by decide)).append w.unbroken_tail)⟩)

/-- The statement as a clause. -/
def clause : Clause :=
  .ofUnbroken (w.gap.chars ++ '#' :: w.body)
    ((unbroken_of_all w.gap.all (by decide) (by decide)).append ⟨by decide, w.unbroken_body⟩)

/-- The name ends at the blanks before the equals sign, or at the equals sign. -/
theorem head_before (r : List Char) :
    ∀ c ∈ (w.before.chars ++ '=' :: r).head?, c.isDigit = false := by
  refine w.before.head_append (fun c hc => ?_) (forall_mem_head?_cons (by decide) r)
  cases hdigit : c.isDigit with
  | false => rfl
  | true => rw [isRecordBlank_of_isWordChar (isWordChar_of_isDigit hdigit)] at hc; cases hc

/-- The keyword ends at the blanks behind it, or at the parameters. -/
theorem head_tail : ∀ c ∈ w.tail.head?, isTagChar c = false := by
  intro c hc
  refine Bool.eq_false_iff.2 fun htag => ?_
  have hword := w.parameters.head_not_word w.inner w.after.chars c hc
  rw [isWordChar_of_isTagChar htag] at hword
  cases hword

/-! ## Reading -/

/-- The record of a statement. -/
def recordPhrase : RecordPhrase where
  margin := ⟨w.margin.chars, fun c hc => isBlank_of_isDataBlank (w.margin.all c hc)⟩
  keyword := ⟨⟨w.keyword.chars, fun c hc => isWordChar_of_isTagChar (w.keyword.all c hc)⟩,
    w.keyword.ne_nil⟩
  gap := w.inner
  parameters := w.parameters
  rest := w.after.chars ++ [';']

/-- A statement whose name fits is read as its instance. -/
theorem parse_statement {id : EntityId} (hid : entityId? w.digits.chars = some id) :
    Instance.parse w.statement =
      .ok ⟨id, ⟨String.ofList w.keyword.chars, w.parameters.values⟩⟩ := by
  have hrecord : Record.parse (dropBlanks w.recordPhrase.text) = .ok w.recordPhrase.record := by
    rw [Record.parse, trimLeft_dropBlanks, ← Record.parse, RecordPhrase.parse_text]
  have htext : w.statement = '#' :: (w.digits.chars ++
      (w.before.chars ++ '=' :: w.recordPhrase.text)) := by
    simp [statement, body, tail, recordPhrase, RecordPhrase.text]
  rw [htext, parse_digits w.digits.ne_nil w.digits.all (w.head_before _) hid,
    dropBlanks_append w.before (forall_mem_head?_cons (by decide) _), afterName, hrecord]
  rfl

/-- The entity of a statement is what the statement is read as. -/
theorem toOption_parse_statement {id : EntityId} (hid : entityId? w.digits.chars = some id) :
    (Entity.parse w.statement).toOption = w.entity? := by
  rw [Entity.parse, w.parse_statement hid, entity?, hid]
  rfl

/-- The entity of a statement mentions what the statement refers to. -/
theorem mentionsAll_attributes {e : Entity} (h : w.entity? = some e) :
    Parameter.mentionsAll e.attributes = w.parameters.mentions.map mentioned := by
  obtain ⟨id, -, rfl⟩ := Option.map_eq_some_iff.1 h
  rw [Entity.ofInstance, ← Parameter.decodedList_eq_map, Parameter.mentionsAll_decodedList,
    w.parameters.mentions_values]

theorem isSome_entity?_iff : w.entity?.isSome ↔ w.value < UInt32.size := by
  rw [entity?, Option.isSome_map, ← Option.ne_none_iff_isSome, ne_eq, entityId?_eq_none_iff,
    Nat.not_le]
  rfl

/-! ## Finding -/

/-- The opening of a statement whose name fits. -/
def opening {id : EntityId} (hid : entityId? w.digits.chars = some id) : Opening where
  digits := w.digits
  id := id
  entityId?_digits := hid
  before := ⟨w.before.chars, fun c hc => by rw [isDataBlank, w.before.all c hc, Bool.true_or]⟩
  after := w.margin
  tag := w.keyword

/-- A statement whose name fits is sighted as a whole. -/
theorem sighting_body {id : EntityId} (hid : entityId? w.digits.chars = some id) :
    sighting (w.body ++ [';']) = .statement id w.keyword.chars w.statement := by
  have h := (w.opening hid).sighting_statement w.head_tail w.unbroken_tail []
  simpa [Opening.text, opening, body, statement] using h

/-- At a statement whose name does not fit, no instance is sighted. -/
theorem sighting_body_eq_none (hid : entityId? w.digits.chars = none) :
    sighting (w.body ++ [';']) = .none := by
  have hbody : w.body ++ [';'] = w.digits.chars ++
      (w.before.chars ++ '=' :: (w.margin.chars ++ (w.keyword.chars ++ (w.tail ++ [';'])))) := by
    simp [body]
  rw [hbody, sighting]
  simp only [takeWhile_run w.digits.all (w.head_before _), hid, ite_self]

theorem clause_gap : w.clause.gap = w.gap.chars :=
  takeWhile_run w.gap.all (forall_mem_head?_cons (by decide) _)

theorem clause_text : w.clause.text = w.gap.chars ++ '#' :: (w.body ++ [';']) := by
  simp [clause, Clause.text, Clause.ofUnbroken]

/-- A statement whose name fits opens with its instance. -/
theorem opening?_clause {id : EntityId} (hid : entityId? w.digits.chars = some id) :
    w.clause.opening? = some (w.clause.gap, w.body ++ [';']) := by
  rw [Clause.opening?, clause_text, clause_gap]
  refine firstOpening?_blanks w.gap.all ?_
  rw [w.sighting_body hid]
  rfl

/-- A statement whose name does not fit hides an instance if one opens in it. -/
theorem opening?_clause_eq_none (hid : entityId? w.digits.chars = none)
    (hhides : ¬ w.clause.Hides) : w.clause.opening? = none := by
  cases hopening : w.clause.opening? with
  | none => rfl
  | some p =>
    obtain ⟨u, r⟩ := p
    obtain rfl : u = w.clause.gap := by
      by_contra hu
      exact hhides ⟨_, hopening, hu⟩
    obtain ⟨htext, hopens⟩ := eq_append_of_firstOpening? hopening
    rw [clause_gap, clause_text] at htext
    obtain ⟨-, rfl⟩ := List.cons.inj (List.append_cancel_left htext)
    rw [w.sighting_body_eq_none hid] at hopens
    cases hopens

/-! ## Contents -/

/-- The content of statements between a text with the word that opens the data section and a last
text. -/
def content (front : List Char) (ws : List InstancePhrase) (closing : List Char) : String :=
  Clause.content front (ws.map clause) closing

variable {w}

/-- The search finds a statement if its name fits. -/
theorem found_clause (hhides : UInt32.size ≤ w.value → ¬ w.clause.Hides) (offset : Nat) :
    w.clause.found offset = ((entityId? w.digits.chars).map fun id =>
      w.clause.placed offset id w.keyword.chars w.statement).toList := by
  rw [Clause.found, ← List.append_nil w.clause.text]
  cases hid : entityId? w.digits.chars with
  | some id => exact Clause.scan_text_of_opening? (w.opening?_clause hid) (w.sighting_body hid) _ []
  | none =>
    exact Clause.scan_text_of_opening?_eq_none
      (w.opening?_clause_eq_none hid (hhides (entityId?_eq_none_iff.1 hid))) _ []

/-- A statement whose name fits hides nothing. -/
theorem not_hides_clause (hhides : UInt32.size ≤ w.value → ¬ w.clause.Hides) :
    ¬ w.clause.Hides := by
  cases hid : entityId? w.digits.chars with
  | none => exact hhides (entityId?_eq_none_iff.1 hid)
  | some id =>
    rintro ⟨p, hp, hne⟩
    rw [w.opening?_clause hid] at hp
    cases hp
    exact hne rfl

variable {ws : List InstancePhrase}

/-- What is found in statements is told by those whose names fit. -/
theorem map_foundAll (hhides : ∀ w ∈ ws, UInt32.size ≤ w.value → ¬ w.clause.Hides)
    (offset : Nat) : (Clause.foundAll offset (ws.map clause)).map (fun s => (s.id, s.text)) =
      ws.filterMap fun w => (entityId? w.digits.chars).map fun id => (id, w.statement) := by
  induction ws generalizing offset with
  | nil => rfl
  | cons w ws ih =>
    rw [List.map_cons, Clause.foundAll, List.map_append,
      ih fun v hv => hhides v (List.mem_cons_of_mem _ hv),
      found_clause (hhides w List.mem_cons_self)]
    cases hid : entityId? w.digits.chars with
    | none => simp [hid]
    | some id => simp [hid, Clause.placed]

/-- Statements with different numbers have different names. -/
theorem nodup_ids (hhides : ∀ w ∈ ws, UInt32.size ≤ w.value → ¬ w.clause.Hides)
    (hnames : ws.Pairwise fun v w => v.value ≠ w.value) (offset : Nat) :
    ((Clause.foundAll offset (ws.map clause)).map (·.id)).Nodup := by
  have hids : (Clause.foundAll offset (ws.map clause)).map (·.id) =
      ws.filterMap fun w => entityId? w.digits.chars := by
    simpa [List.map_filterMap, Function.comp_def] using
      congrArg (List.map Prod.fst) (map_foundAll hhides offset)
  rw [hids]
  refine hnames.filterMap _ fun v w hne id hid id' hid' he => hne ?_
  rw [value, value, entityId?_eq_some_iff.1 hid, entityId?_eq_some_iff.1 hid', he]

end InstancePhrase

end Step

namespace EntityIndex

open Step Text InstancePhrase

section

variable {front closing : List Char} {ws : List InstancePhrase}
  (hfront : ¬ Statement.sectionStart <:+: front ++ Statement.sectionStart.dropLast)
  (hclosing : '#' ∉ closing) (hnames : ws.Pairwise fun v w => v.value ≠ w.value)
  (hhides : ∀ w ∈ ws, UInt32.size ≤ w.value → ¬ w.clause.Hides)

include hfront hclosing hnames hhides

/-- An entity is that of the statement with its number. -/
theorem get?_phrases_eq_some_iff {id : EntityId} {e : Entity} :
    (EntityIndex.ofContent (InstancePhrase.content front ws closing)).get? id = some e ↔
      ∃ w ∈ ws, w.value = id.toNat ∧ w.entity? = some e := by
  obtain ⟨offset, hstatements⟩ : ∃ offset, Statement.ofContent
      (InstancePhrase.content front ws closing) = Clause.foundAll offset (ws.map clause) := by
    refine ⟨_, Statement.ofContent_content_of_not_hides hfront hclosing fun c hc => ?_⟩
    obtain ⟨w, hw, rfl⟩ := List.mem_map.1 hc
    exact not_hides_clause (hhides w hw)
  have hfound := map_foundAll hhides offset
  constructor
  -- An entity is read from a statement that was found.
  · intro h
    obtain ⟨s, hs, rfl, -, i, hi, rfl⟩ := exists_statement_of_get? h
    rw [hstatements] at hs
    have hmem := List.mem_map_of_mem (f := fun s : Statement => (s.id, s.text)) hs
    rw [hfound, List.mem_filterMap] at hmem
    obtain ⟨w, hw, hmem⟩ := hmem
    obtain ⟨id, hid, he⟩ := Option.map_eq_some_iff.1 hmem
    obtain ⟨rfl, htext⟩ := Prod.mk.inj he
    refine ⟨w, hw, entityId?_eq_some_iff.1 hid, ?_⟩
    rw [← w.toOption_parse_statement hid, htext, Entity.parse, hi]
    rfl
  -- No other statement has the name, so the one that was found is the last with it.
  · rintro ⟨w, hw, hvalue, he⟩
    have hid : entityId? w.digits.chars = some id := entityId?_eq_some_iff.2 hvalue
    have hmem : (id, w.statement) ∈ (Clause.foundAll offset (ws.map clause)).map
        fun s => (s.id, s.text) := by
      rw [hfound, List.mem_filterMap]
      exact ⟨w, hw, by rw [hid]; rfl⟩
    obtain ⟨s, hs, hpair⟩ := List.mem_map.1 hmem
    obtain ⟨rfl, htext⟩ := Prod.mk.inj hpair
    rw [EntityIndex.ofContent, hstatements, get?, entry?_of_mem (nodup_ids hhides hnames offset) hs,
      Option.bind_some, IndexEntry.ofStatement, htext, w.toOption_parse_statement hid, he]

end

/-- A reference is resolved by looking up its instance. -/
theorem resolve?_reference (x : EntityIndex) (id : EntityId) :
    x.resolve? (.reference id) = x.get? id :=
  rfl

/-- In a content of well-formed statements with different numbers, of which those whose number does
not fit 32 bits hide no instance, an entity is that of the statement with its number. It mentions
what its statement refers to, in order. A reference goes to the entity of the statement with its
number or nowhere, if and only if its number fits or there is no instance 0; where its number does
not fit, it goes to instance 0. -/
theorem resolve?_mentioned_iff {front closing : List Char} {ws : List InstancePhrase}
    (hfront : ¬ Statement.sectionStart <:+: front ++ Statement.sectionStart.dropLast)
    (hclosing : '#' ∉ closing) (hnames : ws.Pairwise fun v w => v.value ≠ w.value)
    (hhides : ∀ w ∈ ws, UInt32.size ≤ w.value → ¬ w.clause.Hides) :
    let x := EntityIndex.ofContent (InstancePhrase.content front ws closing)
    (∀ id e, x.get? id = some e ↔ ∃ w ∈ ws, w.value = id.toNat ∧ w.entity? = some e) ∧
      ∀ w ∈ ws, ∀ e, w.entity? = some e →
        Parameter.mentionsAll e.attributes = w.parameters.mentions.map mentioned ∧
        ∀ ds ∈ w.parameters.mentions,
          ((∀ e', x.resolve? (.reference (mentioned ds)) = some e' →
              ∃ v ∈ ws, v.value = digitsValue ds.chars ∧ v.entity? = some e') ↔
            digitsValue ds.chars < UInt32.size ∨ ∀ v ∈ ws, v.value ≠ 0) ∧
          ∀ e', x.resolve? (.reference (mentioned ds)) = some e' ↔ ∃ v ∈ ws, v.value =
            (if digitsValue ds.chars < UInt32.size then digitsValue ds.chars else 0) ∧
              v.entity? = some e' := by
  intro x
  have hget (id : EntityId) (e : Entity) :
      x.get? id = some e ↔ ∃ w ∈ ws, w.value = id.toNat ∧ w.entity? = some e :=
    get?_phrases_eq_some_iff hfront hclosing hnames hhides
  refine ⟨hget, fun w hw e he => ⟨w.mentionsAll_attributes he, fun ds hds => ⟨?_, fun e' => ?_⟩⟩⟩
  · by_cases hfits : digitsValue ds.chars < UInt32.size
    · refine iff_of_true (fun e' he' => ?_) (.inl hfits)
      have hgoal := (hget _ e').1 he'
      rwa [toNat_mentioned, if_pos hfits] at hgoal
    · rw [or_iff_right hfits]
      constructor
      · -- A statement with a number that does not fit has no entity.
        intro h v hv hzero
        obtain ⟨e', he'⟩ :=
          Option.isSome_iff_exists.1 (v.isSome_entity?_iff.2 (by rw [hzero]; decide))
        have hresolve := (hget (mentioned ds) e').2
          ⟨v, hv, by rw [toNat_mentioned, if_neg hfits, hzero], he'⟩
        obtain ⟨u, -, hvalue, hu⟩ := h e' hresolve
        have hlt := u.isSome_entity?_iff.1 (Option.isSome_of_eq_some hu)
        omega
      · intro h e' he'
        obtain ⟨v, hv, hvalue, -⟩ := (hget _ e').1 he'
        rw [toNat_mentioned, if_neg hfits] at hvalue
        exact absurd hvalue (h v hv)
  · rw [← toNat_mentioned]
    exact hget _ e'

/-- The tag of a class as a keyword. -/
def classKeyword (c : EntityClass) : NonemptyRun isTagChar where
  toRun := .only c.tag.toList
  ne_nil := by
    rw [EntityClass.toList_tag]
    exact List.cons_ne_nil 'I' _

/-- A number that does not fit 32 bits. -/
def largeNumber : Digits :=
  Step.digits 4294967296

/-- A number with a zero in front. -/
def zeroLed (number : Digits) : Digits where
  chars := '0' :: number.chars
  all := List.forall_mem_cons.2 ⟨rfl, number.all⟩
  ne_nil := List.cons_ne_nil _ _

/-- A wall that refers to instance 2 twice, the second time in depth and with zeros, and to a large
number. -/
def referringWall : InstancePhrase where
  gap := .only ['\n']
  digits := Step.digits 1
  before := .nil
  margin := .nil
  keyword := classKeyword .wall
  inner := .nil
  parameters := .items .nil (.reference (Step.digits 2))
    (.cons .nil (.only [' '])
      (.list (.items .nil
        (.typed ⟨⟨.only ['R'], by decide⟩, by rintro c ⟨⟩; decide⟩ .nil
          (.items .nil (.reference (zeroLed (Step.digits 2))) .nil .nil))
        .nil .nil))
      (.cons .nil .nil (.reference largeNumber) .nil))
    .nil
  after := .nil

/-- A door with the number, of which the statement has blanks. -/
def spacedDoor (number : Digits) : InstancePhrase where
  gap := .only ['\n', '\x0c']
  digits := number
  before := .only [' ']
  margin := .only ['\t']
  keyword := classKeyword .door
  inner := .only [' ']
  parameters := .empty (.only [' '])
  after := .only ['\r']

/-- The wall between the door that it refers to and a door with a large number. -/
def wallBetweenDoors : List InstancePhrase :=
  [spacedDoor (zeroLed (Step.digits 2)), referringWall, spacedDoor largeNumber]

/-- The wall mentions the first door twice, and its reference to the large number goes nowhere. -/
theorem resolve?_mentioned_iff_wallBetweenDoors :
    ¬ Statement.sectionStart <:+: "A;".toList ++ Statement.sectionStart.dropLast ∧
      '#' ∉ "\nENDSEC;".toList ∧ (wallBetweenDoors.Pairwise fun v w => v.value ≠ w.value) ∧
      (∀ w ∈ wallBetweenDoors, UInt32.size ≤ w.value → ¬ w.clause.Hides) ∧
      ∃ x wall, x = EntityIndex.ofContent
          (InstancePhrase.content "A;".toList wallBetweenDoors "\nENDSEC;".toList) ∧
        x.get? 1 = some wall ∧ Parameter.mentionsAll wall.attributes = [2, 2, 0] ∧
        x.resolve? (.reference 2) = (spacedDoor (zeroLed (Step.digits 2))).entity? ∧
        x.resolve? (.reference 0) = none := by
  have hfront : ¬ Statement.sectionStart <:+: "A;".toList ++ Statement.sectionStart.dropLast := by
    decide +kernel
  have hclosing : '#' ∉ "\nENDSEC;".toList := by decide
  have hnames : wallBetweenDoors.Pairwise fun v w => v.value ≠ w.value := by decide +kernel
  have hhides : ∀ w ∈ wallBetweenDoors, UInt32.size ≤ w.value → ¬ w.clause.Hides := by
    decide +kernel
  obtain ⟨hget, hmentions⟩ := resolve?_mentioned_iff hfront hclosing hnames hhides
  obtain ⟨wall, hwall⟩ : ∃ e, referringWall.entity? = some e :=
    Option.isSome_iff_exists.1 (by decide +kernel)
  obtain ⟨door, hdoor⟩ : ∃ e, (spacedDoor (zeroLed (Step.digits 2))).entity? = some e :=
    Option.isSome_iff_exists.1 (by decide +kernel)
  have hmem : referringWall ∈ wallBetweenDoors := by simp [wallBetweenDoors]
  refine ⟨hfront, hclosing, hnames, hhides, _, wall, rfl, ?_, ?_, ?_, ?_⟩
  · exact (hget 1 wall).2 ⟨referringWall, hmem, by decide +kernel, hwall⟩
  · exact (hmentions referringWall hmem wall hwall).1.trans (by decide +kernel)
  · rw [hdoor, resolve?_reference]
    exact (hget 2 door).2 ⟨_, List.mem_cons_self, by decide +kernel, hdoor⟩
  · rw [resolve?_reference]
    refine Option.eq_none_iff_forall_ne_some.2 fun e he => ?_
    obtain ⟨w, hw, hvalue, -⟩ := (hget 0 e).1 he
    have hpositive : ∀ w ∈ wallBetweenDoors, w.value ≠ 0 := by decide +kernel
    exact hpositive w hw hvalue

/-- The wall behind a door with the number 0. -/
def wallBehindDoor : List InstancePhrase :=
  [spacedDoor (Step.digits 0), referringWall]

/-- The wall refers to a large number, which no statement has, and finds the door. -/
theorem resolve?_largeNumber :
    ¬ Statement.sectionStart <:+: "A;".toList ++ Statement.sectionStart.dropLast ∧
      '#' ∉ "\nENDSEC;".toList ∧ (wallBehindDoor.Pairwise fun v w => v.value ≠ w.value) ∧
      largeNumber ∈ referringWall.parameters.mentions ∧
      (∀ v ∈ wallBehindDoor, v.value ≠ digitsValue largeNumber.chars) ∧
      ∃ x wall door, x = EntityIndex.ofContent
          (InstancePhrase.content "A;".toList wallBehindDoor "\nENDSEC;".toList) ∧
        x.get? 1 = some wall ∧ referringWall.entity? = some wall ∧
        x.resolve? (.reference (mentioned largeNumber)) = some door := by
  have hfront : ¬ Statement.sectionStart <:+: "A;".toList ++ Statement.sectionStart.dropLast := by
    decide +kernel
  have hclosing : '#' ∉ "\nENDSEC;".toList := by decide
  have hnames : wallBehindDoor.Pairwise fun v w => v.value ≠ w.value := by decide +kernel
  have hhides : ∀ w ∈ wallBehindDoor, UInt32.size ≤ w.value → ¬ w.clause.Hides := by
    decide +kernel
  obtain ⟨wall, hwall⟩ : ∃ e, referringWall.entity? = some e :=
    Option.isSome_iff_exists.1 (by decide +kernel)
  obtain ⟨door, hdoor⟩ : ∃ e, (spacedDoor (Step.digits 0)).entity? = some e :=
    Option.isSome_iff_exists.1 (by decide +kernel)
  have hmem : referringWall ∈ wallBehindDoor := by simp [wallBehindDoor]
  refine ⟨hfront, hclosing, hnames, by simp [referringWall, Phrase.mentions, Enclosure.mentions,
    Further.mentions], by decide +kernel, _, wall, door, rfl, ?_, hwall, ?_⟩
  · exact (get?_phrases_eq_some_iff hfront hclosing hnames hhides).2
      ⟨referringWall, hmem, by decide +kernel, hwall⟩
  · rw [resolve?_reference]
    exact (get?_phrases_eq_some_iff hfront hclosing hnames hhides).2
      ⟨_, List.mem_cons_self, by decide +kernel, hdoor⟩

end EntityIndex

end BuildingModel
