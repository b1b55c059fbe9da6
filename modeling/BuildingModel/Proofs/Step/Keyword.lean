import BuildingModel.Proofs.Step.Statement

/-!
# Tags and keywords

The search for statements takes letters, digits and underscores of ASCII for a tag. The reader of
instances allows letters and digits of all scripts in a keyword, and fewer blanks before it. Where
it can read the text of a statement, the keyword begins with the tag, and goes on at most by a word
of which the first character may not stand in a tag (`Statement.keyword_of_mem`).
-/

namespace BuildingModel.Step

open Text

/-! ## Gaps -/

/-- Where the blanks of a record lead up to an equals sign, they were the whole gap before it. -/
theorem eq_of_dropBlanks_gap {gap r r' : List Char} (hgap : ∀ c ∈ gap, isDataBlank c = true)
    (h : dropBlanks (gap ++ '=' :: r) = '=' :: r') : r = r' := by
  induction gap with
  | nil =>
    rw [List.nil_append, dropBlanks, List.dropWhile_cons_of_neg (by decide)] at h
    exact (List.cons.inj h).2
  | cons c gap ih =>
    by_cases hc : isRecordBlank c = true
    · rw [List.cons_append, dropBlanks, List.dropWhile_cons_of_pos hc] at h
      exact ih (fun d hd => hgap d (List.mem_cons_of_mem _ hd)) h
    · -- A form feed is no blank of a record, and no equals sign either.
      rw [List.cons_append, dropBlanks, List.dropWhile_cons_of_neg hc] at h
      obtain ⟨rfl, -⟩ := List.cons.inj h
      exact absurd (hgap _ List.mem_cons_self) (by decide)

/-- White space goes as a whole, whether or not the blanks of a record go first. -/
theorem trimLeft_dropBlanks (s : List Char) : trimLeft (dropBlanks s) = trimLeft s := by
  induction s with
  | nil => rfl
  | cons c s ih =>
    by_cases hc : isRecordBlank c = true
    · rw [dropBlanks, List.dropWhile_cons_of_pos hc, trimLeft, trimLeft,
        List.dropWhile_cons_of_pos (isBlank_of_isRecordBlank hc)]
      exact ih
    · rw [dropBlanks, List.dropWhile_cons_of_neg hc]

/-! ## Keywords -/

/-- The keyword of a record is the word behind its white space. -/
theorem keyword_of_parse {s : List Char} {record : Record} (h : Record.parse s = .ok record) :
    record.keyword = String.ofList ((trimLeft s).takeWhile isWordChar) := by
  rw [Record.parse] at h
  split at h
  · cases h
  · split at h
    · cases h
      rfl
    · cases h

/-- The record of an instance is read behind its equals sign. -/
theorem parse_record_of_afterName {id : EntityId} {before r : List Char} {i : Instance}
    (hbefore : ∀ c ∈ before, isDataBlank c = true)
    (h : afterName id (dropBlanks (before ++ '=' :: r)) = .ok i) :
    Record.parse (dropBlanks r) = .ok i.record := by
  unfold afterName at h
  split at h
  next r' hr =>
    obtain rfl := eq_of_dropBlanks_gap hbefore hr
    cases hrecord : Record.parse (dropBlanks r) with
    | ok record => rw [hrecord] at h; cases h; rfl
    | error e => rw [hrecord] at h; cases h
  next => cases h

/-- The keyword of an instance is its tag, with the word characters that follow it. -/
theorem Opening.keyword_of_parse (o : Opening) {r : List Char} {i : Instance}
    (hi : Instance.parse ('#' :: (o.text ++ r)) = .ok i) :
    i.record.keyword = String.ofList (o.tag.chars ++ r.takeWhile isWordChar) := by
  rw [o.text_append, parse_digits o.digits.ne_nil o.digits.all (o.head_before _)
    o.entityId?_digits] at hi
  have hkeyword := Step.keyword_of_parse (parse_record_of_afterName o.before.all hi)
  have hhead : ∀ c ∈ (o.tag.chars ++ r).head?, isBlank c = false :=
    o.tag.head_append (fun _ => isBlank_of_isTagChar) r
  rwa [trimLeft_dropBlanks, trimLeft,
    dropWhile_run (fun c hc => isBlank_of_isDataBlank (o.after.all c hc)) hhead,
    List.takeWhile_append_of_pos fun c hc => isWordChar_of_isTagChar (o.tag.all c hc)] at hkeyword

/-- The keyword of the instance in a statement is its tag, with the word that goes on behind it. -/
theorem keyword_of_sighting {s tag text : List Char} {id : EntityId} {i : Instance}
    (h : sighting s = .statement id tag text) (hi : Instance.parse text = .ok i) :
    ∃ further, i.record.keyword = String.ofList (tag ++ further) ∧
      ∀ c ∈ further.head?, isTagChar c = false := by
  obtain ⟨o, body, r, -, ⟨rfl, rfl, rfl⟩, hbody, -⟩ := exists_opening_of_sighting h
  -- If the word goes on, it does so with the character behind the tag.
  refine ⟨_, o.keyword_of_parse hi, fun c hc => ?_⟩
  rw [List.head?_takeWhile] at hc
  have hc := (Option.filter_eq_some_iff.1 hc).1
  cases body with
  | nil =>
    cases hc
    decide
  | cons d body => exact hbody c hc

/-- The keyword of the instance in a statement of a content begins with the tag of the statement. -/
theorem Statement.keyword_of_mem {content : String} {s : Statement} (hs : s ∈ ofContent content)
    {i : Instance} (hi : Instance.parse s.text = .ok i) :
    ∃ further, i.record.keyword = s.tag ++ String.ofList further ∧
      ∀ c ∈ further.head?, isTagChar c = false := by
  obtain ⟨r, tag, hr, htag⟩ := sighting_of_mem hs
  obtain ⟨further, hkeyword, hfurther⟩ := keyword_of_sighting hr hi
  exact ⟨further, by rw [hkeyword, htag, String.ofList_append], hfurther⟩

/-- A keyword without other characters is the tag. -/
theorem Statement.keyword_eq_tag {content : String} {s : Statement} (hs : s ∈ ofContent content)
    {i : Instance} (hi : Instance.parse s.text = .ok i)
    (hkeyword : ∀ c ∈ i.record.keyword.toList, isTagChar c = true) : i.record.keyword = s.tag := by
  obtain ⟨further, h, hfurther⟩ := keyword_of_mem hs hi
  rw [h] at hkeyword ⊢
  cases further with
  | nil => rw [String.ofList_nil, String.append_empty]
  | cons c further =>
    have hc := hkeyword c (by simp)
    rw [hfurther c rfl] at hc
    cases hc

end BuildingModel.Step
