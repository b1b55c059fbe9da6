import BuildingModel.Proofs.Step.Grammar
import Mathlib.Data.List.DropRight

/-!
# Reading records by the grammar

The readers agree with the grammar: a record is read off the front of a text if and only if the text
has a derivation, and the record is what the derivation stands for
(`Record.parse_eq_ok_iff_and_text_injective`).

* What is read of a text has a derivation, whose text was taken off the front (`exists_phrase`).
  The induction is on the steps of the readers.
* A derived text is read whole, up to what follows it (`parameterWithin_text`). The induction is on
  the derivation; the steps that this needs are bounded by the length of the text.
-/

namespace BuildingModel.Step

open Text

/-! ## Blanks -/

/-- A text starts with blanks. -/
theorem exists_blanks (s : List Char) : ∃ gap : Blanks, gap.chars ++ dropBlanks s = s :=
  ⟨.front _ s, Run.front_append _ s⟩

theorem dropBlanks_dropBlanks (s : List Char) : dropBlanks (dropBlanks s) = dropBlanks s :=
  List.dropWhile_idempotent _ s

theorem dropBlanks_append (gap : Blanks) {r : List Char}
    (hr : ∀ c ∈ r.head?, isRecordBlank c = false) : dropBlanks (gap.chars ++ r) = r :=
  dropWhile_run gap.all hr

theorem dropBlanks_eq_self {r : List Char} (hr : ∀ c ∈ r.head?, isRecordBlank c = false) :
    dropBlanks r = r :=
  dropWhile_eq_self hr

/-- Blanks end where a list does. -/
theorem head_close (r : List Char) : ∀ c ∈ (')' :: r).head?, isRecordBlank c = false :=
  forall_mem_head?_cons (by decide) r

/-! ## Simple parameters -/

theorem reference?_append (digits : Digits) {r : List Char}
    (hr : ∀ c ∈ r.head?, c.isDigit = false) :
    reference? (digits.chars ++ r) = some ((Phrase.reference digits).value, r) := by
  simp [reference?, takeWhile_run digits.all hr, dropWhile_run digits.all hr, digits.ne_nil,
    Phrase.value]

theorem exists_reference {s r : List Char} {p : Parameter} (h : reference? s = some (p, r)) :
    ∃ digits : Digits, digits.chars ++ r = s ∧ (Phrase.reference digits).value = p := by
  rw [reference?] at h
  split at h
  · cases h
  next hdigits =>
    cases h
    exact ⟨.front hdigits, NonemptyRun.front_append hdigits, rfl⟩

theorem enumeration?_append (item : NonemptyRun isWordChar) (r : List Char) :
    enumeration? (item.chars ++ '.' :: r) = some ((Phrase.enumeration item).value, r) := by
  have hpoint : ∀ c ∈ ('.' :: r).head?, isWordChar c = false :=
    forall_mem_head?_cons (by decide) r
  simp [enumeration?, takeWhile_run item.all hpoint, dropWhile_run item.all hpoint, item.ne_nil,
    Phrase.value]

theorem exists_enumeration {s r : List Char} {p : Parameter} (h : enumeration? s = some (p, r)) :
    ∃ item : NonemptyRun isWordChar, item.chars ++ '.' :: r = s ∧
      (Phrase.enumeration item).value = p := by
  rw [enumeration?] at h
  split at h
  · cases h
  next hword =>
    split at h
    next hrest =>
      cases h
      refine ⟨.front hword, ?_, rfl⟩
      rw [← hrest, NonemptyRun.front_append]
    · cases h

/-! ## Parameters by their first characters -/

/-- A parameter without a mark is a number or a value under the name of its type. -/
theorem parameterWithin_of_not_mark {c : Char} (hc : c ∉ parameterMarks) (fuel : Nat)
    (r : List Char) :
    parameterWithin (fuel + 1) (c :: r) =
      match number? (c :: r) with
      | some found => some found
      | none =>
        let word := (c :: r).takeWhile isWordChar
        if word.isEmpty then none
        else
          match enclosedWithin fuel (dropBlanks ((c :: r).dropWhile isWordChar)) with
          | .ok (arguments, r) => some (.typed (String.ofList word) arguments, r)
          | .error _ => none := by
  have hmark : ∀ d ∈ parameterMarks, ∀ r', c :: r = d :: r' → False := by
    rintro d hd r' ⟨⟩
    exact hc hd
  rw [parameterWithin]
  all_goals first | rfl | exact hmark _ (by decide)

/-- A parameter that can be read as a number is one. -/
theorem parameterWithin_of_number? {s r : List Char} {p : Parameter} (h : number? s = some (p, r))
    (fuel : Nat) : parameterWithin (fuel + 1) s = some (p, r) := by
  have hmarks : ∀ c ∈ parameterMarks, PhraseKind.ofChar? c ≠ some .number :=
    forall_mem_of_all (by decide)
  -- The text starts with a number, so with no mark, and the readers of marked parameters pass.
  obtain ⟨n, rfl, -⟩ := exists_numeral h
  obtain ⟨c, t, ht, hc⟩ := n.exists_text_eq_cons
  rw [ht, List.cons_append] at h ⊢
  rw [parameterWithin_of_not_mark fun hmark => hmarks c hmark hc, h]

/-- A list under a name is read where the list is. -/
theorem parameterWithin_of_enclosedWithin {fuel : Nat} {s r : List Char} {ps : List Parameter}
    (name : Name) (gap : Blanks) (hs : ∀ c ∈ s.head?, c = '(')
    (h : enclosedWithin fuel s = .ok (ps, r)) :
    parameterWithin (fuel + 1) (name.chars ++ (gap.chars ++ s)) =
      some (.typed (String.ofList name.chars) ps, r) := by
  have hword : ∀ c ∈ (gap.chars ++ s).head?, isWordChar c = false := by
    refine gap.head_append (fun _ => isWordChar_of_isRecordBlank) fun c hc => ?_
    rw [hs c hc]
    decide
  have hblank : ∀ c ∈ s.head?, isRecordBlank c = false := by
    intro c hc
    rw [hs c hc]
    decide
  have htake := takeWhile_run name.all hword
  have hdrop := dropWhile_run name.all hword
  obtain ⟨c, t, ht, hc⟩ := name.exists_eq_cons
  have hdigit : c.isDigit = false := name.head_not_digit c (by simp [ht])
  have hmarks := not_mem_marks_of_isWordChar hc
  simp only [List.mem_cons, not_or] at hmarks
  rw [ht, List.cons_append] at htake hdrop ⊢
  rw [parameterWithin_of_not_mark hmarks.2.2,
    number?_eq_none (forall_mem_head?_cons ⟨hdigit, hmarks.1, hmarks.2.1⟩ _)]
  simp only [htake, hdrop, dropBlanks_append gap hblank, h]
  rfl

/-- Where no phrase starts, no parameter is read. -/
theorem parameterWithin_eq_none {c : Char} (h : c ∈ endMarks) (fuel : Nat) (r : List Char) :
    parameterWithin fuel (c :: r) = none := by
  cases fuel with
  | zero => rfl
  | succ fuel =>
    have hmarks : ∀ c ∈ endMarks, c ∉ parameterMarks ∧ isWordChar c = false ∧
        c.isDigit = false ∧ c ≠ '+' ∧ c ≠ '-' :=
      forall_mem_of_all (by decide)
    obtain ⟨hmark, hword, hnumber⟩ := hmarks c h
    rw [parameterWithin_of_not_mark hmark, number?_eq_none (forall_mem_head?_cons hnumber r)]
    simp [hword]

/-! ## What is read -/

/-- The name in front of a list, where there is no number. -/
theorem exists_name {s : List Char} (hnumber : number? s = none)
    (hword : ¬ (s.takeWhile isWordChar).isEmpty = true) :
    ∃ name : Name, name.chars = s.takeWhile isWordChar ∧
      name.chars ++ s.dropWhile isWordChar = s := by
  refine ⟨⟨.front hword, ?_⟩, rfl, NonemptyRun.front_append hword⟩
  -- A digit in front would have been read as a number.
  intro c hc
  cases s with
  | nil => cases hc
  | cons d s =>
    refine Bool.eq_false_iff.2 fun hdigit => number?_ne_none (c := d) ?_ s hnumber
    have hd : isWordChar d = true := by
      by_contra hd
      exact hword (by simp [hd])
    have hcd : d = c := by simpa [NonemptyRun.front, Run.front, hd] using hc
    rwa [hcd]

/-- A list behind a name is a phrase with the name. -/
theorem exists_typed {s r : List Char} {d : Enclosure} (hnumber : number? s = none)
    (hword : ¬ (s.takeWhile isWordChar).isEmpty = true)
    (hd : d.text ++ r = dropBlanks (s.dropWhile isWordChar)) :
    ∃ d' : Phrase, d'.text ++ r = s ∧
      d'.value = .typed (String.ofList (s.takeWhile isWordChar)) d.values := by
  obtain ⟨name, hname, htext⟩ := exists_name hnumber hword
  obtain ⟨gap, hgap⟩ := exists_blanks (s.dropWhile isWordChar)
  refine ⟨.typed name gap d, ?_, by rw [Phrase.value, hname]⟩
  rw [Phrase.text_typed_append, hd, hgap, htext]

mutual

/-- What is read as a parameter is a phrase. -/
theorem exists_phrase : ∀ (fuel : Nat) {s r : List Char} {p : Parameter},
    parameterWithin fuel s = some (p, r) → ∃ d : Phrase, d.text ++ r = s ∧ d.value = p
  | 0, _, _, _, h => by cases h
  | _ + 1, [], _, _, h => by cases h
  | fuel + 1, c :: s, r, p, h => by
    by_cases hc : c ∈ parameterMarks
    · simp only [parameterMarks, List.mem_cons, List.not_mem_nil, or_false] at hc
      -- The marks are those of references, strings, the two signs, enumerations and lists.
      rcases hc with rfl | rfl | rfl | rfl | rfl | rfl
      · obtain ⟨digits, rfl, rfl⟩ := exists_reference h
        exact ⟨.reference digits, rfl, rfl⟩
      · rw [parameterWithin, Option.map_eq_some_iff] at h
        obtain ⟨⟨body, r⟩, hliteral, hp⟩ := h
        obtain ⟨t, ht, rfl, rfl⟩ := exists_paired_of_literal? hliteral
        cases hp
        exact ⟨.string ⟨t, ht⟩, Phrase.text_string_append r _, rfl⟩
      · cases h
        exact ⟨.null, rfl, rfl⟩
      · cases h
        exact ⟨.derived, rfl, rfl⟩
      · obtain ⟨item, rfl, rfl⟩ := exists_enumeration h
        exact ⟨.enumeration item, Phrase.text_enumeration_append r item, rfl⟩
      · rw [parameterWithin] at h
        split at h
        next items r' hitems =>
          cases h
          obtain ⟨d, hd, rfl⟩ := exists_enclosure fuel hitems
          exact ⟨.list d, hd, rfl⟩
        · cases h
    · rw [parameterWithin_of_not_mark hc] at h
      split at h
      next found hnumber =>
        cases h
        obtain ⟨n, hn, rfl⟩ := exists_numeral hnumber
        exact ⟨.number n, hn, rfl⟩
      next hnumber =>
        simp only at h
        split at h
        · cases h
        next hword =>
          split at h
          next arguments r' hlist =>
            cases h
            obtain ⟨d, hd, rfl⟩ := exists_enclosure fuel hlist
            exact exists_typed hnumber hword hd
          · cases h

/-- What is read as a list is one. -/
theorem exists_enclosure : ∀ (fuel : Nat) {s r : List Char} {ps : List Parameter},
    enclosedWithin fuel s = .ok (ps, r) → ∃ d : Enclosure, d.text ++ r = s ∧ d.values = ps
  | 0, _, _, _, h => by cases h
  | fuel + 1, s, r, ps, h => by
    rw [enclosedWithin.eq_def] at h
    simp only at h
    split at h
    next t =>
      split at h
      next u hclose =>
        cases h
        obtain ⟨before, hbefore⟩ := exists_blanks t
        cases hfirst : parameterWithin fuel (dropBlanks t) with
        | none =>
          -- Nothing is read, so the blanks go up to the parenthesis.
          rw [hfirst, dropBlanks_dropBlanks] at hclose
          refine ⟨.empty before, ?_, rfl⟩
          rw [Enclosure.text_empty_append, ← hclose, hbefore]
        | some found =>
          obtain ⟨p, u⟩ := found
          rw [hfirst] at hclose
          obtain ⟨first, htext, rfl⟩ := exists_phrase fuel hfirst
          obtain ⟨further, hfurther, hvalues⟩ := exists_further fuel u
          obtain ⟨after, hafter⟩ := exists_blanks (furtherWithin fuel u).2
          refine ⟨.items before first further after, ?_, by rw [Enclosure.values, hvalues]⟩
          rw [Enclosure.text_items_append, ← hclose, hafter, hfurther, htext, hbefore]
      · cases h
    · cases h

/-- What is read after a parameter are further ones. -/
theorem exists_further : ∀ (fuel : Nat) (s : List Char),
    ∃ d : Further, d.text ++ (furtherWithin fuel s).2 = s ∧ d.values = (furtherWithin fuel s).1
  | 0, _ => ⟨.nil, rfl, rfl⟩
  | fuel + 1, s => by
    rw [furtherWithin]
    split
    next t hcomma =>
      split
      -- The comma is given back where no phrase follows it.
      · exact ⟨.nil, rfl, rfl⟩
      next p r hp =>
        obtain ⟨before, hbefore⟩ := exists_blanks s
        obtain ⟨after, hafter⟩ := exists_blanks t
        obtain ⟨phrase, hphrase, rfl⟩ := exists_phrase fuel hp
        obtain ⟨further, hfurther, hvalues⟩ := exists_further fuel r
        refine ⟨.cons before after phrase further, ?_, by rw [Further.values, hvalues]⟩
        rw [Further.text_cons_append, hfurther, hphrase, hafter, ← hcomma, hbefore]
    · exact ⟨.nil, rfl, rfl⟩

end

/-! ## What is derived -/

theorem Phrase.length_text_pos (d : Phrase) : 0 < d.text.length := by
  obtain ⟨c, s, hs, -⟩ := d.exists_text_eq_cons
  rw [hs]
  exact Nat.succ_pos _

theorem Enclosure.length_text_pos (d : Enclosure) : 0 < d.text.length := by
  obtain ⟨s, hs⟩ := d.exists_text_eq_cons
  rw [hs]
  exact Nat.succ_pos _

mutual

/-- A phrase is read, up to what it may be followed by. -/
theorem parameterWithin_text : ∀ (d : Phrase) (fuel : Nat) {r : List Char}, Ends r →
    3 * d.text.length ≤ fuel → parameterWithin fuel (d.text ++ r) = some (d.value, r)
  | d, 0, _, _, hf => absurd d.length_text_pos (by omega)
  | .reference digits, _ + 1, _, hr, _ => reference?_append digits (hr.head (by decide))
  | .null, _ + 1, _, _, _ => rfl
  | .derived, _ + 1, _, _, _ => rfl
  | .enumeration item, _ + 1, r, _, _ => by
    rw [Phrase.text_enumeration_append]
    exact enumeration?_append item r
  | .string body, _ + 1, r, hr, _ => by
    rw [Phrase.text_string_append, parameterWithin,
      literal?_paired body.paired (hr.head (by decide))]
    rfl
  | .number n, fuel + 1, _, hr, _ => parameterWithin_of_number? (number?_text_append n hr) fuel
  | .list items, fuel + 1, r, _, hf => by
    rw [Phrase.text] at hf ⊢
    have hitems := enclosedWithin_text items fuel r (by omega)
    obtain ⟨s, hs⟩ := items.exists_text_eq_cons
    rw [hs, List.cons_append] at hitems ⊢
    rw [parameterWithin, hitems, Phrase.value]
  | .typed type gap arguments, fuel + 1, r, _, hf => by
    rw [Phrase.text, List.length_append, List.length_append] at hf
    rw [Phrase.text_typed_append, Phrase.value]
    exact parameterWithin_of_enclosedWithin type gap (arguments.head_text (by rfl) r)
      (enclosedWithin_text arguments fuel r (by omega))

/-- A list is read. -/
theorem enclosedWithin_text : ∀ (d : Enclosure) (fuel : Nat) (r : List Char),
    3 * d.text.length ≤ fuel + 1 → enclosedWithin fuel (d.text ++ r) = .ok (d.values, r)
  | d, 0, _, hf => absurd d.length_text_pos (by omega)
  | .empty gap, fuel + 1, r, _ => by
    rw [Enclosure.text_empty_append, enclosedWithin]
    simp only [dropBlanks_append gap (head_close r), parameterWithin_eq_none (c := ')') (by decide),
      dropBlanks_eq_self (head_close r)]
    rfl
  | .items before first further after, fuel + 1, r, hf => by
    simp only [Enclosure.text, List.length_cons, List.length_append] at hf
    rw [Enclosure.text_items_append, enclosedWithin,
      dropBlanks_append before (first.head_not_blank _),
      parameterWithin_text first fuel (further.ends after r) (by omega)]
    simp only [furtherWithin_text further fuel after r (by omega),
      dropBlanks_append after (head_close r)]
    rfl

/-- Further phrases are read up to the end of the list. -/
theorem furtherWithin_text : ∀ (d : Further) (fuel : Nat) (after : Blanks) (r : List Char),
    3 * d.text.length ≤ fuel → furtherWithin fuel (d.text ++ (after.chars ++ ')' :: r)) =
      (d.values, after.chars ++ ')' :: r)
  | .nil, 0, _, _, _ => rfl
  | .nil, fuel + 1, after, r, _ => by
    rw [Further.text, List.nil_append, furtherWithin, dropBlanks_append after (head_close r)]
    rfl
  | .cons before gap phrase further, 0, _, _, hf => by
    simp only [Further.text, List.length_cons, List.length_append] at hf
    omega
  | .cons before gap phrase further, fuel + 1, after, r, hf => by
    -- The comma leaves enough steps for the phrase and for what follows it.
    simp only [Further.text, List.length_cons, List.length_append] at hf
    have hcomma (s : List Char) : ∀ c ∈ (',' :: s).head?, isRecordBlank c = false :=
      forall_mem_head?_cons (by decide) s
    rw [Further.text_cons_append, furtherWithin, dropBlanks_append before (hcomma _)]
    simp only [dropBlanks_append gap (phrase.head_not_blank _),
      parameterWithin_text phrase fuel (further.ends after r) (by omega),
      furtherWithin_text further fuel after r (by omega)]
    rfl

end

/-! ## Records -/

/-- A list is read off the front of a text if and only if it is derived there. -/
theorem enclosed_eq_ok_iff {s r : List Char} {ps : List Parameter} :
    enclosed s = .ok (ps, r) ↔ ∃ d : Enclosure, d.text ++ r = s ∧ d.values = ps := by
  constructor
  · exact exists_enclosure _
  · rintro ⟨d, rfl, rfl⟩
    exact enclosedWithin_text d _ r (by rw [List.length_append]; omega)

theorem RecordPhrase.parse_text (d : RecordPhrase) : Record.parse d.text = .ok d.record := by
  have hkeyword : ∀ c ∈ (d.keyword.chars ++ (d.gap.chars ++ (d.parameters.text ++ d.rest))).head?,
      isBlank c = false :=
    d.keyword.head_append (fun _ => isBlank_of_isWordChar) _
  have hword := d.parameters.head_not_word d.gap d.rest
  have hlist : enclosed (d.parameters.text ++ d.rest) = .ok (d.parameters.values, d.rest) :=
    enclosed_eq_ok_iff.2 ⟨d.parameters, rfl, rfl⟩
  rw [Record.parse, text, trimLeft, dropWhile_run d.margin.all hkeyword]
  simp only [takeWhile_run d.keyword.all hword, dropWhile_run d.keyword.all hword,
    dropBlanks_append d.gap (d.parameters.head_text (by decide) d.rest), hlist]
  exact if_neg (by simpa using d.keyword.ne_nil)

theorem exists_recordPhrase {s : List Char} {r : Record} (h : Record.parse s = .ok r) :
    ∃ d : RecordPhrase, d.text = s ∧ d.record = r := by
  rw [Record.parse] at h
  split at h
  · cases h
  next hword =>
    split at h
    next parameters rest hlist =>
      cases h
      obtain ⟨d, hd, rfl⟩ := enclosed_eq_ok_iff.1 hlist
      obtain ⟨gap, hgap⟩ := exists_blanks ((trimLeft s).dropWhile isWordChar)
      refine ⟨⟨.front isBlank s, .front hword, gap, d, rest⟩, ?_, rfl⟩
      rw [RecordPhrase.text, hd, hgap, NonemptyRun.front_append]
      exact Run.front_append isBlank s
    · cases h

/-- A text is read as a record if and only if the record is derived in it, and there is one
derivation at most. -/
theorem Record.parse_eq_ok_iff_and_text_injective :
    (∀ (s : List Char) (r : Record), Record.parse s = .ok r ↔
      ∃ d : RecordPhrase, d.text = s ∧ d.record = r) ∧ Function.Injective RecordPhrase.text := by
  refine ⟨fun s r => ⟨exists_recordPhrase, ?_⟩, RecordPhrase.text_injective⟩
  rintro ⟨d, rfl, rfl⟩
  exact d.parse_text

/-- A number that is cut off behind the mark of its exponent ends before the mark, and no list goes
on there. -/
example : Record.parse "A(1E)".toList = .error (.missingParenthesis ['E', ')']) := by
  rfl

end BuildingModel.Step
