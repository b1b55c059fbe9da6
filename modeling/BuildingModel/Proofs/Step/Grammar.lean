import BuildingModel.Proofs.Step.Literal
import BuildingModel.Proofs.Step.Numeral

/-!
# The grammar of records

A record is derived by this grammar, where `[ ]` may be left out and `{ }` stands any number of
times:

    record = word blanks list
    list   = "(" blanks ")" | "(" blanks phrase { blanks "," blanks phrase } blanks ")"
    phrase = "#" digits | "$" | "*" | "." word "." | "'" body "'" | number | list
           | name blanks list

A word is a run of letters, digits and underscores, and a name is one that does not start with an
ASCII digit. In the body of a string, apostrophes stand only in pairs. Blanks may be empty, and
where nothing stands between two runs of them, as in a list without phrases, they are one run.

A derivation is a tree: a `Phrase`, an `Enclosure` (a list), or what follows the first phrase of a
list (`Further`). It has a text, and it stands for a parameter, or for several.

A text has one derivation at most (`RecordPhrase.text_injective`). The induction is on trees that
are followed by any text in which a phrase may end (`Ends`). The first character of a phrase tells
what it is (`PhraseKind`), so that only phrases of one kind have to be compared.
-/

namespace BuildingModel.Step

open Text

/-! ## Trees -/

/-- The body of a string. -/
@[ext]
structure Body where
  /-- The characters as written. -/
  chars : List Char
  /-- Their apostrophes are paired. -/
  paired : Paired chars

/-- The word before the list of a phrase. -/
@[ext]
structure Name extends NonemptyRun isWordChar where
  /-- It does not start with an ASCII digit. -/
  head_not_digit : ∀ c ∈ chars.head?, c.isDigit = false

mutual

/-- A derivation of a parameter. -/
inductive Phrase where
  /-- A reference to an instance. -/
  | reference (digits : Digits)
  /-- The sign of a value that is left out. -/
  | null
  /-- The sign of a value that follows from others. -/
  | derived
  /-- An item of an enumeration between points. -/
  | enumeration (item : NonemptyRun isWordChar)
  /-- A string between apostrophes. -/
  | string (body : Body)
  /-- A number. -/
  | number (n : Numeral)
  /-- A list. -/
  | list (items : Enclosure)
  /-- A list under the name of its type. -/
  | typed (type : Name) (gap : Blanks) (arguments : Enclosure)

/-- A derivation of a list in parentheses. -/
inductive Enclosure where
  /-- Nothing but blanks between the parentheses. -/
  | empty (gap : Blanks)
  /-- At least one phrase. -/
  | items (before : Blanks) (first : Phrase) (further : Further) (after : Blanks)

/-- A derivation of the phrases of a list that follow the first one. -/
inductive Further where
  /-- None. -/
  | nil
  /-- One more after a comma, which has blanks on both sides. -/
  | cons (before after : Blanks) (phrase : Phrase) (further : Further)

end

mutual

/-- The text of a phrase. -/
def Phrase.text : Phrase → List Char
  | .reference digits => '#' :: digits.chars
  | .null => ['$']
  | .derived => ['*']
  | .enumeration item => '.' :: (item.chars ++ ['.'])
  | .string body => '\'' :: (body.chars ++ ['\''])
  | .number n => n.text
  | .list items => Enclosure.text items
  | .typed type gap arguments => type.chars ++ (gap.chars ++ Enclosure.text arguments)

/-- The text of a list. -/
def Enclosure.text : Enclosure → List Char
  | .empty gap => '(' :: (gap.chars ++ [')'])
  | .items before first further after =>
    '(' :: (before.chars ++ (Phrase.text first ++ (Further.text further ++ (after.chars ++ [')']))))

/-- The text of further phrases. -/
def Further.text : Further → List Char
  | .nil => []
  | .cons before after phrase further =>
    before.chars ++ ',' :: (after.chars ++ (Phrase.text phrase ++ Further.text further))

end

mutual

/-- The parameter that a phrase stands for. A number that does not fit 32 bits refers to
instance 0. -/
def Phrase.value : Phrase → Parameter
  | .reference digits => .reference ((entityId? digits.chars).getD 0)
  | .null => .null
  | .derived => .derived
  | .enumeration item => .enumeration (String.ofList item.chars)
  | .string body => .text (String.ofList body.chars)
  | .number n => n.value
  | .list items => .list (Enclosure.values items)
  | .typed type _ arguments => .typed (String.ofList type.chars) (Enclosure.values arguments)

/-- The parameters that a list stands for. -/
def Enclosure.values : Enclosure → List Parameter
  | .empty _ => []
  | .items _ first further _ => Phrase.value first :: Further.values further

/-- The parameters that further phrases stand for. -/
def Further.values : Further → List Parameter
  | .nil => []
  | .cons _ _ phrase further => Phrase.value phrase :: Further.values further

end

/-- A derivation of a record, between white space and any text. -/
structure RecordPhrase where
  /-- The white space in front. -/
  margin : Run isBlank
  /-- The keyword. -/
  keyword : NonemptyRun isWordChar
  /-- The blanks between keyword and parameters. -/
  gap : Blanks
  /-- The parameters. -/
  parameters : Enclosure
  /-- What follows the record. -/
  rest : List Char

namespace RecordPhrase

/-- The text of a record, with what is around it. -/
def text (d : RecordPhrase) : List Char :=
  d.margin.chars ++ (d.keyword.chars ++ (d.gap.chars ++ (d.parameters.text ++ d.rest)))

/-- The record that a derivation stands for. -/
def record (d : RecordPhrase) : Record :=
  ⟨String.ofList d.keyword.chars, d.parameters.values⟩

end RecordPhrase

/-! ## Texts in front of other texts -/

section

variable (r : List Char)

theorem Phrase.text_enumeration_append (item : NonemptyRun isWordChar) :
    (enumeration item).text ++ r = '.' :: (item.chars ++ '.' :: r) := by
  simp [text]

theorem Phrase.text_string_append (body : Body) :
    (string body).text ++ r = '\'' :: (body.chars ++ '\'' :: r) := by
  simp [text]

theorem Phrase.text_typed_append (type : Name) (gap : Blanks) (arguments : Enclosure) :
    (typed type gap arguments).text ++ r = type.chars ++ (gap.chars ++ (arguments.text ++ r)) := by
  simp [text]

theorem Enclosure.text_empty_append (gap : Blanks) :
    (empty gap).text ++ r = '(' :: (gap.chars ++ ')' :: r) := by
  simp [text]

theorem Enclosure.text_items_append (before : Blanks) (first : Phrase) (further : Further)
    (after : Blanks) : (items before first further after).text ++ r =
      '(' :: (before.chars ++ (first.text ++ (further.text ++ (after.chars ++ ')' :: r)))) := by
  simp [text]

theorem Further.text_cons_append (before after : Blanks) (phrase : Phrase) (further : Further) :
    (cons before after phrase further).text ++ r =
      before.chars ++ ',' :: (after.chars ++ (phrase.text ++ (further.text ++ r))) := by
  simp [text]

end

/-! ## What follows a phrase -/

theorem mem_endMarks_of_isRecordBlank {c : Char} (h : isRecordBlank c = true) : c ∈ endMarks := by
  simp only [isRecordBlank, Bool.or_eq_true, beq_iff_eq] at h
  rcases h with ((rfl | rfl) | rfl) | rfl <;> decide

theorem Ends.blanks_append {r : List Char} (h : Ends r) (gap : Blanks) : Ends (gap.chars ++ r) :=
  gap.head_append (fun _ => mem_endMarks_of_isRecordBlank) h

/-- A phrase may end where the next one follows, or the end of the list. -/
theorem Further.ends (further : Further) (after : Blanks) (r : List Char) :
    Ends (further.text ++ (after.chars ++ ')' :: r)) := by
  cases further with
  | nil => exact Ends.blanks_append (forall_mem_head?_cons (by decide) r) after
  | cons before after phrase further =>
    rw [text_cons_append]
    exact Ends.blanks_append (forall_mem_head?_cons (by decide) _) before

/-! ## What a phrase is -/

/-- What a phrase is, as its first character tells. -/
inductive PhraseKind where
  | reference
  | null
  | derived
  | enumeration
  | string
  | number
  | list
  | typed
deriving DecidableEq

/-- What a phrase is that starts with a character. -/
def PhraseKind.ofChar? (c : Char) : Option PhraseKind :=
  if c == '#' then some .reference
  else if c == '$' then some .null
  else if c == '*' then some .derived
  else if c == '.' then some .enumeration
  else if c == '\'' then some .string
  else if c == '(' then some .list
  else if c == '+' || c == '-' || c.isDigit then some .number
  else if isWordChar c then some .typed
  else none

/-- What a phrase is. -/
def Phrase.kind : Phrase → PhraseKind
  | .reference _ => .reference
  | .null => .null
  | .derived => .derived
  | .enumeration _ => .enumeration
  | .string _ => .string
  | .number _ => .number
  | .list _ => .list
  | .typed .. => .typed

/-- The characters that tell at once what a phrase is. -/
def parameterMarks : List Char := ['#', '\'', '$', '*', '.', '(']

/-- Word characters are neither signs nor the marks of other phrases. -/
theorem not_mem_marks_of_isWordChar {c : Char} (h : isWordChar c = true) :
    c ∉ '+' :: '-' :: parameterMarks := by
  have hmarks : ∀ d ∈ '+' :: '-' :: parameterMarks, isWordChar d = false :=
    forall_mem_of_all (by decide)
  intro hc
  rw [hmarks c hc] at h
  cases h

theorem PhraseKind.ofChar?_of_isDigit {c : Char} (h : c.isDigit = true) :
    ofChar? c = some .number := by
  have hmarks := not_mem_marks_of_isWordChar (isWordChar_of_isDigit h)
  simp only [parameterMarks, List.mem_cons, List.not_mem_nil, or_false, not_or] at hmarks
  simp [ofChar?, hmarks, h]

theorem PhraseKind.ofChar?_of_isWordChar {c : Char} (h : isWordChar c = true)
    (hdigit : c.isDigit = false) : ofChar? c = some .typed := by
  have hmarks := not_mem_marks_of_isWordChar h
  simp only [parameterMarks, List.mem_cons, List.not_mem_nil, or_false, not_or] at hmarks
  simp [ofChar?, hmarks, h, hdigit]

theorem Numeral.exists_text_eq_cons (n : Numeral) :
    ∃ c s, n.text = c :: s ∧ PhraseKind.ofChar? c = some .number := by
  rw [Numeral.text]
  cases n.sign with
  | absent =>
    obtain ⟨c, s, hs, hc⟩ := n.digits.exists_eq_cons
    rw [hs]
    exact ⟨c, _, rfl, PhraseKind.ofChar?_of_isDigit hc⟩
  | plus => exact ⟨_, _, rfl, rfl⟩
  | minus => exact ⟨_, _, rfl, rfl⟩

theorem Enclosure.exists_text_eq_cons (d : Enclosure) : ∃ s, d.text = '(' :: s := by
  cases d <;> exact ⟨_, rfl⟩

/-- A phrase has a text, and its first character tells what it is. -/
theorem Phrase.exists_text_eq_cons (d : Phrase) :
    ∃ c s, d.text = c :: s ∧ PhraseKind.ofChar? c = some d.kind := by
  cases d with
  | reference digits => exact ⟨_, _, rfl, rfl⟩
  | null => exact ⟨_, _, rfl, rfl⟩
  | derived => exact ⟨_, _, rfl, rfl⟩
  | enumeration item => exact ⟨_, _, rfl, rfl⟩
  | string body => exact ⟨_, _, rfl, rfl⟩
  | number n => exact n.exists_text_eq_cons
  | list items =>
    obtain ⟨s, hs⟩ := items.exists_text_eq_cons
    exact ⟨_, s, hs, rfl⟩
  | typed type gap arguments =>
    obtain ⟨c, s, hs, hc⟩ := type.exists_eq_cons
    have hdigit : c.isDigit = false := type.head_not_digit c (by simp [hs])
    exact ⟨c, _, by rw [text, hs, List.cons_append], PhraseKind.ofChar?_of_isWordChar hc hdigit⟩

theorem Phrase.kind_eq {d d' : Phrase} {r r' : List Char} (h : d.text ++ r = d'.text ++ r') :
    d.kind = d'.kind := by
  obtain ⟨c, s, hs, hc⟩ := d.exists_text_eq_cons
  obtain ⟨c', s', hs', hc'⟩ := d'.exists_text_eq_cons
  rw [hs, hs', List.cons_append, List.cons_append, List.cons.injEq] at h
  rw [h.1, hc', Option.some.injEq] at hc
  exact hc.symm

/-- What may follow a phrase does not start one. -/
theorem Phrase.head_text (d : Phrase) (r : List Char) :
    ∀ c ∈ (d.text ++ r).head?, c ∉ endMarks := by
  have hmarks : ∀ c ∈ endMarks, PhraseKind.ofChar? c = none := forall_mem_of_all (by decide)
  obtain ⟨c, s, hs, hc⟩ := d.exists_text_eq_cons
  rw [hs]
  refine forall_mem_head?_cons (fun hmem => ?_) _
  rw [hmarks c hmem] at hc
  cases hc

/-! ## Texts of one tree -/

theorem Phrase.head_not_blank (d : Phrase) (r : List Char) :
    ∀ c ∈ (d.text ++ r).head?, isRecordBlank c = false :=
  fun c hc => Bool.eq_false_iff.2 fun hblank =>
    d.head_text r c hc (mem_endMarks_of_isRecordBlank hblank)

theorem Phrase.text_append_ne_cons (d : Phrase) {c : Char} (hc : c ∈ endMarks) (r r' : List Char) :
    d.text ++ r ≠ c :: r' :=
  fun h => d.head_text r c (congrArg List.head? h) hc

/-- Blanks are known from a text that they start, and so is the mark behind them. -/
theorem Run.chars_append_cons_inj {p : Char → Bool} {x y : Run p} {c d : Char} {r r' : List Char}
    (hc : p c = false) (hd : p d = false) (h : x.chars ++ c :: r = y.chars ++ d :: r') :
    x = y ∧ c = d ∧ r = r' := by
  obtain ⟨rfl, hrest⟩ :=
    chars_append_inj (forall_mem_head?_cons hc r) (forall_mem_head?_cons hd r') h
  exact ⟨rfl, List.cons.inj hrest⟩

theorem Enclosure.head_text {P : Char → Prop} (hP : P '(') (d : Enclosure) (r : List Char) :
    ∀ c ∈ (d.text ++ r).head?, P c := by
  obtain ⟨s, hs⟩ := d.exists_text_eq_cons
  rw [hs]
  exact forall_mem_head?_cons hP _

theorem Phrase.blanks_append_ne_close (d : Phrase) (gap gap' : Blanks) (r r' : List Char) :
    gap.chars ++ (d.text ++ r) ≠ gap'.chars ++ ')' :: r' := by
  intro h
  obtain ⟨-, hrest⟩ := Run.chars_append_inj (d.head_not_blank r)
    (forall_mem_head?_cons (by decide) r') h
  exact d.text_append_ne_cons (by decide) r r' hrest

/-- A name ends at the blanks behind it, or at the list. -/
theorem Enclosure.head_not_word (d : Enclosure) (gap : Blanks) (r : List Char) :
    ∀ c ∈ (gap.chars ++ (d.text ++ r)).head?, isWordChar c = false :=
  gap.head_append (fun _ => isWordChar_of_isRecordBlank) (d.head_text (by decide) r)

mutual

/-- Phrases with the same text, where the phrase may end behind it, are equal. -/
theorem Phrase.text_append_inj : ∀ (d d' : Phrase) {r r' : List Char}, Ends r → Ends r' →
    d.text ++ r = d'.text ++ r' → d = d' ∧ r = r'
  | .reference digits, d', r, r', hr, hr', h => by
    -- Here and below, phrases of other kinds start with other characters.
    cases d' with
    | reference digits' =>
      obtain ⟨rfl, hrest⟩ := NonemptyRun.chars_append_inj (hr.head (by decide))
        (hr'.head (by decide)) (List.cons.inj h).2
      exact ⟨rfl, hrest⟩
    | _ => cases Phrase.kind_eq h
  | .null, d', r, r', hr, hr', h => by
    cases d' with
    | null => exact ⟨rfl, (List.cons.inj h).2⟩
    | _ => cases Phrase.kind_eq h
  | .derived, d', r, r', hr, hr', h => by
    cases d' with
    | derived => exact ⟨rfl, (List.cons.inj h).2⟩
    | _ => cases Phrase.kind_eq h
  | .enumeration item, d', r, r', hr, hr', h => by
    cases d' with
    | enumeration item' =>
      rw [Phrase.text_enumeration_append, Phrase.text_enumeration_append] at h
      have hpoint (r : List Char) : ∀ c ∈ ('.' :: r).head?, isWordChar c = false :=
        forall_mem_head?_cons (by decide) r
      obtain ⟨rfl, hrest⟩ :=
        NonemptyRun.chars_append_inj (hpoint r) (hpoint r') (List.cons.inj h).2
      exact ⟨rfl, (List.cons.inj hrest).2⟩
    | _ => cases Phrase.kind_eq h
  | .string body, d', r, r', hr, hr', h => by
    cases d' with
    | string body' =>
      rw [Phrase.text_string_append, Phrase.text_string_append] at h
      obtain ⟨hchars, hrest⟩ := body.paired.append_inj body'.paired (hr.head (by decide))
        (hr'.head (by decide)) (List.cons.inj h).2
      exact ⟨by rw [Body.ext hchars], hrest⟩
    | _ => cases Phrase.kind_eq h
  | .number n, d', r, r', hr, hr', h => by
    cases d' with
    | number n' =>
      obtain ⟨rfl, hrest⟩ := Numeral.text_append_inj hr hr' h
      exact ⟨rfl, hrest⟩
    | _ => cases Phrase.kind_eq h
  | .list items, d', r, r', hr, hr', h => by
    cases d' with
    | list items' =>
      obtain ⟨rfl, hrest⟩ := Enclosure.text_append_inj items items' h
      exact ⟨rfl, hrest⟩
    | _ => cases Phrase.kind_eq h
  | .typed type gap arguments, d', r, r', hr, hr', h => by
    cases d' with
    | typed type' gap' arguments' =>
      -- The name ends at the first blank or at the list, the blanks end at the list.
      rw [Phrase.text_typed_append, Phrase.text_typed_append] at h
      obtain ⟨htype, h⟩ := run_unique type.all type'.all (arguments.head_not_word gap r)
        (arguments'.head_not_word gap' r') h
      obtain ⟨rfl, hlist⟩ := Run.chars_append_inj (arguments.head_text (by decide) r)
        (arguments'.head_text (by decide) r') h
      obtain ⟨rfl, hrest⟩ := Enclosure.text_append_inj arguments arguments' hlist
      exact ⟨by rw [Name.ext htype], hrest⟩
    | _ => cases Phrase.kind_eq h

/-- Lists with the same text are equal. -/
theorem Enclosure.text_append_inj : ∀ (d d' : Enclosure) {r r' : List Char},
    d.text ++ r = d'.text ++ r' → d = d' ∧ r = r'
  | .empty gap, .empty gap', r, r', h => by
    rw [Enclosure.text_empty_append, Enclosure.text_empty_append] at h
    obtain ⟨rfl, -, hrest⟩ := Run.chars_append_cons_inj (by decide) (by decide) (List.cons.inj h).2
    exact ⟨rfl, hrest⟩
  | .empty gap, .items before' first' further' after', r, r', h => by
    rw [Enclosure.text_empty_append, Enclosure.text_items_append] at h
    exact absurd (List.cons.inj h).2.symm (first'.blanks_append_ne_close before' gap _ r)
  | .items before first further after, .empty gap', r, r', h => by
    rw [Enclosure.text_empty_append, Enclosure.text_items_append] at h
    exact absurd (List.cons.inj h).2 (first.blanks_append_ne_close before gap' _ r')
  | .items before first further after, .items before' first' further' after', r, r', h => by
    rw [Enclosure.text_items_append, Enclosure.text_items_append] at h
    obtain ⟨rfl, hitems⟩ := Run.chars_append_inj (first.head_not_blank _)
      (first'.head_not_blank _) (List.cons.inj h).2
    obtain ⟨rfl, hfurther⟩ := Phrase.text_append_inj first first'
      (further.ends after r) (further'.ends after' r') hitems
    obtain ⟨rfl, rfl, hrest⟩ := Further.text_append_inj further further' hfurther
    exact ⟨rfl, hrest⟩

/-- What is left of lists is the same if its text is, with the parenthesis at the end. -/
theorem Further.text_append_inj : ∀ (d d' : Further) {after after' : Blanks} {r r' : List Char},
    d.text ++ (after.chars ++ ')' :: r) = d'.text ++ (after'.chars ++ ')' :: r') →
    d = d' ∧ after = after' ∧ r = r'
  | .nil, .nil, after, after', r, r', h => by
    obtain ⟨rfl, -, hrest⟩ := Run.chars_append_cons_inj (by decide) (by decide) h
    exact ⟨rfl, rfl, hrest⟩
  | .nil, .cons before' gap' phrase' further', after, after', r, r', h => by
    -- Behind the blanks there is a parenthesis in one text and a comma in the other.
    rw [Further.text_cons_append] at h
    obtain ⟨-, hmark, -⟩ := Run.chars_append_cons_inj (by decide) (by decide) h
    cases hmark
  | .cons before gap phrase further, .nil, after, after', r, r', h => by
    rw [Further.text_cons_append] at h
    obtain ⟨-, hmark, -⟩ := Run.chars_append_cons_inj (by decide) (by decide) h
    cases hmark
  | .cons before gap phrase further, .cons before' gap' phrase' further', after, after', r, r',
      h => by
    rw [Further.text_cons_append, Further.text_cons_append] at h
    obtain ⟨rfl, -, hgap⟩ := Run.chars_append_cons_inj (by decide) (by decide) h
    obtain ⟨rfl, hphrase⟩ := Run.chars_append_inj (phrase.head_not_blank _)
      (phrase'.head_not_blank _) hgap
    obtain ⟨rfl, hfurther⟩ := Phrase.text_append_inj phrase phrase'
      (further.ends after r) (further'.ends after' r') hphrase
    obtain ⟨rfl, rfl, hrest⟩ := Further.text_append_inj further further' hfurther
    exact ⟨rfl, rfl, hrest⟩

end

/-- A text has one derivation at most. -/
theorem RecordPhrase.text_injective : Function.Injective RecordPhrase.text := by
  rintro ⟨margin, keyword, gap, parameters, rest⟩ ⟨margin', keyword', gap', parameters', rest'⟩ h
  simp only [text] at h
  have hkeyword (x : NonemptyRun isWordChar) (r : List Char) :
      ∀ c ∈ (x.chars ++ r).head?, isBlank c = false :=
    x.head_append (fun _ => isBlank_of_isWordChar) r
  obtain ⟨rfl, hrecord⟩ := Run.chars_append_inj (hkeyword keyword _) (hkeyword keyword' _) h
  obtain ⟨rfl, hgap⟩ := NonemptyRun.chars_append_inj (parameters.head_not_word gap rest)
    (parameters'.head_not_word gap' rest') hrecord
  obtain ⟨rfl, hlist⟩ := Run.chars_append_inj (parameters.head_text (by decide) rest)
    (parameters'.head_text (by decide) rest') hgap
  obtain ⟨rfl, rfl⟩ := Enclosure.text_append_inj parameters parameters' hlist
  rfl

end BuildingModel.Step
