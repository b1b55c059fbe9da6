import BuildingModel.Proofs.Step.Numeral
import BuildingModel.Step.Statement

/-!
# How instances open

A text is *unbroken* (`Unbroken`) between two states of the reader, inside or outside a string
literal, if reading it leads from one to the other and meets no semicolon outside literals. A
statement is a number sign, an `Opening`, an unbroken text and a semicolon. The opening is the name,
the equals sign and the tag of an instance, with blanks around the equals sign.

* `toSemicolon?_append`: the end of a statement is sought behind an unbroken text;
* `Opening.sighting_text_append`: an instance that opens goes up to the end of its statement,
  whatever its unbroken text says;
* `exists_opening_of_sighting`: nothing else is taken for a statement;
* `sighting_eq_none_iff`: where no instance opens, there is none.
-/

namespace BuildingModel.Step

open Text

/-! ## Unbroken texts -/

/-- Reading the text leads from inside or outside a literal to inside or outside of one, and no
semicolon in it is outside literals. -/
def Unbroken : (inside : Bool) → List Char → (after : Bool) → Prop
  | inside, [], after => inside = after
  | inside, c :: r, after => (c = ';' → inside = true) ∧ Unbroken (inside != (c == '\'')) r after

/-- A statement does not end in an unbroken text. -/
theorem Unbroken.goes_on {i j : Bool} {c : Char} {s : List Char} (h : Unbroken i (c :: s) j) :
    (c == ';' && !i) = false := by
  by_cases hc : c = ';'
  · simp [h.1 hc]
  · simp [hc]

theorem Unbroken.append {i j k : Bool} {s t : List Char} (hs : Unbroken i s j)
    (ht : Unbroken j t k) : Unbroken i (s ++ t) k := by
  induction s generalizing i with
  | nil => exact (show i = j from hs) ▸ ht
  | cons c r ih => exact ⟨hs.1, ih hs.2⟩

/-- What is left of an unbroken text is unbroken. -/
theorem Unbroken.of_append {i j k : Bool} {s t : List Char} (hs : Unbroken i s j)
    (h : Unbroken i (s ++ t) k) : Unbroken j t k := by
  induction s generalizing i with
  | nil => exact (show i = j from hs) ▸ h
  | cons c r ih => exact ih hs.2 h.2

/-- What an unbroken text starts with is unbroken. -/
theorem Unbroken.exists_front {i k : Bool} {s t : List Char} (hs : s <+: t)
    (h : Unbroken i t k) : ∃ j, Unbroken i s j := by
  obtain ⟨r, rfl⟩ := hs
  induction s generalizing i with
  | nil => exact ⟨i, rfl⟩
  | cons c s ih =>
    obtain ⟨j, hj⟩ := ih h.2
    exact ⟨j, h.1, hj⟩

/-- Without semicolons and apostrophes nothing changes. -/
theorem unbroken_of_not_mem (i : Bool) {s : List Char} (hsemicolon : ';' ∉ s) (hquote : '\'' ∉ s) :
    Unbroken i s i := by
  induction s with
  | nil => rfl
  | cons c r ih =>
    rw [List.mem_cons, not_or] at hsemicolon hquote
    refine ⟨fun hc => absurd hc.symm hsemicolon.1, ?_⟩
    rw [beq_false_of_ne (Ne.symm hquote.1), Bool.bne_false]
    exact ih hsemicolon.2 hquote.2

/-- A run of characters that are no semicolons and no apostrophes is unbroken. -/
theorem unbroken_of_all {p : Char → Bool} {s : List Char} (hs : ∀ c ∈ s, p c = true)
    (hsemicolon : p ';' = false) (hquote : p '\'' = false) : Unbroken false s false :=
  unbroken_of_not_mem false (not_mem_of_all hs hsemicolon) (not_mem_of_all hs hquote)

/-- A text is unbroken if every semicolon in it comes after an odd number of apostrophes, counting
one if the text starts inside a literal. -/
theorem unbroken_iff_count {i j : Bool} {s : List Char} : Unbroken i s j ↔
    (∀ k < s.length, s[k]? = some ';' → (i.toNat + (s.take k).count '\'') % 2 = 1) ∧
      (i.toNat + s.count '\'') % 2 = j.toNat := by
  induction s generalizing i with
  | nil => cases i <;> cases j <;> simp [Unbroken]
  | cons c r ih =>
    have hcount (a : List Char) : ((i != (c == '\'')).toNat + a.count '\'') % 2 =
        (i.toNat + (c :: a).count '\'') % 2 := by
      by_cases hc : c = '\''
      · cases i <;> simp [hc] <;> omega
      · rw [beq_false_of_ne hc, Bool.bne_false, List.count_cons_of_ne hc]
    have hfirst : (c = ';' → i = true) ↔ (c = ';' → i.toNat % 2 = 1) := by cases i <;> simp
    rw [Unbroken, ih, hcount, List.length_cons, hfirst, ← and_assoc]
    refine and_congr_left fun _ => ?_
    simp only [hcount]
    constructor
    · rintro ⟨h, hrest⟩ k hk hr
      cases k with
      | zero => exact h (Option.some.inj hr)
      | succ k => exact hrest k (Nat.lt_of_succ_lt_succ hk) hr
    · intro h
      exact ⟨fun hc => h 0 (Nat.zero_lt_succ _) (congrArg some hc),
        fun k hk => h (k + 1) (Nat.succ_lt_succ hk)⟩

/-- Outside literals, a text is unbroken if every literal in it is closed and every semicolon in it
is inside a literal. -/
theorem unbroken_false_iff {s : List Char} : Unbroken false s false ↔
    (∀ k < s.length, s[k]? = some ';' → (s.take k).count '\'' % 2 = 1) ∧ s.count '\'' % 2 = 0 := by
  simpa using unbroken_iff_count (i := false) (j := false) (s := s)

/-- The end of a statement is sought behind an unbroken text. -/
theorem toSemicolon?_append {i j : Bool} {s : List Char} (h : Unbroken i s j)
    (before r : List Char) :
    toSemicolon? i before (s ++ r) = toSemicolon? j (s.reverse ++ before) r := by
  induction s generalizing i before with
  | nil => rw [show i = j from h]; rfl
  | cons c s ih =>
    rw [List.cons_append, toSemicolon?, h.goes_on, if_neg Bool.false_ne_true, ih h.2]
    simp

/-- An unbroken text outside literals ends at the semicolon behind it. -/
theorem toSemicolon?_unbroken {s : List Char} (h : Unbroken false s false)
    (before r : List Char) :
    toSemicolon? false before (s ++ ';' :: r) = some (before.reverse ++ s ++ [';'], r) := by
  rw [toSemicolon?_append h, toSemicolon?]
  simp

/-- Statements are split behind an unbroken text. -/
theorem splitStatements_append {i j : Bool} {s : List Char} (h : Unbroken i s j)
    (before r : List Char) :
    splitStatements i before (s ++ r) = splitStatements j (s.reverse ++ before) r := by
  induction s generalizing i before with
  | nil => rw [show i = j from h]; rfl
  | cons c s ih =>
    rw [List.cons_append, splitStatements, h.goes_on, if_neg Bool.false_ne_true, ih h.2]
    simp

/-- An unbroken text and a semicolon are a statement. -/
theorem splitStatements_statement {s : List Char} (h : Unbroken false s false) (r : List Char) :
    splitStatements false [] (s ++ ';' :: r) = (s ++ [';']) :: splitStatements false [] r := by
  rw [splitStatements_append h, splitStatements]
  simp

/-- There is no statement in an unbroken text. -/
theorem splitStatements_unbroken {i j : Bool} {s : List Char} (h : Unbroken i s j) :
    splitStatements i [] s = [] := by
  rw [← List.append_nil s, splitStatements_append h]
  rfl

/-- Where the end of a statement is found, an unbroken text leads up to it. -/
theorem unbroken_of_toSemicolon? {i : Bool} {before s text r : List Char}
    (h : toSemicolon? i before s = some (text, r)) :
    ∃ body, s = body ++ ';' :: r ∧ text = before.reverse ++ (body ++ [';']) ∧
      Unbroken i body false := by
  induction s generalizing i before with
  | nil => cases h
  | cons c s ih =>
    rw [toSemicolon?] at h
    split at h
    next hc =>
      obtain ⟨rfl, rfl⟩ : c = ';' ∧ i = false := by simpa using hc
      cases h
      exact ⟨[], rfl, by simp, rfl⟩
    next hc =>
      obtain ⟨body, rfl, htext, hbody⟩ := ih h
      refine ⟨c :: body, rfl, by simpa using htext, fun e => ?_, hbody⟩
      simpa [e] using hc

/-! ## Openings -/

/-- Digits are those of a name if they stand for its number. -/
theorem entityId?_eq_some_iff {ds : List Char} {id : EntityId} :
    entityId? ds = some id ↔ digitsValue ds = id.toNat := by
  rw [entityId?]
  constructor
  · intro h
    split at h
    next hlt =>
      obtain rfl := Option.some.inj h
      exact (UInt32.toNat_ofNat_of_lt hlt).symm
    next => cases h
  · intro h
    rw [h, if_pos id.toNat_lt, UInt32.ofNat_toNat]

/-- Digits are those of no name if their number does not fit 32 bits. -/
theorem entityId?_eq_none_iff {ds : List Char} :
    entityId? ds = none ↔ UInt32.size ≤ digitsValue ds := by
  rw [entityId?]
  simp

/-- How an instance opens behind its number sign: with the digits of its name, an equals sign
between blanks, and its tag. -/
structure Opening where
  /-- The digits of the name. -/
  digits : Digits
  /-- The name. -/
  id : EntityId
  /-- The digits are those of the name. -/
  entityId?_digits : entityId? digits.chars = some id
  /-- The blanks before the equals sign. -/
  before : Run isDataBlank
  /-- The blanks behind it. -/
  after : Run isDataBlank
  /-- The tag. -/
  tag : NonemptyRun isTagChar

namespace Opening

variable (o : Opening)

/-- The text of an opening. -/
def text : List Char :=
  o.digits.chars ++ (o.before.chars ++ '=' :: (o.after.chars ++ o.tag.chars))

theorem text_append (r : List Char) :
    o.text ++ r =
      o.digits.chars ++ (o.before.chars ++ '=' :: (o.after.chars ++ (o.tag.chars ++ r))) := by
  simp [text]

theorem not_mem_text {c : Char} (hblank : isDataBlank c = false) (htag : isTagChar c = false)
    (hequals : c ≠ '=') : c ∉ o.text := by
  have hdigit : c.isDigit = false := Bool.eq_false_iff.2 fun h => by
    rw [isTagChar_of_isDigit h] at htag
    cases htag
  simp [text, not_mem_of_all o.digits.all hdigit, not_mem_of_all o.before.all hblank,
    not_mem_of_all o.after.all hblank, not_mem_of_all o.tag.all htag, hequals]

theorem semicolon_not_mem : ';' ∉ o.text :=
  o.not_mem_text (by decide) (by decide) (by decide)

theorem unbroken_text : Unbroken false o.text false :=
  unbroken_of_not_mem false o.semicolon_not_mem (o.not_mem_text (by decide) (by decide) (by decide))

/-- The name ends at the blanks before the equals sign, or at the equals sign. -/
theorem head_before (r : List Char) :
    ∀ c ∈ (o.before.chars ++ '=' :: r).head?, c.isDigit = false := by
  refine o.before.head_append (fun c hc => ?_) (forall_mem_head?_cons (by decide) r)
  cases hdigit : c.isDigit with
  | false => rfl
  | true => rw [isDataBlank_of_isTagChar (isTagChar_of_isDigit hdigit)] at hc; cases hc

/-- The blanks behind the equals sign end at the tag. -/
theorem head_tag (r : List Char) : ∀ c ∈ (o.tag.chars ++ r).head?, isDataBlank c = false :=
  o.tag.head_append (fun _ => isDataBlank_of_isTagChar) r

/-- An instance that opens goes up to the end of its statement, if it has one. -/
theorem sighting_text_append {r : List Char} (hr : ∀ c ∈ r.head?, isTagChar c = false) :
    sighting (o.text ++ r) =
      match toSemicolon? false ('#' :: o.text).reverse r with
      | none => .endless
      | some (text, _) => .statement o.id o.tag.chars text := by
  have hequals : ∀ c ∈ ('=' :: (o.after.chars ++ (o.tag.chars ++ r))).head?,
      isDataBlank c = false := forall_mem_head?_cons (by decide) _
  rw [sighting, text_append]
  simp only [takeWhile_run o.digits.all (o.head_before _),
    dropWhile_run o.digits.all (o.head_before _), takeWhile_run o.before.all hequals,
    dropWhile_run o.before.all hequals, takeWhile_run o.after.all (o.head_tag r),
    dropWhile_run o.after.all (o.head_tag r), takeWhile_run o.tag.all hr,
    dropWhile_run o.tag.all hr, o.entityId?_digits, List.isEmpty_iff, o.digits.ne_nil,
    o.tag.ne_nil, if_false]
  have hbefore : '#' :: o.digits.chars ++ o.before.chars ++ '=' :: o.after.chars ++ o.tag.chars =
      '#' :: o.text := by
    simp [text]
  cases hstatement : toSemicolon? false ('#' :: o.text).reverse r <;>
    simp only [hbefore, hstatement]

/-- The statement of an instance is found as a whole behind its number sign. -/
theorem sighting_statement {body : List Char} (hhead : ∀ c ∈ body.head?, isTagChar c = false)
    (hbody : Unbroken false body false) (r : List Char) :
    sighting (o.text ++ (body ++ ';' :: r)) =
      .statement o.id o.tag.chars ('#' :: (o.text ++ (body ++ [';']))) := by
  have hstop : ∀ c ∈ (body ++ ';' :: r).head?, isTagChar c = false := by
    cases body with
    | nil => exact forall_mem_head?_cons (by decide) r
    | cons d body => exact hhead
  rw [o.sighting_text_append hstop, toSemicolon?_unbroken hbody]
  simp

/-- The opening with the characters of its tag that follow it. -/
def onto (r : List Char) : Opening where
  __ := o
  tag := ⟨⟨o.tag.chars ++ r.takeWhile isTagChar, fun _ hc =>
    (List.mem_append.1 hc).elim (o.tag.all _) List.mem_takeWhile_imp⟩, by simp [o.tag.ne_nil]⟩

theorem text_onto (r : List Char) : (o.onto r).text ++ r.dropWhile isTagChar = o.text ++ r := by
  simp [text, onto]

end Opening

/-! ## Sightings -/

/-- Where there is something of an instance, it opens. -/
theorem exists_opening {s : List Char} (h : sighting s ≠ .none) :
    ∃ (o : Opening) (r : List Char), s = o.text ++ r ∧ ∀ c ∈ r.head?, isTagChar c = false := by
  rw [sighting] at h
  split at h
  · exact absurd rfl h
  next hds =>
    simp only at h
    split at h
    next id afterEquals hid hgap =>
      split at h
      · exact absurd rfl h
      next htag =>
        let o : Opening := ⟨.front hds, id, hid, .front _ (s.dropWhile Char.isDigit),
          .front _ afterEquals, .front htag⟩
        refine ⟨o, (afterEquals.dropWhile isDataBlank).dropWhile isTagChar, ?_, head_dropWhile _ _⟩
        rw [Opening.text_append, NonemptyRun.front_append htag, Run.front_append, ← hgap,
          Run.front_append, NonemptyRun.front_append hds]
    · exact absurd rfl h

/-- What is taken for a statement is an opening and an unbroken text up to a semicolon. -/
theorem exists_opening_of_sighting {s tag text : List Char} {id : EntityId}
    (h : sighting s = .statement id tag text) :
    ∃ (o : Opening) (body r : List Char), s = o.text ++ (body ++ ';' :: r) ∧
      (o.id = id ∧ o.tag.chars = tag ∧ '#' :: (o.text ++ (body ++ [';'])) = text) ∧
      (∀ c ∈ body.head?, isTagChar c = false) ∧ Unbroken false body false := by
  obtain ⟨o, r, rfl, hr⟩ := exists_opening (s := s) (by rw [h]; exact Sighting.noConfusion)
  rw [o.sighting_text_append hr] at h
  split at h
  · cases h
  next text' r' hend =>
    cases h
    obtain ⟨body, rfl, rfl, hbody⟩ := unbroken_of_toSemicolon? hend
    refine ⟨o, body, r', rfl, ⟨rfl, rfl, by simp⟩, fun c hc => ?_, hbody⟩
    cases body with
    | nil => cases hc
    | cons d body => exact hr c hc

/-- There is no instance where none opens. -/
theorem sighting_eq_none_iff {s : List Char} :
    sighting s = .none ↔ ∀ o : Opening, ¬ o.text <+: s := by
  constructor
  · rintro h o ⟨r, rfl⟩
    rw [← o.text_onto, (o.onto r).sighting_text_append (head_dropWhile _ _)] at h
    split at h <;> cases h
  · intro h
    by_contra hne
    obtain ⟨o, r, rfl, -⟩ := exists_opening hne
    exact h o (List.prefix_append _ _)

/-- A statement is found as a whole behind its number sign. -/
theorem sighting_statement {ds tag body : List Char} {id : EntityId} (hds : ds ≠ [])
    (hdigit : ∀ c ∈ ds, c.isDigit = true) (hid : entityId? ds = some id) (htag : tag ≠ [])
    (htagChar : ∀ c ∈ tag, isTagChar c = true) (hhead : ∀ c ∈ body.head?, isTagChar c = false)
    (hbody : Unbroken false body false) (r : List Char) :
    sighting (ds ++ '=' :: (tag ++ (body ++ ';' :: r))) =
      .statement id tag ('#' :: (ds ++ '=' :: (tag ++ (body ++ [';'])))) := by
  have h := Opening.sighting_statement ⟨⟨⟨ds, hdigit⟩, hds⟩, id, hid, .nil, .nil,
    ⟨⟨tag, htagChar⟩, htag⟩⟩ hhead hbody r
  simpa [Opening.text, Run.nil] using h

end BuildingModel.Step
