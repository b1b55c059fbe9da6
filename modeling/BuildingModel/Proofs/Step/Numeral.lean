import BuildingModel.Proofs.Text.Run
import BuildingModel.Step.Record
import Mathlib.Data.List.TakeWhile

/-!
# Numbers in records

A number is written as

    number = [ sign ] digits [ "." [ digits ] ] [ ( "e" | "E" ) [ sign ] digits ]

and is followed by a blank, a comma or a closing parenthesis (`Ends`), none of which prolongs it.
A `Numeral` says what each part is. Two of them with the same text are equal
(`Numeral.text_append_inj`), and the reader of numbers takes a number as a whole
(`number?_text_append`) and nothing that is no number (`exists_numeral`).

For each part there is a function that takes it off the front of a text. It gives back the part that
a text was made with, and so the part is known from the text.
-/

namespace BuildingModel.Step

open Text

/-! ## Runs -/

section

variable {p : Char → Bool}

/-- A run of characters of a kind. -/
@[ext]
structure Run (p : Char → Bool) where
  /-- The characters. -/
  chars : List Char
  /-- They are of the kind. -/
  all : ∀ c ∈ chars, p c = true

/-- The run of no characters. -/
def Run.nil : Run p where
  chars := []
  all _ hc := absurd hc List.not_mem_nil

/-- The characters of a text that are of the kind. -/
def Run.only (s : List Char) : Run p where
  chars := s.filter p
  all _ hc := (List.mem_filter.1 hc).2

/-- A run of at least one character. -/
@[ext]
structure NonemptyRun (p : Char → Bool) extends Run p where
  /-- There is a character. -/
  ne_nil : chars ≠ []

theorem Run.chars_append_inj {x y : Run p} {r r' : List Char} (hr : ∀ c ∈ r.head?, p c = false)
    (hr' : ∀ c ∈ r'.head?, p c = false) (h : x.chars ++ r = y.chars ++ r') : x = y ∧ r = r' := by
  obtain ⟨hchars, hrest⟩ := run_unique x.all y.all hr hr' h
  exact ⟨Run.ext hchars, hrest⟩

theorem NonemptyRun.chars_append_inj {x y : NonemptyRun p} {r r' : List Char}
    (hr : ∀ c ∈ r.head?, p c = false) (hr' : ∀ c ∈ r'.head?, p c = false)
    (h : x.chars ++ r = y.chars ++ r') : x = y ∧ r = r' := by
  obtain ⟨hchars, hrest⟩ := run_unique x.all y.all hr hr' h
  exact ⟨NonemptyRun.ext hchars, hrest⟩

theorem NonemptyRun.exists_eq_cons (x : NonemptyRun p) :
    ∃ c s, x.chars = c :: s ∧ p c = true := by
  obtain ⟨c, s, hs⟩ := List.exists_cons_of_ne_nil x.ne_nil
  exact ⟨c, s, hs, x.all c (hs ▸ List.mem_cons_self)⟩

/-- The run at the front of a text. -/
def Run.front (p : Char → Bool) (s : List Char) : Run p :=
  ⟨s.takeWhile p, fun _ hc => List.mem_takeWhile_imp hc⟩

theorem Run.front_append (p : Char → Bool) (s : List Char) :
    (front p s).chars ++ s.dropWhile p = s :=
  List.takeWhile_append_dropWhile

variable {s : List Char}

/-- The run at the front of a text, where there is one. -/
def NonemptyRun.front (h : ¬ (s.takeWhile p).isEmpty = true) : NonemptyRun p :=
  { Run.front p s with ne_nil := fun hnil => h (List.isEmpty_iff.2 hnil) }

theorem NonemptyRun.front_append (h : ¬ (s.takeWhile p).isEmpty = true) :
    (front h).chars ++ s.dropWhile p = s :=
  List.takeWhile_append_dropWhile

end

/-- Blanks between tokens. -/
abbrev Blanks :=
  Run isRecordBlank

/-- The digits of a number. -/
abbrev Digits :=
  NonemptyRun Char.isDigit

/-! ## First characters -/

section

variable {P : Char → Prop} {r : List Char}

theorem forall_mem_head?_cons {c : Char} (h : P c) (r : List Char) : ∀ d ∈ (c :: r).head?, P d := by
  rintro d ⟨⟩
  exact h

/-- A text starts with the run in front, or with what follows if that is empty. -/
theorem Run.head_append {p : Char → Bool} (x : Run p) (hp : ∀ c, p c = true → P c)
    (hr : ∀ c ∈ r.head?, P c) : ∀ c ∈ (x.chars ++ r).head?, P c := by
  cases hx : x.chars with
  | nil => exact hr
  | cons c s => exact forall_mem_head?_cons (hp c (x.all c (hx ▸ List.mem_cons_self))) _

theorem NonemptyRun.head_append {p : Char → Bool} (x : NonemptyRun p) (hp : ∀ c, p c = true → P c)
    (r : List Char) : ∀ c ∈ (x.chars ++ r).head?, P c := by
  obtain ⟨c, s, hs, hc⟩ := x.exists_eq_cons
  rw [hs]
  exact forall_mem_head?_cons (hp c hc) _

/-- The characters that may follow a parameter: a blank, the comma and the closing parenthesis. -/
def endMarks : List Char := [' ', '\t', '\r', '\n', ',', ')']

/-- The text starts with a character that may follow a parameter, unless it is empty. -/
def Ends (r : List Char) : Prop :=
  ∀ c ∈ r.head?, c ∈ endMarks

theorem Ends.head [DecidablePred P] (h : Ends r)
    (hP : endMarks.all (fun c => decide (P c)) = true) : ∀ c ∈ r.head?, P c :=
  fun c hc => forall_mem_of_all hP c (h c hc)

end

/-! ## Signs -/

/-- The sign of a number, if one is written. -/
inductive Sign where
  | absent
  | plus
  | minus

namespace Sign

/-- The text of a sign. -/
def text : Sign → List Char
  | absent => []
  | plus => ['+']
  | minus => ['-']

/-- Whether the sign makes a number negative. -/
def negative : Sign → Bool
  | minus => true
  | _ => false

/-- The sign at the front of a text. -/
def front : List Char → Sign
  | '+' :: _ => plus
  | '-' :: _ => minus
  | _ => absent

theorem front_append (s : List Char) : (front s).text ++ s.drop (front s).text.length = s := by
  rw [front.eq_def]
  split <;> rfl

theorem front_text_append (sign : Sign) {r : List Char}
    (hr : ∀ c ∈ r.head?, c ≠ '+' ∧ c ≠ '-') : front (sign.text ++ r) = sign := by
  cases sign with
  | plus => rfl
  | minus => rfl
  | absent =>
    rw [text, List.nil_append, front.eq_def]
    split
    · exact absurd rfl (hr '+' rfl).1
    · exact absurd rfl (hr '-' rfl).2
    · rfl

theorem text_append_inj {a b : Sign} {r r' : List Char}
    (hr : ∀ c ∈ r.head?, c ≠ '+' ∧ c ≠ '-') (hr' : ∀ c ∈ r'.head?, c ≠ '+' ∧ c ≠ '-')
    (h : a.text ++ r = b.text ++ r') : a = b ∧ r = r' := by
  have hsign : a = b := by rw [← front_text_append a hr, h, front_text_append b hr']
  subst hsign
  exact ⟨rfl, List.append_cancel_left h⟩

/-- The readers take a sign off the front of a text as `front` does. -/
theorem eq_front {s t : List Char} {negative : Bool}
    (h : (match s with
      | '-' :: r => (true, r)
      | '+' :: r => (false, r)
      | s => (false, s)) = (negative, t)) :
    negative = (front s).negative ∧ t = s.drop (front s).text.length := by
  rw [front.eq_def]
  -- The readers look for the minus sign first.
  split at h <;> cases h
  · exact ⟨rfl, rfl⟩
  · exact ⟨rfl, rfl⟩
  · next hminus hplus =>
    split
    · exact (hplus _ rfl).elim
    · exact (hminus _ rfl).elim
    · exact ⟨rfl, rfl⟩

end Sign

theorem ne_sign_of_isDigit {c : Char} (h : c.isDigit = true) : c ≠ '+' ∧ c ≠ '-' := by
  constructor <;>
  · rintro rfl
    cases h

/-- Digits may follow a sign. -/
theorem NonemptyRun.head_ne_sign (digits : Digits) (r : List Char) :
    ∀ c ∈ (digits.chars ++ r).head?, c ≠ '+' ∧ c ≠ '-' :=
  digits.head_append (fun _ => ne_sign_of_isDigit) r

/-! ## Exponents -/

/-- The exponent of a number. -/
@[ext]
structure Exponent where
  /-- Whether its mark is the capital letter. -/
  capital : Bool
  /-- The sign. -/
  sign : Sign
  /-- The digits. -/
  digits : Digits

namespace Exponent

/-- The letter in front of an exponent. -/
def mark (e : Exponent) : Char :=
  if e.capital then 'E' else 'e'

/-- The text of an exponent. -/
def text (e : Exponent) : List Char :=
  e.mark :: (e.sign.text ++ e.digits.chars)

/-- The number an exponent stands for. -/
def value (e : Exponent) : Int :=
  if e.sign.negative then -digitsValue e.digits.chars else digitsValue e.digits.chars

theorem text_append (e : Exponent) (r : List Char) :
    e.text ++ r = e.mark :: (e.sign.text ++ (e.digits.chars ++ r)) := by
  simp [text]

theorem mark_eq (e : Exponent) : e.mark = 'e' ∨ e.mark = 'E' := by
  rw [mark]
  cases e.capital
  · exact .inl rfl
  · exact .inr rfl

theorem text_append_inj {a b : Exponent} {r r' : List Char}
    (hr : ∀ c ∈ r.head?, c.isDigit = false) (hr' : ∀ c ∈ r'.head?, c.isDigit = false)
    (h : a.text ++ r = b.text ++ r') : a = b ∧ r = r' := by
  rw [text_append, text_append] at h
  obtain ⟨hmark, h⟩ := List.cons.inj h
  obtain ⟨hsign, h⟩ := Sign.text_append_inj (a.digits.head_ne_sign r) (b.digits.head_ne_sign r') h
  obtain ⟨hdigits, hrest⟩ := NonemptyRun.chars_append_inj hr hr' h
  have hcapital : a.capital = b.capital := by
    cases ha : a.capital <;> cases hb : b.capital <;> simp_all [mark]
  exact ⟨Exponent.ext hcapital hsign hdigits, hrest⟩

/-- An exponent does not end a number. -/
theorem not_ends (e : Exponent) (r : List Char) : ¬ Ends (e.text ++ r) := by
  intro h
  have hmark : e.mark ∈ endMarks := h e.mark rfl
  rcases e.mark_eq with he | he <;>
  · rw [he] at hmark
    revert hmark
    decide

end Exponent

/-- The text of an exponent, if there is one. -/
def exponentText : Option Exponent → List Char
  | none => []
  | some e => e.text

theorem head_exponentText {P : Char → Prop} {r : List Char} (hsmall : P 'e') (hcapital : P 'E')
    (hr : ∀ c ∈ r.head?, P c) (e : Option Exponent) : ∀ c ∈ (exponentText e ++ r).head?, P c := by
  cases e with
  | none => exact hr
  | some e =>
    refine forall_mem_head?_cons ?_ _
    rcases e.mark_eq with he | he
    · rwa [he]
    · rwa [he]

theorem exponentText_append_inj {a b : Option Exponent} {r r' : List Char} (hr : Ends r)
    (hr' : Ends r') (h : exponentText a ++ r = exponentText b ++ r') : a = b ∧ r = r' := by
  cases a with
  | none =>
    cases b with
    | none => exact ⟨rfl, h⟩
    | some b => exact absurd (h ▸ hr) (b.not_ends r')
  | some a =>
    cases b with
    | none => exact absurd (h ▸ hr') (a.not_ends r)
    | some b =>
      obtain ⟨rfl, hrest⟩ := Exponent.text_append_inj (hr.head (by decide)) (hr'.head (by decide)) h
      exact ⟨rfl, hrest⟩

/-- An exponent at the front of a text, after its mark. -/
def afterMark? (s : List Char) : Option (Int × List Char) :=
  let r := s.drop (Sign.front s).text.length
  let digits := r.takeWhile Char.isDigit
  if digits.isEmpty then none
  else
    let n : Int := digitsValue digits
    some (if (Sign.front s).negative then -n else n, r.dropWhile Char.isDigit)

theorem exponent?_cons {c : Char} (hc : c = 'e' ∨ c = 'E') (s : List Char) :
    exponent? (c :: s) = afterMark? s := by
  have hmark : (c == 'e' || c == 'E') = true := by simpa using hc
  rw [exponent?.eq_def]
  refine (if_pos hmark).trans ?_
  split
  next negative t heq =>
    obtain ⟨rfl, rfl⟩ := Sign.eq_front heq
    rfl

theorem exponent?_eq_none {s : List Char} (h : ∀ c ∈ s.head?, c ≠ 'e' ∧ c ≠ 'E') :
    exponent? s = none := by
  cases s with
  | nil => rfl
  | cons c s =>
    have hmark : ¬ (c == 'e' || c == 'E') = true := by simpa using h c rfl
    rw [exponent?.eq_def]
    exact if_neg hmark

theorem exponent?_text_append (e : Exponent) {r : List Char}
    (hr : ∀ c ∈ r.head?, c.isDigit = false) : exponent? (e.text ++ r) = some (e.value, r) := by
  rw [Exponent.text_append, exponent?_cons e.mark_eq, afterMark?,
    Sign.front_text_append e.sign (e.digits.head_ne_sign r), List.drop_left]
  simp [takeWhile_run e.digits.all hr, dropWhile_run e.digits.all hr, e.digits.ne_nil,
    Exponent.value]

theorem exists_exponent {s r : List Char} {n : Int} (h : exponent? s = some (n, r)) :
    ∃ e : Exponent, e.text ++ r = s ∧ e.value = n := by
  cases s with
  | nil => cases h
  | cons c s =>
    by_cases hc : c = 'e' ∨ c = 'E'
    · rw [exponent?_cons hc, afterMark?] at h
      simp only at h
      split at h
      · cases h
      next hdigits =>
        cases h
        refine ⟨⟨c == 'E', Sign.front s, .front hdigits⟩, ?_, rfl⟩
        have hmark : Exponent.mark ⟨c == 'E', Sign.front s, .front hdigits⟩ = c := by
          rcases hc with rfl | rfl <;> rfl
        rw [Exponent.text_append, hmark, NonemptyRun.front_append, Sign.front_append]
    · rw [exponent?_eq_none (forall_mem_head?_cons (not_or.1 hc) s)] at h
      cases h

/-- What the exponent at the front of a text stands for, if there is one, and the rest. -/
def frontExponent (s : List Char) : Option Int × List Char :=
  match exponent? s with
  | none => (none, s)
  | some (e, r) => (some e, r)

theorem frontExponent_append (e : Option Exponent) {r : List Char} (hr : Ends r) :
    frontExponent (exponentText e ++ r) = (e.map Exponent.value, r) := by
  cases e with
  | none =>
    rw [exponentText, List.nil_append, frontExponent, exponent?_eq_none (hr.head (by decide))]
    rfl
  | some e =>
    rw [exponentText, frontExponent, exponent?_text_append e (hr.head (by decide))]
    rfl

theorem exists_frontExponent (s : List Char) :
    ∃ e : Option Exponent, exponentText e ++ (frontExponent s).2 = s ∧
      e.map Exponent.value = (frontExponent s).1 := by
  rw [frontExponent]
  split
  · exact ⟨none, rfl, rfl⟩
  next n r hexponent =>
    obtain ⟨e, he, rfl⟩ := exists_exponent hexponent
    exact ⟨some e, he, rfl⟩

/-! ## Fractions -/

/-- The text of a point with the digits behind it, if there is a point. -/
def fractionText : Option (Run Char.isDigit) → List Char
  | none => []
  | some digits => '.' :: digits.chars

theorem head_fractionText {P : Char → Prop} {r : List Char} (hpoint : P '.')
    (hr : ∀ c ∈ r.head?, P c) (fraction : Option (Run Char.isDigit)) :
    ∀ c ∈ (fractionText fraction ++ r).head?, P c := by
  cases fraction with
  | none => exact hr
  | some digits => exact forall_mem_head?_cons hpoint _

/-- The point at the front of a text with the digits behind it, if there is a point, and the
rest. -/
def frontFraction (s : List Char) : Option (Run Char.isDigit) × List Char :=
  match s with
  | '.' :: r => (some (.front _ r), r.dropWhile Char.isDigit)
  | r => (none, r)

theorem frontFraction_of_ne {s : List Char} (h : ∀ r, s = '.' :: r → False) :
    frontFraction s = (none, s) := by
  rw [frontFraction.eq_def]
  split
  · exact (h _ rfl).elim
  · rfl

theorem frontFraction_append (fraction : Option (Run Char.isDigit)) {r : List Char}
    (hr : ∀ c ∈ r.head?, c.isDigit = false ∧ c ≠ '.') :
    frontFraction (fractionText fraction ++ r) = (fraction, r) := by
  cases fraction with
  | none =>
    refine frontFraction_of_ne ?_
    rintro t rfl
    exact (hr '.' rfl).2 rfl
  | some digits =>
    have hdigits : ∀ c ∈ r.head?, c.isDigit = false := fun c hc => (hr c hc).1
    rw [fractionText, List.cons_append, frontFraction, dropWhile_run digits.all hdigits]
    simp [Run.front, takeWhile_run digits.all hdigits]

theorem fractionText_append_inj {a b : Option (Run Char.isDigit)} {r r' : List Char}
    (hr : ∀ c ∈ r.head?, c.isDigit = false ∧ c ≠ '.')
    (hr' : ∀ c ∈ r'.head?, c.isDigit = false ∧ c ≠ '.')
    (h : fractionText a ++ r = fractionText b ++ r') : a = b ∧ r = r' := by
  have hfront := congrArg frontFraction h
  rw [frontFraction_append a hr, frontFraction_append b hr'] at hfront
  exact Prod.mk.inj hfront

theorem fractionText_frontFraction (s : List Char) :
    fractionText (frontFraction s).1 ++ (frontFraction s).2 = s := by
  rw [frontFraction.eq_def]
  split
  · exact congrArg ('.' :: ·) (Run.front_append _ _)
  · rfl

/-! ## Numbers -/

/-- A number. -/
@[ext]
structure Numeral where
  /-- The sign. -/
  sign : Sign
  /-- The digits before the point. -/
  digits : Digits
  /-- The digits behind the point, if there is a point. -/
  fraction : Option (Run Char.isDigit)
  /-- The exponent, if there is one. -/
  exponent : Option Exponent

/-- What the parts of a number stand for: a real number if there is a point or an exponent, and a
whole number otherwise. -/
def numberValue (negative : Bool) (digits : List Char) :
    Option (List Char) → Option Int → Parameter
  | none, none => .integer (integerValue negative (digitsValue digits))
  | fraction, exponent =>
    let behind := fraction.getD []
    .real (realValue negative (digits ++ behind) (exponent.getD 0 - behind.length))

namespace Numeral

/-- The text of a number. -/
def text (n : Numeral) : List Char :=
  n.sign.text ++ (n.digits.chars ++ (fractionText n.fraction ++ exponentText n.exponent))

/-- What a number stands for. -/
def value (n : Numeral) : Parameter :=
  numberValue n.sign.negative n.digits.chars (n.fraction.map Run.chars)
    (n.exponent.map Exponent.value)

theorem text_append (n : Numeral) (r : List Char) : n.text ++ r =
    n.sign.text ++ (n.digits.chars ++
      (fractionText n.fraction ++ (exponentText n.exponent ++ r))) := by
  simp [text]

/-- The digits behind a point end at the exponent, or with the number. -/
theorem head_exponent (n : Numeral) {r : List Char} (hr : Ends r) :
    ∀ c ∈ (exponentText n.exponent ++ r).head?, c.isDigit = false ∧ c ≠ '.' :=
  head_exponentText (by decide) (by decide) (hr.head (by decide)) n.exponent

/-- The digits of a number end at its point, at its exponent, or with the number. -/
theorem head_fraction (n : Numeral) {r : List Char} (hr : Ends r) :
    ∀ c ∈ (fractionText n.fraction ++ (exponentText n.exponent ++ r)).head?, c.isDigit = false :=
  head_fractionText (by decide) (fun c hc => (n.head_exponent hr c hc).1) n.fraction

/-- Numbers with the same text, which end behind it, are equal. -/
theorem text_append_inj {a b : Numeral} {r r' : List Char} (hr : Ends r) (hr' : Ends r')
    (h : a.text ++ r = b.text ++ r') : a = b ∧ r = r' := by
  rw [text_append, text_append] at h
  obtain ⟨hsign, h⟩ := Sign.text_append_inj (a.digits.head_ne_sign _) (b.digits.head_ne_sign _) h
  obtain ⟨hdigits, h⟩ :=
    NonemptyRun.chars_append_inj (a.head_fraction hr) (b.head_fraction hr') h
  obtain ⟨hfraction, h⟩ := fractionText_append_inj (a.head_exponent hr) (b.head_exponent hr') h
  obtain ⟨hexponent, hrest⟩ := exponentText_append_inj hr hr' h
  exact ⟨Numeral.ext hsign hdigits hfraction hexponent, hrest⟩

end Numeral

/-- A number after its sign. -/
def unsigned? (negative : Bool) (s : List Char) : Option (Parameter × List Char) :=
  let digits := s.takeWhile Char.isDigit
  if digits.isEmpty then none
  else
    let (fraction, r) := frontFraction (s.dropWhile Char.isDigit)
    let (exponent, r) := frontExponent r
    some (numberValue negative digits (fraction.map Run.chars) exponent, r)

/-- A number is read as its sign and what follows the sign. -/
theorem number?_eq (s : List Char) :
    number? s = unsigned? (Sign.front s).negative (s.drop (Sign.front s).text.length) := by
  unfold number?
  split
  next negative t heq =>
    obtain ⟨hnegative, ht⟩ := Sign.eq_front heq
    rw [← hnegative, ← ht, unsigned?]
    -- The digits do not matter from here on.
    generalize t.takeWhile Char.isDigit = digits
    generalize t.dropWhile Char.isDigit = u
    split
    next fraction r heq' =>
      have hfraction : frontFraction u = ((frontFraction u).1, r) ∧
          fraction = (frontFraction u).1.map Run.chars := by
        split at heq' <;> cases heq'
        · exact ⟨rfl, rfl⟩
        · next hpoint =>
          rw [frontFraction_of_ne hpoint]
          exact ⟨rfl, rfl⟩
      rw [hfraction.1, hfraction.2]
      cases (frontFraction u).1 <;> cases hexponent : exponent? r <;>
        simp [frontExponent, hexponent, numberValue]

/-- A number is read up to what ends it. -/
theorem number?_text_append (n : Numeral) {r : List Char} (hr : Ends r) :
    number? (n.text ++ r) = some (n.value, r) := by
  have hdigits := n.head_fraction hr
  rw [Numeral.text_append, number?_eq, Sign.front_text_append n.sign (n.digits.head_ne_sign _),
    List.drop_left, unsigned?]
  simp only [takeWhile_run n.digits.all hdigits, dropWhile_run n.digits.all hdigits,
    frontFraction_append n.fraction (n.head_exponent hr), frontExponent_append n.exponent hr]
  exact if_neg (by simpa using n.digits.ne_nil)

/-- What is read as a number is one. -/
theorem exists_numeral {s r : List Char} {p : Parameter} (h : number? s = some (p, r)) :
    ∃ n : Numeral, n.text ++ r = s ∧ n.value = p := by
  rw [number?_eq, unsigned?] at h
  simp only at h
  split at h
  · cases h
  next hdigits =>
    cases h
    -- Behind the digits there may be a fraction, and behind the fraction an exponent.
    obtain ⟨e, he, hvalue⟩ := exists_frontExponent
      (frontFraction ((s.drop (Sign.front s).text.length).dropWhile Char.isDigit)).2
    refine ⟨⟨Sign.front s, .front hdigits, _, e⟩, ?_, congrArg (numberValue _ _ _) hvalue⟩
    rw [Numeral.text_append, he, fractionText_frontFraction, NonemptyRun.front_append,
      Sign.front_append]

/-- What starts with neither a digit nor a sign is no number. -/
theorem number?_eq_none {s : List Char}
    (h : ∀ c ∈ s.head?, c.isDigit = false ∧ c ≠ '+' ∧ c ≠ '-') : number? s = none := by
  have hsign : Sign.front s = .absent := Sign.front_text_append .absent fun c hc => (h c hc).2
  rw [number?_eq, hsign, unsigned?, Sign.text, List.length_nil, List.drop_zero,
    takeWhile_eq_nil fun c hc => (h c hc).1]
  rfl

/-- What starts with a digit is a number. -/
theorem number?_ne_none {c : Char} (h : c.isDigit = true) (s : List Char) :
    number? (c :: s) ≠ none := by
  have hsign : Sign.front (c :: s) = .absent :=
    Sign.front_text_append .absent (forall_mem_head?_cons (ne_sign_of_isDigit h) s)
  rw [number?_eq, hsign, unsigned?, Sign.text, List.length_nil, List.drop_zero,
    List.takeWhile_cons_of_pos h]
  exact Option.some_ne_none _

end BuildingModel.Step
