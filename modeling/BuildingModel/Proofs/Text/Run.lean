import BuildingModel.Text.Search
import BuildingModel.Text.Word
import BuildingModel.Text.Blank

/-!
# Runs of characters

Readers take the longest run of characters of a kind off the front of a text. Such a run ends where
a character of another kind follows (`takeWhile_run`, `dropWhile_run`).

The kinds of characters that meet in an exchange file are apart: what may stand in a word is no
blank of any kind.
-/

namespace BuildingModel.Text

/-! ## Ends of runs -/

section

variable {p : Char → Bool} {s r : List Char}

/-- The run at the front of a text ends before a character of another kind. -/
theorem takeWhile_run (hs : ∀ c ∈ s, p c = true) (hr : ∀ c ∈ r.head?, p c = false) :
    (s ++ r).takeWhile p = s := by
  rw [List.takeWhile_append_of_pos hs]
  cases r with
  | nil => simp
  | cons c r => simp [hr c rfl]

/-- Behind the run at the front of a text is what follows it. -/
theorem dropWhile_run (hs : ∀ c ∈ s, p c = true) (hr : ∀ c ∈ r.head?, p c = false) :
    (s ++ r).dropWhile p = r := by
  rw [List.dropWhile_append_of_pos hs]
  cases r with
  | nil => simp
  | cons c r => simp [hr c rfl]

/-- A text that starts with a character of another kind has no run at its front. -/
theorem takeWhile_eq_nil (hr : ∀ c ∈ r.head?, p c = false) : r.takeWhile p = [] :=
  takeWhile_run (fun _ h => absurd h List.not_mem_nil) hr

theorem dropWhile_eq_self (hr : ∀ c ∈ r.head?, p c = false) : r.dropWhile p = r :=
  dropWhile_run (fun _ h => absurd h List.not_mem_nil) hr

/-- What follows the run at the front of a text does not go on with it. -/
theorem head_dropWhile (p : Char → Bool) (s : List Char) :
    ∀ c ∈ (s.dropWhile p).head?, p c = false := by
  intro c hc
  have hstop := List.head?_dropWhile_not p s
  rw [Option.mem_def] at hc
  rwa [hc] at hstop

/-- A character of another kind is not in a run. -/
theorem not_mem_of_all {d : Char} (hs : ∀ c ∈ s, p c = true) (hd : p d = false) : d ∉ s := by
  intro h
  rw [hs d h] at hd
  cases hd

/-- Two runs at the front of a text are the same, where characters of other kinds follow. -/
theorem run_unique {s' r' : List Char} (hs : ∀ c ∈ s, p c = true) (hs' : ∀ c ∈ s', p c = true)
    (hr : ∀ c ∈ r.head?, p c = false) (hr' : ∀ c ∈ r'.head?, p c = false)
    (h : s ++ r = s' ++ r') : s = s' ∧ r = r' := by
  constructor
  · rw [← takeWhile_run hs hr, h, takeWhile_run hs' hr']
  · rw [← dropWhile_run hs hr, h, dropWhile_run hs' hr']

end

/-! ## White space at the ends -/

theorem trimLeft_append {front : List Char} (hfront : ∀ c ∈ front, isBlank c = true)
    (s : List Char) : trimLeft (front ++ s) = trimLeft s :=
  List.dropWhile_append_of_pos hfront

theorem trimRight_append {back : List Char} (hback : ∀ c ∈ back, isBlank c = true)
    (s : List Char) : trimRight (s ++ back) = trimRight s := by
  rw [trimRight, List.reverse_append,
    List.dropWhile_append_of_pos fun c hc => hback c (List.mem_reverse.1 hc), trimRight]

/-- What has no white space is what is left of it between white space. -/
theorem trim_append {front s back : List Char} (hfront : ∀ c ∈ front, isBlank c = true)
    (hback : ∀ c ∈ back, isBlank c = true) (h : ∀ c ∈ s, isBlank c = false) :
    trim (front ++ s ++ back) = s := by
  have hright : trimRight s = s := by
    have hlast : ∀ c ∈ s.reverse.head?, isBlank c = false := fun c hc =>
      h c (List.mem_reverse.1 (List.mem_of_mem_head? hc))
    rw [trimRight, dropWhile_eq_self hlast, List.reverse_reverse]
  rw [trim, List.append_assoc, trimLeft_append hfront]
  cases s with
  | nil =>
    -- The white space behind is in front of the end, too.
    rw [List.nil_append, ← List.append_nil back, trimLeft_append hback]
    rfl
  | cons c r =>
    have hleft : trimLeft (c :: r ++ back) = c :: r ++ back :=
      dropWhile_eq_self fun a ha => by
        obtain rfl : c = a := by simpa using ha
        exact h c List.mem_cons_self
    rw [hleft, trimRight_append hback, hright]

/-- A text without white space has none at its ends. -/
theorem trim_eq_self {s : List Char} (h : ∀ c ∈ s, isBlank c = false) : trim s = s := by
  have hends : trim ([] ++ s ++ []) = s := trim_append nofun nofun h
  rwa [List.nil_append, List.append_nil] at hends

/-- A text is what is left of it between white space. -/
theorem exists_eq_append_trim (s : List Char) :
    ∃ front back, s = front ++ trim s ++ back ∧ (∀ c ∈ front, isBlank c = true) ∧
      ∀ c ∈ back, isBlank c = true := by
  refine ⟨s.takeWhile isBlank, ((trimLeft s).reverse.takeWhile isBlank).reverse, ?_,
    fun c hc => List.all_eq_true.1 List.all_takeWhile c hc,
    fun c hc => List.all_eq_true.1 List.all_takeWhile c (List.mem_reverse.1 hc)⟩
  have hright : trim s ++ ((trimLeft s).reverse.takeWhile isBlank).reverse = trimLeft s := by
    rw [trim, trimRight, ← List.reverse_append, List.takeWhile_append_dropWhile,
      List.reverse_reverse]
  rw [List.append_assoc, hright, trimLeft, List.takeWhile_append_dropWhile]

/-! ## Blanks and words -/

theorem isBlank_of_isDataBlank {c : Char} (h : isDataBlank c = true) : isBlank c = true := by
  simp only [isDataBlank, Bool.or_eq_true, beq_iff_eq] at h
  rcases h with h | rfl
  · exact isBlank_of_isRecordBlank h
  · decide

/-- The codes of the characters of white space. -/
def blankCodes : List Nat :=
  [0x09, 0x0A, 0x0B, 0x0C, 0x0D, 0x20, 0x85, 0xA0, 0x1680, 0x2000, 0x2001, 0x2002, 0x2003, 0x2004,
    0x2005, 0x2006, 0x2007, 0x2008, 0x2009, 0x200A, 0x2028, 0x2029, 0x202F, 0x205F, 0x3000]

theorem toNat_mem_blankCodes {c : Char} (h : isBlank c = true) : c.toNat ∈ blankCodes := by
  simp only [isBlank, Bool.or_eq_true, Bool.and_eq_true, decide_eq_true_eq, beq_iff_eq] at h
  simp only [blankCodes, List.mem_cons, List.not_mem_nil, or_false]
  omega

/-- No white space may stand in a word. -/
theorem isBlank_of_isWordChar {c : Char} (h : isWordChar c = true) : isBlank c = false := by
  have hcodes : ∀ n ∈ blankCodes, isWordChar (Char.ofNat n) = false := by decide +kernel
  refine Bool.eq_false_iff.2 fun hblank => ?_
  have hword := hcodes _ (toNat_mem_blankCodes hblank)
  rw [Char.ofNat_toNat, h] at hword
  cases hword

theorem isRecordBlank_of_isWordChar {c : Char} (h : isWordChar c = true) :
    isRecordBlank c = false :=
  Bool.eq_false_iff.2 fun hblank =>
    absurd (isBlank_of_isRecordBlank hblank) (by simp [isBlank_of_isWordChar h])

theorem isWordChar_of_isRecordBlank {c : Char} (h : isRecordBlank c = true) :
    isWordChar c = false :=
  Bool.eq_false_iff.2 fun hword => absurd h (by simp [isRecordBlank_of_isWordChar hword])

theorem isBlank_of_isTagChar {c : Char} (h : isTagChar c = true) : isBlank c = false :=
  isBlank_of_isWordChar (isWordChar_of_isTagChar h)

theorem isDataBlank_of_isTagChar {c : Char} (h : isTagChar c = true) : isDataBlank c = false :=
  Bool.eq_false_iff.2 fun hblank =>
    absurd (isBlank_of_isDataBlank hblank) (by simp [isBlank_of_isTagChar h])

/-- A tag has every character of a word that is no letter and no digit outside ASCII. -/
theorem isTagChar_of_isWordChar {c : Char} (hascii : isLetterOrDigit c = true → c.toNat < 0x80)
    (h : isWordChar c = true) : isTagChar c = true := by
  simp only [isWordChar, Bool.or_eq_true] at h
  simp only [isTagChar, Bool.or_eq_true]
  rcases h with h | h
  · rw [isLetterOrDigit, if_pos (hascii h)] at h
    exact .inl h
  · exact .inr h

theorem isTagChar_of_isDigit {c : Char} (h : c.isDigit = true) : isTagChar c = true := by
  simp [isTagChar, Char.isAlphanum, h]

theorem isWordChar_of_isDigit {c : Char} (h : c.isDigit = true) : isWordChar c = true :=
  isWordChar_of_isTagChar (isTagChar_of_isDigit h)

/-- What can be decided holds of the characters of a list if it is found for each. -/
theorem forall_mem_of_all {P : Char → Prop} [DecidablePred P] {l : List Char}
    (h : l.all (fun c => decide (P c)) = true) : ∀ c ∈ l, P c := by
  simpa using h

/-! ## Numbers of bytes -/

theorem foldl_utf8Size (n : Nat) (s : List Char) :
    s.foldl (fun n c => n + c.utf8Size) n = n + byteLength s := by
  induction s generalizing n with
  | nil => rfl
  | cons c r ih =>
    rw [byteLength, List.foldl_cons, List.foldl_cons, ih, ih]
    omega

theorem byteLength_cons (c : Char) (s : List Char) :
    byteLength (c :: s) = c.utf8Size + byteLength s := by
  rw [byteLength, List.foldl_cons, foldl_utf8Size]
  omega

theorem byteLength_append (s t : List Char) :
    byteLength (s ++ t) = byteLength s + byteLength t := by
  rw [byteLength, List.foldl_append, foldl_utf8Size]
  rfl

/-- Only the empty text has no bytes. -/
theorem eq_nil_of_byteLength_eq_zero {s : List Char} (h : byteLength s = 0) : s = [] := by
  cases s with
  | nil => rfl
  | cons c s =>
    have hpos := c.utf8Size_pos
    rw [byteLength_cons] at h
    omega

/-- What stands at the front of a text is known from its number of bytes. -/
theorem eq_of_prefix_of_byteLength_eq {s s' t : List Char} (hs : s <+: t) (hs' : s' <+: t)
    (h : byteLength s = byteLength s') : s = s' := by
  rcases List.prefix_or_prefix_of_prefix hs hs' with ⟨r, rfl⟩ | ⟨r, rfl⟩
  · rw [byteLength_append] at h
    rw [eq_nil_of_byteLength_eq_zero (s := r) (by omega), List.append_nil]
  · rw [byteLength_append] at h
    rw [eq_nil_of_byteLength_eq_zero (s := r) (by omega), List.append_nil]

end BuildingModel.Text
