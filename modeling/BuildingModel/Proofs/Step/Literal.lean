import BuildingModel.Step.Record

/-!
# Writing string literals

A text is written as the body of a literal by doubling its apostrophes and backslashes
(`escaped`); everything else stands for itself.

* `decode_escaped`: resolving the escapes gives the text back;
* `literal?_paired`: a body in which apostrophes are paired, as in a written text, ends at the first
  apostrophe that follows it;
* `exists_paired_of_literal?`: what is read is such a body.
-/

namespace BuildingModel.Step

/-- The text with every apostrophe and every backslash doubled. -/
def escaped : List Char → List Char
  | [] => []
  | c :: r => if c = '\'' ∨ c = '\\' then c :: c :: escaped r else c :: escaped r

theorem escaped_cons_quote (r : List Char) : escaped ('\'' :: r) = '\'' :: '\'' :: escaped r := rfl

theorem escaped_cons_backslash (r : List Char) : escaped ('\\' :: r) = '\\' :: '\\' :: escaped r :=
  rfl

theorem escaped_cons_of_ne {c : Char} (hq : c ≠ '\'') (hb : c ≠ '\\') (r : List Char) :
    escaped (c :: r) = c :: escaped r := by
  rw [escaped, if_neg (by simp [hq, hb])]

/-! ## Decoding -/

/-- An escape stands for its characters, and decoding goes on after it. -/
theorem decode_cons_of_escape? {c : Char} {r chars : List Char} {n : Nat}
    (h : escape? (c :: r) = some (chars, n)) :
    decode (c :: r) = chars ++ decode (r.drop (n - 1)) := by
  rw [decode, decodeFrom, h]
  exact congrArg (chars ++ ·) (decodeFrom_eq_drop _ _)

/-- Every escape starts with an apostrophe or a backslash. -/
theorem escape?_eq_none {c : Char} (hq : c ≠ '\'') (hb : c ≠ '\\') (r : List Char) :
    escape? (c :: r) = none := by
  unfold escape?
  split <;> simp_all

/-- A character that starts no escape stands for itself. -/
theorem decode_cons_of_ne {c : Char} (hq : c ≠ '\'') (hb : c ≠ '\\') (r : List Char) :
    decode (c :: r) = c :: decode r := by
  rw [decode, decodeFrom, escape?_eq_none hq hb]
  rfl

/-- Resolving the escapes of a written text gives the text back. -/
theorem decode_escaped (s : List Char) : decode (escaped s) = s := by
  induction s with
  | nil => rfl
  | cons c r ih =>
    by_cases hq : c = '\''
    · subst hq
      rw [escaped_cons_quote, decode_cons_of_escape? rfl]
      simp [ih]
    by_cases hb : c = '\\'
    · subst hb
      rw [escaped_cons_backslash, decode_cons_of_escape? rfl]
      simp [ih]
    rw [escaped_cons_of_ne hq hb, decode_cons_of_ne hq hb, ih]

/-! ## The end of a literal -/

/-- Apostrophes stand only in pairs, one beside the other. -/
inductive Paired : List Char → Prop
  | nil : Paired []
  | pair {s : List Char} : Paired s → Paired ('\'' :: '\'' :: s)
  | other {c : Char} {s : List Char} : c ≠ '\'' → Paired s → Paired (c :: s)

theorem paired_escaped (s : List Char) : Paired (escaped s) := by
  induction s with
  | nil => exact .nil
  | cons c s ih =>
    by_cases hq : c = '\''
    · subst hq
      exact .pair ih
    by_cases hb : c = '\\'
    · subst hb
      exact .other hq (.other hq ih)
    rw [escaped_cons_of_ne hq hb]
    exact .other hq ih

/-- A closing apostrophe is one that no other follows. -/
theorem literal?_quote {before r : List Char} (hr : ∀ c ∈ r.head?, c ≠ '\'') :
    literal? before ('\'' :: r) = some (before.reverse, r) := by
  cases r with
  | nil => rfl
  | cons c r =>
    have hc : c ≠ '\'' := hr c rfl
    rw [literal?]
    simpa using hc

theorem literal?_cons_of_ne {c : Char} (hq : c ≠ '\'') (before r : List Char) :
    literal? before (c :: r) = literal? (c :: before) r := by
  rw [literal?] <;> simp [hq]

/-- A literal ends after a body in which the apostrophes are paired. -/
theorem literal?_paired {s r : List Char} (hs : Paired s) (hr : ∀ c ∈ r.head?, c ≠ '\'')
    (before : List Char) :
    literal? before (s ++ '\'' :: r) = some (before.reverse ++ s, r) := by
  induction hs generalizing before with
  | nil => simpa using literal?_quote hr
  | pair hs ih =>
    rw [List.cons_append, List.cons_append, literal?, ih]
    simp
  | other hc hs ih =>
    rw [List.cons_append, literal?_cons_of_ne hc, ih]
    simp

/-- What is read of a literal is a body in which the apostrophes are paired. -/
theorem exists_paired_of_literal? {before s body r : List Char}
    (h : literal? before s = some (body, r)) :
    ∃ t, Paired t ∧ t ++ '\'' :: r = s ∧ before.reverse ++ t = body := by
  fun_induction literal? before s with
  | case1 => cases h
  | case2 before s ih =>
    obtain ⟨t, ht, rfl, rfl⟩ := ih h
    exact ⟨_, .pair ht, rfl, by simp⟩
  | case3 before s =>
    cases h
    exact ⟨[], .nil, rfl, List.append_nil _⟩
  | case4 before c s hpair hquote ih =>
    obtain ⟨t, ht, rfl, rfl⟩ := ih h
    exact ⟨_, .other (fun hc => hquote hc) ht, rfl, by simp⟩

/-- The body of a literal is known from a text that starts with it. -/
theorem Paired.append_inj {s s' r r' : List Char} (hs : Paired s) (hs' : Paired s')
    (hr : ∀ c ∈ r.head?, c ≠ '\'') (hr' : ∀ c ∈ r'.head?, c ≠ '\'')
    (h : s ++ '\'' :: r = s' ++ '\'' :: r') : s = s' ∧ r = r' := by
  have hread := (literal?_paired hs hr []).symm.trans
    ((congrArg (literal? []) h).trans (literal?_paired hs' hr' []))
  exact Prod.mk.inj (Option.some.inj hread)

end BuildingModel.Step
