import BuildingModel.Step.Literal
import Mathlib.Data.List.Basic

/-!
# UTF-16

A character has one UTF-16 unit or a pair of surrogates (`units`). A sequence of units is read as
the characters whose units follow one another in it; a surrogate that is not part of a pair is read
as the replacement character (`Utf16`). Every sequence is read in one way, which `ofUnits` finds
(`utf16_iff`).
-/

namespace BuildingModel.Step

/-! ## Characters and codes -/

theorem toNat_charOfCode {n : Nat} (h : n.isValidChar) : (charOfCode n).toNat = n := by
  rw [charOfCode, dif_pos h]
  rfl

theorem charOfCode_toNat (c : Char) : charOfCode c.toNat = c :=
  Char.toNat_inj.1 (toNat_charOfCode c.valid)

theorem charOfCode_of_not_valid {n : Nat} (h : ¬ n.isValidChar) : charOfCode n = '\uFFFD' :=
  dif_neg h

theorem ofNat_eq_charOfCode {n : Nat} (h : n.isValidChar) : Char.ofNat n = charOfCode n := by
  rw [Char.ofNat, charOfCode, dif_pos h, dif_pos h]

theorem isValidChar_iff {n : Nat} : n.isValidChar ↔ n < 0x110000 ∧ ¬ (0xD800 ≤ n ∧ n < 0xE000) := by
  simp only [Nat.isValidChar]
  omega

/-! ## Units -/

/-- The UTF-16 units of a character. -/
def units (c : Char) : List Nat :=
  if c.toNat < 0x10000 then [c.toNat]
  else [0xD800 + (c.toNat - 0x10000) / 0x400, 0xDC00 + (c.toNat - 0x10000) % 0x400]

/-- The first unit of a pair of surrogates and the second one. -/
def IsPair (u v : Nat) : Prop :=
  (0xD800 ≤ u ∧ u < 0xDC00) ∧ 0xDC00 ≤ v ∧ v < 0xE000

/-- How a sequence of units is read. -/
inductive Utf16 : List Nat → List Char → Prop
  /-- The end. -/
  | nil : Utf16 [] []
  /-- The units of a character. -/
  | char {c : Char} {us : List Nat} {s : List Char} : Utf16 us s → Utf16 (units c ++ us) (c :: s)
  /-- A surrogate that is not followed by its partner. -/
  | lone {u : Nat} {us : List Nat} {s : List Char} : 0xD800 ≤ u ∧ u < 0xE000 →
    (∀ v ∈ us.head?, ¬ IsPair u v) → Utf16 us s → Utf16 (u :: us) ('\uFFFD' :: s)

theorem ofUnits_pair {u v : Nat} (h : IsPair u v) (us : List Nat) :
    ofUnits (u :: v :: us) =
      charOfCode (0x10000 + (u - 0xD800) * 0x400 + (v - 0xDC00)) :: ofUnits us := by
  obtain ⟨hu, hv⟩ := h
  rw [ofUnits, if_pos (by simp [hu, hv])]

theorem ofUnits_cons {u : Nat} {us : List Nat} (h : ∀ v ∈ us.head?, ¬ IsPair u v) :
    ofUnits (u :: us) = charOfCode u :: ofUnits us := by
  cases us with
  | nil => rfl
  | cons v us =>
    have hpair : ¬ IsPair u v := h v rfl
    rw [ofUnits, if_neg (by simpa [IsPair, and_assoc] using hpair)]

/-- The units of a character are read as the character. -/
theorem ofUnits_units_append (c : Char) (us : List Nat) :
    ofUnits (units c ++ us) = c :: ofUnits us := by
  obtain ⟨hlt, hsurrogate⟩ := isValidChar_iff.1 c.valid
  rw [units]
  split
  · rw [List.singleton_append, ofUnits_cons, charOfCode_toNat]
    intro v hv hpair
    exact hsurrogate ⟨hpair.1.1, Nat.lt_trans hpair.1.2 (by decide)⟩
  next hlarge =>
    have hlt : c.toNat < 0x110000 := hlt
    rw [List.cons_append, List.singleton_append, ofUnits_pair ⟨by omega, by omega⟩]
    have hcode : 0x10000 + (0xD800 + (c.toNat - 0x10000) / 0x400 - 0xD800) * 0x400 +
        (0xDC00 + (c.toNat - 0x10000) % 0x400 - 0xDC00) = c.toNat := by omega
    rw [hcode, charOfCode_toNat]

theorem ofUnits_flatMap_units (s : List Char) : ofUnits (s.flatMap units) = s := by
  induction s with
  | nil => rfl
  | cons c s ih => rw [List.flatMap_cons, ofUnits_units_append, ih]

theorem units_charOfCode_of_pair {u v : Nat} (h : IsPair u v) :
    units (charOfCode (0x10000 + (u - 0xD800) * 0x400 + (v - 0xDC00))) = [u, v] := by
  obtain ⟨hu, hv⟩ := h
  rw [units, toNat_charOfCode (isValidChar_iff.2 ⟨by omega, by omega⟩), if_neg (by omega),
    List.cons.injEq, List.cons.injEq]
  exact ⟨by omega, by omega, rfl⟩

theorem utf16_ofUnits {us : List Nat} (h : ∀ u ∈ us, u < 0x10000) : Utf16 us (ofUnits us) := by
  have hcons {u : Nat} {us : List Nat} (hu : u < 0x10000) (hpair : ∀ v ∈ us.head?, ¬ IsPair u v)
      (hus : Utf16 us (ofUnits us)) : Utf16 (u :: us) (charOfCode u :: ofUnits us) := by
    by_cases hsurrogate : 0xD800 ≤ u ∧ u < 0xE000
    · rw [charOfCode_of_not_valid fun hvalid => (isValidChar_iff.1 hvalid).2 hsurrogate]
      exact .lone hsurrogate hpair hus
    · have hcode := toNat_charOfCode (isValidChar_iff.2 ⟨by omega, hsurrogate⟩)
      have hunits : units (charOfCode u) = [u] := by rw [units, hcode, if_pos hu]
      have hchar := Utf16.char (c := charOfCode u) hus
      rwa [hunits] at hchar
  fun_induction ofUnits us with
  | case1 => exact .nil
  | case2 u v r hpair ih =>
    have hpair : IsPair u v := by simpa [IsPair, and_assoc] using hpair
    have hchar := Utf16.char (c := charOfCode (0x10000 + (u - 0xD800) * 0x400 + (v - 0xDC00)))
      (ih fun w hw => h w (by simp [hw]))
    rwa [units_charOfCode_of_pair hpair] at hchar
  | case3 u v r hpair ih =>
    refine hcons (h u List.mem_cons_self) ?_ (ih fun w hw => h w (List.mem_cons_of_mem _ hw))
    rintro w ⟨⟩
    simpa [IsPair, and_assoc] using hpair
  | case4 u => exact hcons (h u List.mem_cons_self) nofun .nil

/-- Every sequence of units is read in one way. -/
theorem utf16_iff {us : List Nat} {s : List Char} (h : ∀ u ∈ us, u < 0x10000) :
    Utf16 us s ↔ ofUnits us = s := by
  refine ⟨fun hs => ?_, fun hs => hs ▸ utf16_ofUnits h⟩
  clear h
  induction hs with
  | nil => rfl
  | char _ ih => rw [ofUnits_units_append, ih]
  | lone hsurrogate hpair _ ih =>
    rw [ofUnits_cons hpair, ih,
      charOfCode_of_not_valid fun hvalid => (isValidChar_iff.1 hvalid).2 hsurrogate]

theorem length_ofUnits_le (us : List Nat) : (ofUnits us).length ≤ us.length := by
  fun_induction ofUnits us with
  | case1 => exact Nat.le_refl _
  | case2 u v r hpair ih => exact Nat.succ_le_succ (Nat.le_succ_of_le ih)
  | case3 u v r hpair ih => exact Nat.succ_le_succ ih
  | case4 u => exact Nat.le_refl _

end BuildingModel.Step
