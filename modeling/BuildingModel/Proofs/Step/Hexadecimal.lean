import BuildingModel.Proofs.Step.Literal
import Mathlib.Data.Nat.Digits.Lemmas

/-!
# Codes in string literals

Escapes give codes of characters by groups of hexadecimal digits. A group of digits is read as its
value to the base 16 (`Group.group?_digits`), and every code with few enough digits has a group
(`Group.code_ofCode`). But not only groups of digits are read: a plus sign may stand in place of the
first digit (`isSome_group?_iff`).
-/

namespace BuildingModel.Step

/-! ## Digits -/

/-- The hexadecimal digits of either case. -/
def hexDigits : List Char :=
  ['0', '1', '2', '3', '4', '5', '6', '7', '8', '9', 'A', 'B', 'C', 'D', 'E', 'F', 'a', 'b', 'c',
    'd', 'e', 'f']

/-- The hexadecimal digits of the lower case in ascending order. -/
def lowerHexDigits : List Char :=
  ['0', '1', '2', '3', '4', '5', '6', '7', '8', '9', 'a', 'b', 'c', 'd', 'e', 'f']

/-- The value of a hexadecimal digit of either case. -/
def hexPlace (c : Char) : Nat :=
  lowerHexDigits.idxOf c.toLower

theorem hexDigit?_of_mem {c : Char} (h : c ∈ hexDigits) : Text.hexDigit? c = some (hexPlace c) := by
  have hall : hexDigits.all fun c => Text.hexDigit? c = some (hexPlace c) := by decide
  exact of_decide_eq_true (List.all_eq_true.1 hall c h)

theorem hexPlace_lt {c : Char} (h : c ∈ hexDigits) : hexPlace c < 16 := by
  have hall : hexDigits.all fun c => hexPlace c < 16 := by decide
  exact of_decide_eq_true (List.all_eq_true.1 hall c h)

theorem toNat_lt_of_mem_hexDigits {c : Char} (h : c ∈ hexDigits) : c.toNat < 0x80 := by
  have hall : hexDigits.all fun c => c.toNat < 0x80 := by decide
  exact of_decide_eq_true (List.all_eq_true.1 hall c h)

theorem toNat_lt_of_hexDigit? {c : Char} {n : Nat} (h : Text.hexDigit? c = some n) :
    c.toNat < 0x80 := by
  by_contra hge
  have hle (d : Char) (hd : d.toNat < 0x80) : ¬ c ≤ d := fun hcd => hge (Nat.lt_of_le_of_lt hcd hd)
  have hdigit : c.isDigit = false :=
    Bool.eq_false_iff.2 fun hd => hge (Text.toNat_lt_of_isAlphanum (by simp [Char.isAlphanum, hd]))
  simp [Text.hexDigit?, hdigit, hle] at h

theorem isSome_hexDigit?_iff {c : Char} : (Text.hexDigit? c).isSome ↔ c ∈ hexDigits := by
  refine ⟨fun h => ?_, fun h => by rw [hexDigit?_of_mem h]; rfl⟩
  obtain ⟨n, hn⟩ := Option.isSome_iff_exists.1 h
  have hcodes : ∀ k < 0x80, (Text.hexDigit? (Char.ofNat k)).isSome = true →
      Char.ofNat k ∈ hexDigits := by decide
  have hmem := hcodes c.toNat (toNat_lt_of_hexDigit? hn)
  rw [Char.ofNat_toNat] at hmem
  exact hmem h

/-- The value of a run of digits, the most significant first. -/
def hexCode (ds : List Char) : Nat :=
  Nat.ofDigits 16 (ds.map hexPlace).reverse

theorem hexCode_cons (c : Char) (ds : List Char) :
    hexCode (c :: ds) = hexPlace c * 16 ^ ds.length + hexCode ds := by
  rw [hexCode, List.map_cons, List.reverse_cons, Nat.ofDigits_append, List.length_reverse,
    List.length_map, Nat.ofDigits_singleton, hexCode]
  ring

theorem hexCode_concat (ds : List Char) (c : Char) :
    hexCode (ds ++ [c]) = hexPlace c + 16 * hexCode ds := by
  rw [hexCode, List.map_append, List.reverse_append]
  exact Nat.ofDigits_cons

theorem hexValue?_of_mem {ds : List Char} (h : ∀ c ∈ ds, c ∈ hexDigits) (start : Nat) :
    hexValue? start ds = some (start * 16 ^ ds.length + hexCode ds) := by
  induction ds generalizing start with
  | nil => simp [hexValue?, hexCode]
  | cons c ds ih =>
    obtain ⟨hc, hds⟩ := List.forall_mem_cons.1 h
    rw [hexValue?, hexDigit?_of_mem hc]
    simp only [ih hds, hexCode_cons, List.length_cons, pow_succ]
    congr 1
    ring

theorem isSome_hexValue?_iff {ds : List Char} {start : Nat} :
    (hexValue? start ds).isSome ↔ ∀ c ∈ ds, c ∈ hexDigits := by
  refine ⟨fun h => ?_, fun h => by rw [hexValue?_of_mem h]; rfl⟩
  induction ds generalizing start with
  | nil => exact nofun
  | cons c ds ih =>
    rw [hexValue?] at h
    cases hc : Text.hexDigit? c with
    | none => simp [hc] at h
    | some d =>
      rw [hc] at h
      exact List.forall_mem_cons.2 ⟨isSome_hexDigit?_iff.1 (by rw [hc]; rfl), ih h⟩

/-! ## Groups -/

theorem group?_of_head {ds : List Char} (hne : ds ≠ []) (hplus : ds.head? ≠ some '+') :
    group? ds = hexValue? 0 ds := by
  unfold group?
  split <;> simp_all

/-- A run of digits is read as its value. -/
theorem group?_of_mem {ds : List Char} (hne : ds ≠ []) (h : ∀ c ∈ ds, c ∈ hexDigits) :
    group? ds = some (hexCode ds) := by
  have hplus : ds.head? ≠ some '+' := fun hhead =>
    absurd (h _ (List.mem_of_mem_head? hhead)) (by decide)
  rw [group?_of_head hne hplus, hexValue?_of_mem h, Nat.zero_mul, Nat.zero_add]

/-- What is read as a number is a run of digits, or one after a plus sign. -/
theorem isSome_group?_iff {g : List Char} : (group? g).isSome ↔
    ∃ ds, ds ≠ [] ∧ (∀ c ∈ ds, c ∈ hexDigits) ∧ (g = ds ∨ g = '+' :: ds) := by
  constructor
  · intro h
    by_cases hplus : g.head? = some '+'
    · obtain ⟨ds, rfl⟩ := List.head?_eq_some_iff.1 hplus
      cases ds with
      | nil => cases h
      | cons c r => exact ⟨c :: r, List.cons_ne_nil _ _, isSome_hexValue?_iff.1 h, .inr rfl⟩
    · have hne : g ≠ [] := by rintro rfl; cases h
      rw [group?_of_head hne hplus] at h
      exact ⟨g, hne, isSome_hexValue?_iff.1 h, .inl rfl⟩
  · rintro ⟨ds, hne, hds, rfl | rfl⟩
    · rw [group?_of_mem hne hds]
      rfl
    · obtain ⟨c, r, rfl⟩ := List.exists_cons_of_ne_nil hne
      exact isSome_hexValue?_iff.2 hds

/-- A group of as many hexadecimal digits as its width. -/
structure Group (width : Nat) where
  /-- The digits, the most significant first. -/
  digits : List Char
  /-- They are hexadecimal. -/
  isHex : ∀ c ∈ digits, c ∈ hexDigits
  /-- There are as many as the width. -/
  length_digits : digits.length = width

namespace Group

variable {width : Nat}

/-- The number that the digits stand for. -/
def code (g : Group width) : Nat :=
  hexCode g.digits

theorem code_lt (g : Group width) : g.code < 16 ^ width := by
  have h := Nat.ofDigits_lt_base_pow_length (b := 16) (l := (g.digits.map hexPlace).reverse)
    (by decide) (by simpa using fun c hc => hexPlace_lt (g.isHex c hc))
  rwa [List.length_reverse, List.length_map, g.length_digits] at h

theorem lt_of_mem_map_code {gs : List (Group width)} : ∀ n ∈ gs.map code, n < 16 ^ width := by
  intro n hn
  obtain ⟨g, -, rfl⟩ := List.mem_map.1 hn
  exact g.code_lt

theorem group?_digits (hwidth : 0 < width) (g : Group width) : group? g.digits = some g.code :=
  group?_of_mem (List.ne_nil_of_length_pos (by rwa [g.length_digits])) g.isHex

/-- The last digits of a number, in the lower case. -/
def digitsOf : (width : Nat) → Nat → List Char
  | 0, _ => []
  | width + 1, n => digitsOf width (n / 16) ++ (lowerHexDigits[n % 16]?).toList

theorem exists_lowerHexDigit (n : Nat) : ∃ c, lowerHexDigits[n % 16]? = some c ∧ c ∈ hexDigits ∧
    hexPlace c = n % 16 := by
  have hall : ∀ k : Fin lowerHexDigits.length, lowerHexDigits[k] ∈ hexDigits ∧
      hexPlace lowerHexDigits[k] = k := by decide
  have hlt : n % 16 < lowerHexDigits.length := Nat.mod_lt _ (by decide)
  exact ⟨lowerHexDigits[n % 16], List.getElem?_eq_getElem hlt, hall ⟨n % 16, hlt⟩⟩

/-- The group of the last digits of a number. -/
def ofCode (width : Nat) (n : Nat) : Group width where
  digits := digitsOf width n
  isHex := by
    induction width generalizing n with
    | zero => exact nofun
    | succ width ih =>
      obtain ⟨c, hc, hmem, -⟩ := exists_lowerHexDigit n
      rw [digitsOf, hc]
      exact List.forall_mem_append.2 ⟨ih _, by simpa using hmem⟩
  length_digits := by
    induction width generalizing n with
    | zero => rfl
    | succ width ih =>
      obtain ⟨c, hc, -⟩ := exists_lowerHexDigit n
      rw [digitsOf, hc, List.length_append, ih]
      rfl

/-- A number with few enough digits is that of its group. -/
theorem code_ofCode {n : Nat} (h : n < 16 ^ width) : (ofCode width n).code = n := by
  change hexCode (digitsOf width n) = n
  induction width generalizing n with
  | zero => simp_all [digitsOf, hexCode]
  | succ width ih =>
    obtain ⟨c, hc, -, hplace⟩ := exists_lowerHexDigit n
    rw [digitsOf, hc, Option.toList_some, hexCode_concat, hplace, ih, Nat.mod_add_div]
    exact Nat.div_lt_of_lt_mul (by rwa [← pow_succ'])

end Group

/-! ## Groups one after the other -/

theorem groups_flatten {width : Nat} {gs : List (List Char)} (h : ∀ g ∈ gs, g.length = width) :
    groups width gs.length gs.flatten = gs := by
  induction gs with
  | nil => rfl
  | cons g gs ih =>
    obtain ⟨hg, hgs⟩ := List.forall_mem_cons.1 h
    rw [List.length_cons, groups, List.flatten_cons, ← hg, List.take_left, List.drop_left, hg,
      ih hgs]

theorem length_flatten_of_length {width : Nat} {gs : List (List Char)}
    (h : ∀ g ∈ gs, g.length = width) : gs.flatten.length = width * gs.length := by
  rw [List.length_flatten, List.map_eq_replicate_iff.2 h, List.sum_replicate_nat, Nat.mul_comm]

/-- A text is cut into groups if there are as many characters as they take. -/
theorem flatten_groups {width count : Nat} {s : List Char} (h : s.length = width * count) :
    (groups width count s).flatten = s ∧ ∀ g ∈ groups width count s, g.length = width := by
  induction count generalizing s with
  | zero => exact ⟨(List.eq_nil_of_length_eq_zero h).symm, nofun⟩
  | succ count ih =>
    rw [Nat.mul_succ] at h
    obtain ⟨hflatten, hlength⟩ := ih (s := s.drop width) (by rw [List.length_drop, h]; omega)
    rw [groups, List.flatten_cons, hflatten]
    exact ⟨List.take_append_drop _ _, List.forall_mem_cons.2
      ⟨by rw [List.length_take, h]; omega, hlength⟩⟩

end BuildingModel.Step
