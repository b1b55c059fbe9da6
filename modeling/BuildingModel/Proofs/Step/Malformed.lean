import BuildingModel.Proofs.Step.Escape

/-!
# Malformed escapes

An escape that gives codes by hexadecimal digits is kept as it is if its payload cannot be cut into
groups that are read as numbers (`decode_directive_iff`). That is not to say that all other payloads
are groups of digits: a group may have a plus sign in place of its first digit, and an escape with
one is resolved although it is malformed (`decode_signed`).
-/

namespace BuildingModel.Step

/-! ## Directives -/

/-- The escapes that give codes by hexadecimal digits. -/
inductive Directive.Kind where
  /-- One code of 8 bits. -/
  | octet
  /-- UTF-16 units. -/
  | wide
  /-- Codes of 32 bits. -/
  | wider
  deriving DecidableEq

namespace Directive.Kind

/-- What stands before the payload. -/
def opening : Kind → List Char
  | octet => ['\\', 'X', '\\']
  | wide => ['\\', 'X', '2', '\\']
  | wider => ['\\', 'X', '4', '\\']

/-- What stands behind the payload. -/
def closing : Kind → List Char
  | octet => []
  | wide => wideEnd
  | wider => wideEnd

/-- The number of digits of a group. -/
def width : Kind → Nat
  | octet => 2
  | wide => 4
  | wider => 8

theorem width_pos (k : Kind) : 0 < k.width := by
  cases k <;> decide

theorem exists_opening_eq (k : Kind) :
    ∃ letters, Plain letters ∧ k.opening = '\\' :: (letters ++ ['\\']) := by
  cases k with
  | octet => exact ⟨['X'], by decide, rfl⟩
  | wide => exact ⟨['X', '2'], by decide, rfl⟩
  | wider => exact ⟨['X', '4'], by decide, rfl⟩

end Directive.Kind

/-- An escape of such a kind with any payload that nothing but the escape itself is made of. -/
structure Directive where
  /-- The kind. -/
  kind : Directive.Kind
  /-- The text in place of the digits. -/
  payload : List Char
  /-- There is one. -/
  payload_ne_nil : payload ≠ []
  /-- It has no escapes. -/
  plain : Plain payload
  /-- It does not make one with the backslash before it. -/
  head_not_mem : ∀ c ∈ payload.head?, c ∉ ['S', 'P', 'X']
  /-- An octet has two characters. -/
  length_octet : kind = .octet → payload.length = 2

namespace Directive

variable {d : Directive} {u v : List Char}

/-- How the escape is written. -/
def text (d : Directive) : List Char :=
  d.kind.opening ++ d.payload ++ d.kind.closing

/-- The payload is not made of groups of hexadecimal digits. -/
def Malformed (d : Directive) : Prop :=
  (∃ c ∈ d.payload, c ∉ hexDigits) ∨ ¬ d.kind.width ∣ d.payload.length

/-- The payload is made of groups of hexadecimal digits that may have a plus sign in place of the
first digit. -/
def Accepted (d : Directive) : Prop :=
  ∃ gs : List (List Char), gs.flatten = d.payload ∧ ∀ g ∈ gs, g.length = d.kind.width ∧
    ∃ ds, ds ≠ [] ∧ (∀ c ∈ ds, c ∈ hexDigits) ∧ (g = ds ∨ g = '+' :: ds)

theorem accepted_iff : d.Accepted ↔ ∃ gs : List (List Char), gs.flatten = d.payload ∧
    ∀ g ∈ gs, g.length = d.kind.width ∧ (group? g).isSome := by
  simp only [Accepted, isSome_group?_iff]

/-- Groups of digits are accepted. -/
theorem accepted_of_not_malformed (h : ¬ d.Malformed) : d.Accepted := by
  obtain ⟨hhex, hdvd⟩ := not_or.1 h
  simp only [not_exists, not_and, not_not] at hhex hdvd
  obtain ⟨hflatten, hlength⟩ := flatten_groups (Nat.mul_div_cancel' hdvd).symm
  refine ⟨_, hflatten, fun g hg => ⟨hlength g hg, g, ?_, fun c hc => ?_, .inl rfl⟩⟩
  · exact List.ne_nil_of_length_pos (hlength g hg ▸ d.kind.width_pos)
  · exact hhex c (hflatten ▸ List.mem_flatten_of_mem hg hc)

/-- Without plus signs, nothing else is. -/
theorem accepted_iff_not_malformed (h : '+' ∉ d.payload) : d.Accepted ↔ ¬ d.Malformed := by
  refine ⟨?_, accepted_of_not_malformed⟩
  rintro ⟨gs, hflatten, hgs⟩
  have hdigits : ∀ g ∈ gs, ∀ c ∈ g, c ∈ hexDigits := by
    intro g hg
    obtain ⟨-, ds, -, hds, rfl | rfl⟩ := hgs g hg
    · exact hds
    · exact absurd (hflatten ▸ List.mem_flatten_of_mem hg List.mem_cons_self) h
  rintro (⟨c, hc, hnot⟩ | hdvd)
  · obtain ⟨g, hg, hcg⟩ := List.mem_flatten.1 (hflatten ▸ hc)
    exact hnot (hdigits g hg c hcg)
  · rw [← hflatten, length_flatten_of_length fun g hg => (hgs g hg).1] at hdvd
    exact hdvd (Nat.dvd_mul_right _ _)

end Directive

/-! ## Backslashes that make no escape -/

/-- Every escape other than a doubled backslash has one of three letters behind its backslash. -/
theorem escape?_backslash_of_head {r : List Char} (h : ∀ c ∈ r.head?, c ∉ ['\\', 'S', 'P', 'X']) :
    escape? ('\\' :: r) = none := by
  unfold escape?
  split <;> simp_all

/-- Every escape that starts with a backslash has a second one. -/
theorem escape?_backslash_of_not_mem {r : List Char} (h : '\\' ∉ r) :
    escape? ('\\' :: r) = none := by
  unfold escape?
  split <;> simp_all

/-- A backslash that makes no escape stands for itself, as does the text up to the next one. -/
theorem decode_backslash_append {s r : List Char} (h : escape? ('\\' :: (s ++ r)) = none)
    (hs : Plain s) : decode ('\\' :: (s ++ r)) = '\\' :: (s ++ decode r) := by
  rw [decode, decodeFrom, h]
  exact congrArg ('\\' :: ·) (decode_run_append hs r)

theorem decode_plain {s : List Char} (h : Plain s) : decode s = s := by
  simpa [decode, decodeFrom] using decode_run_append h []

/-! ## Reading a directive -/

/-- Groups that are read make a wide escape, with at most one character for each. -/
theorem exists_wide?_of_groups {width : Nat} (hwidth : 0 < width) {body : List Char}
    (hne : body ≠ []) {gs : List (List Char)} (hflatten : gs.flatten = body)
    (hgs : ∀ g ∈ gs, g.length = width ∧ (group? g).isSome) (r : List Char) :
    ∃ chars, wide? width (body ++ (wideEnd ++ r)) = some (chars, body.length + 4) ∧
      chars.length ≤ body.length := by
  subst hflatten
  have hnil : gs ≠ [] := by
    rintro rfl
    exact hne rfl
  have hlength : ∀ g ∈ gs, g.length = width := fun g hg => (hgs g hg).1
  have hcount : gs.length ≤ gs.flatten.length :=
    length_flatten_of_length hlength ▸ Nat.le_mul_of_pos_left _ hwidth
  obtain ⟨codes, hcodes⟩ := Option.isSome_iff_exists.1 (isSome_mapM_iff.2 fun g hg => (hgs g hg).2)
  have hmap : codes.length = gs.length := length_of_mapM_eq_some hcodes
  refine ⟨_, wide?_flatten hwidth hnil hlength hcodes r, ?_⟩
  split
  · exact Nat.le_trans (length_ofUnits_le codes) (hmap ▸ hcount)
  · rw [List.length_map]
    exact hmap ▸ hcount

namespace Directive

variable {d : Directive} {u v : List Char}

theorem text_of_octet (hkind : d.kind = .octet) :
    ∃ a b, d.payload = [a, b] ∧ d.text = ['\\', 'X', '\\', a, b] := by
  obtain ⟨a, b, hab⟩ := List.length_eq_two.1 (d.length_octet hkind)
  exact ⟨a, b, hab, by simp [text, hkind, hab, Kind.opening, Kind.closing]⟩

theorem escape?_of_octet (hkind : d.kind = .octet) (v : List Char) :
    escape? (d.text ++ v) = (group? d.payload).map fun n => ([Char.ofNat n], d.text.length) := by
  obtain ⟨a, b, hab, htext⟩ := text_of_octet hkind
  rw [htext, hab]
  rfl

theorem escape?_of_not_octet (hkind : d.kind ≠ .octet) (v : List Char) :
    escape? (d.text ++ v) =
      (wide? d.kind.width (d.payload ++ (wideEnd ++ v))).map fun p => (p.1, p.2 + 4) := by
  cases hk : d.kind with
  | octet => exact absurd hk hkind
  | wide => simp [text, hk, Kind.opening, Kind.closing, Kind.width, escape?]
  | wider => simp [text, hk, Kind.opening, Kind.closing, Kind.width, escape?]

theorem length_text_of_not_octet (hkind : d.kind ≠ .octet) :
    d.text.length = d.payload.length + 4 + 4 := by
  cases hk : d.kind with
  | octet => exact absurd hk hkind
  | wide => simp [text, hk, Kind.opening, Kind.closing, wideEnd]
  | wider => simp [text, hk, Kind.opening, Kind.closing, wideEnd]

/-- What is accepted is an escape, and stands for fewer characters than it has. -/
theorem exists_escape?_of_accepted (h : d.Accepted) (v : List Char) :
    ∃ chars, escape? (d.text ++ v) = some (chars, d.text.length) ∧
      chars.length < d.text.length := by
  obtain ⟨gs, hflatten, hgs⟩ := accepted_iff.1 h
  by_cases hkind : d.kind = .octet
  · -- Two characters are a single group.
    have hone : gs.length = 1 := by
      have hcount := length_flatten_of_length fun g hg => (hgs g hg).1
      rw [hflatten, d.length_octet hkind, hkind, Kind.width] at hcount
      omega
    obtain ⟨g, rfl⟩ := List.length_eq_one_iff.1 hone
    obtain rfl : g = d.payload := by simpa using hflatten
    obtain ⟨n, hn⟩ := Option.isSome_iff_exists.1 (hgs _ List.mem_cons_self).2
    obtain ⟨a, b, -, htext⟩ := text_of_octet hkind
    refine ⟨[Char.ofNat n], by rw [escape?_of_octet hkind, hn, Option.map_some], ?_⟩
    simp [htext]
  · obtain ⟨chars, hwide, hle⟩ :=
      exists_wide?_of_groups d.kind.width_pos d.payload_ne_nil hflatten hgs v
    rw [escape?_of_not_octet hkind, hwide, length_text_of_not_octet hkind]
    exact ⟨chars, rfl, by omega⟩

/-- What makes an escape is accepted. -/
theorem accepted_of_isSome_escape? (h : (escape? (d.text ++ v)).isSome) : d.Accepted := by
  rw [accepted_iff]
  by_cases hkind : d.kind = .octet
  · rw [escape?_of_octet hkind, Option.isSome_map] at h
    refine ⟨[d.payload], List.flatten_singleton, fun g hg => ?_⟩
    obtain rfl := List.mem_singleton.1 hg
    exact ⟨by rw [d.length_octet hkind, hkind, Kind.width], h⟩
  · rw [escape?_of_not_octet hkind, Option.isSome_map] at h
    obtain ⟨gs, -, hgs⟩ := exists_of_isSome_wide? (fun hmem => (d.plain _ hmem).2 rfl) h
    exact ⟨gs, hgs⟩

theorem decode_closing_append (k : Kind) (hv : Plain v) :
    decode (k.closing ++ v) = k.closing ++ v := by
  have hwide : decode (wideEnd ++ v) = wideEnd ++ v := by
    have hmem : '\\' ∉ v := fun hmem => (hv _ hmem).2 rfl
    have hfirst : escape? ('\\' :: (['X', '0'] ++ '\\' :: v)) = none := rfl
    have hlast : escape? ('\\' :: ([] ++ v)) = none := escape?_backslash_of_not_mem hmem
    have hrest := decode_backslash_append hlast nofun
    rw [List.nil_append, List.nil_append, decode_plain hv] at hrest
    calc decode (wideEnd ++ v) = decode ('\\' :: (['X', '0'] ++ '\\' :: v)) := rfl
      _ = '\\' :: (['X', '0'] ++ decode ('\\' :: v)) := decode_backslash_append hfirst (by decide)
      _ = wideEnd ++ v := by rw [hrest]; rfl
  cases k with
  | octet => exact decode_plain hv
  | wide => exact hwide
  | wider => exact hwide

/-- What makes no escape is kept. -/
theorem decode_text_append (h : escape? (d.text ++ v) = none) (hv : Plain v) :
    decode (d.text ++ v) = d.text ++ v := by
  obtain ⟨letters, hletters, hopening⟩ := d.kind.exists_opening_eq
  have htext : d.text ++ v =
      '\\' :: (letters ++ '\\' :: (d.payload ++ (d.kind.closing ++ v))) := by
    simp [text, hopening]
  have hsecond : escape? ('\\' :: (d.payload ++ (d.kind.closing ++ v))) = none := by
    obtain ⟨c, r, hpayload⟩ := List.exists_cons_of_ne_nil d.payload_ne_nil
    refine escape?_backslash_of_head fun c' hc' => ?_
    have hbackslash := (d.plain c (hpayload ▸ List.mem_cons_self)).2
    have hletter := d.head_not_mem c (hpayload ▸ rfl)
    rw [hpayload] at hc'
    obtain rfl : c = c' := by simpa using hc'
    exact List.not_mem_cons_of_ne_of_not_mem hbackslash hletter
  -- No backslash makes an escape, neither the first one nor those on both sides of the payload.
  rw [htext] at h ⊢
  rw [decode_backslash_append h hletters, decode_backslash_append hsecond d.plain,
    decode_closing_append d.kind hv]

/-- An escape is kept among characters that are part of none exactly if its payload is not accepted.
Without plus signs in the payload, this is so exactly if it is malformed. -/
theorem decode_directive_iff (hu : Plain u) (hv : Plain v) (d : Directive) :
    (decode (u ++ d.text ++ v) = u ++ d.text ++ v ↔ ¬ d.Accepted) ∧
      ('+' ∉ d.payload → (decode (u ++ d.text ++ v) = u ++ d.text ++ v ↔ d.Malformed)) := by
  have hiff : decode (u ++ d.text ++ v) = u ++ d.text ++ v ↔ ¬ d.Accepted := by
    rw [List.append_assoc, decode_run_append hu, List.append_cancel_left_eq]
    constructor
    · -- What is accepted gets shorter.
      intro hkept haccepted
      obtain ⟨chars, hescape, hlt⟩ := exists_escape?_of_accepted haccepted v
      have hne : d.text ≠ [] := List.ne_nil_of_length_pos (Nat.zero_lt_of_lt hlt)
      rw [decode_escape_append hne hescape, decode_plain hv, List.append_cancel_right_eq] at hkept
      exact absurd (hkept ▸ hlt) (Nat.lt_irrefl _)
    · intro hnot
      refine decode_text_append (Option.not_isSome_iff_eq_none.1 ?_) hv
      exact mt accepted_of_isSome_escape? hnot
  refine ⟨hiff, fun hplus => hiff.trans ?_⟩
  rw [accepted_iff_not_malformed hplus, not_not]

/-- An escape with a letter that is no digit. -/
def misspelt : Directive where
  kind := .wide
  payload := ['0', '0', 'G', '1']
  payload_ne_nil := by decide
  plain := by decide
  head_not_mem := by simp
  length_octet := by decide

theorem decode_directive_iff_misspelt :
    Plain ['a'] ∧ Plain ['b'] ∧ '+' ∉ misspelt.payload ∧ misspelt.Malformed ∧
      decode (['a'] ++ misspelt.text ++ ['b']) = ['a'] ++ misspelt.text ++ ['b'] := by
  have hmalformed : misspelt.Malformed := .inl ⟨'G', by decide, by decide⟩
  refine ⟨by decide, by decide, by decide, hmalformed, ?_⟩
  exact ((decode_directive_iff (by decide) (by decide) misspelt).2 (by decide)).2 hmalformed

/-- An escape with a plus sign in place of its first digit. -/
def signed : Directive where
  kind := .octet
  payload := ['+', '5']
  payload_ne_nil := by decide
  plain := by decide
  head_not_mem := by simp
  length_octet := by decide

/-- A malformed escape need not be kept. -/
theorem decode_signed :
    signed.text = ['\\', 'X', '\\', '+', '5'] ∧ signed.Malformed ∧ decode signed.text = ['\x05'] ∧
      ¬ ∀ (u v : List Char) (d : Directive), Plain u → Plain v → d.Malformed →
        decode (u ++ d.text ++ v) = u ++ d.text ++ v := by
  have hmalformed : signed.Malformed := .inl ⟨'+', by decide, by decide⟩
  refine ⟨rfl, hmalformed, by decide, fun h => ?_⟩
  have hkept : decode ([] ++ signed.text ++ []) ≠ [] ++ signed.text ++ [] := by decide
  exact hkept (h [] [] signed (by decide) (by decide) hmalformed)

end Directive

end BuildingModel.Step
