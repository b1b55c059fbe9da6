import BuildingModel.Json.Parser
import BuildingModel.Render.Template

/-!
# Literals in templates

A template names a type of elements in a string literal, whose text is written between quotes
character by character. Whatever follows, the first quote behind the opening one that is no part of
an escape is the closing one (`units?_body`), so the name of a type does not become code. There are
no control characters below U+0020 in a literal, and reading it gives the text back, unit by unit as
well as by the parser (`stringBody_body`).
-/

namespace BuildingModel

namespace Json

open BuildingModel.Json.Parser (hexUnit? escaped? stringBody)

/-! ## Units -/

/-- The units of a string up to its closing quote, with what follows the quote. A backslash makes a
unit with the next character, or with a `u` and four hexadecimal digits. -/
def units? : List Char → Option (List (List Char) × List Char)
  | [] => none
  | '"' :: r => some ([], r)
  | '\\' :: 'u' :: a :: b :: c :: d :: r =>
    if (hexUnit? a b c d).isSome then
      (units? r).map fun (us, rest) => (['\\', 'u', a, b, c, d] :: us, rest)
    else none
  | '\\' :: c :: r => if c = 'u' then none else
      (units? r).map fun (us, rest) => (['\\', c] :: us, rest)
  | c :: r => if c = '\\' then none else
      (units? r).map fun (us, rest) => ([c] :: us, rest)

/-- The character that a unit stands for. Surrogates stand for none. -/
def unitValue? : List Char → Option Char
  | [c] => some c
  | ['\\', c] => escaped? c
  | ['\\', 'u', a, b, c, d] =>
    ((hexUnit? a b c d).filter fun n => n < 0xD800 || 0xE000 ≤ n).map Char.ofNat
  | _ => none

/-- A code below U+0020 is read from the two digits that are written behind two zeros. -/
theorem hexUnit?_hexDigit {n : Nat} (h : n < 0x20) :
    hexUnit? '0' '0' (hexDigit (n / 16)) (hexDigit (n % 16)) = some n := by
  have hall : ∀ n < 0x20, hexUnit? '0' '0' (hexDigit (n / 16)) (hexDigit (n % 16)) = some n := by
    decide
  exact hall n h

/-- How a character is written: itself, a backslash and a letter, or a backslash and digits. -/
theorem escape_cases (c : Char) :
    (escape c = [c] ∧ c ≠ '"' ∧ c ≠ '\\' ∧ 0x20 ≤ c.toNat) ∨
      (∃ e, escape c = ['\\', e] ∧ e ≠ 'u' ∧ 0x20 ≤ e.toNat ∧ escaped? e = some c) ∨
        escape c = ['\\', 'u', '0', '0', hexDigit (c.toNat / 16), hexDigit (c.toNat % 16)] ∧
          c.toNat < 0x20 := by
  unfold escape
  split
  · exact .inr (.inl ⟨_, rfl, by decide, by decide, rfl⟩)
  · exact .inr (.inl ⟨_, rfl, by decide, by decide, rfl⟩)
  · exact .inr (.inl ⟨_, rfl, by decide, by decide, rfl⟩)
  · exact .inr (.inl ⟨_, rfl, by decide, by decide, rfl⟩)
  · exact .inr (.inl ⟨_, rfl, by decide, by decide, rfl⟩)
  · exact .inr (.inl ⟨_, rfl, by decide, by decide, rfl⟩)
  · exact .inr (.inl ⟨_, rfl, by decide, by decide, rfl⟩)
  · next hquote hbackslash _ _ _ _ _ =>
    split
    · next hlt => exact .inr (.inr ⟨rfl, hlt⟩)
    · next hge => exact .inl ⟨rfl, hquote, hbackslash, Nat.le_of_not_lt hge⟩

/-- The text of a character is a unit, whatever follows. -/
theorem units?_escape (c : Char) (r : List Char) :
    units? (escape c ++ r) = (units? r).map fun (us, rest) => (escape c :: us, rest) := by
  rcases escape_cases c with ⟨h, hquote, hbackslash, -⟩ | ⟨e, h, hu, -⟩ | ⟨h, hlt⟩
  · rw [h, List.singleton_append, units?, if_neg hbackslash]
    -- No earlier case of the reader applies: those are quotes and backslashes.
    · exact hquote
    · exact fun _ _ _ _ _ he => absurd he hbackslash
    · exact fun _ _ he => absurd he hbackslash
  · rw [h, List.cons_append, List.singleton_append, units?, if_neg hu]
    exact fun _ _ _ _ _ he => absurd he hu
  · rw [h]
    simp only [List.cons_append, List.nil_append]
    rw [units?, if_pos (by rw [hexUnit?_hexDigit hlt]; rfl)]

/-- The text of a character stands for the character. -/
theorem unitValue?_escape (c : Char) : unitValue? (escape c) = some c := by
  rcases escape_cases c with ⟨h, -⟩ | ⟨e, h, -, -, he⟩ | ⟨h, hlt⟩
  · rw [h]
    rfl
  · rw [h, unitValue?, he]
  · rw [h, unitValue?, hexUnit?_hexDigit hlt, Option.filter_some, if_pos, Option.map_some,
      Char.ofNat_toNat]
    simp only [Bool.or_eq_true, decide_eq_true_eq]
    omega

/-- A character is read from its text, whatever follows. -/
theorem stringBody_escape (before : List Char) (c : Char) (r : List Char) :
    stringBody before (escape c ++ r) = stringBody (c :: before) r := by
  rcases escape_cases c with ⟨h, hquote, hbackslash, hge⟩ | ⟨e, h, hu, -, he⟩ | ⟨h, hlt⟩
  · rw [h, List.singleton_append, stringBody, if_neg (by simpa using hbackslash),
      if_neg (Nat.not_lt.2 hge)]
    -- Again no earlier case applies.
    · exact hquote
    · exact fun _ _ _ _ _ hc => absurd hc hbackslash
    · exact fun _ hc => absurd hc hbackslash
    · exact fun _ _ hc => absurd hc hbackslash
  · rw [h, List.cons_append, List.singleton_append, stringBody, he]
    · exact fun _ _ _ _ _ hc => absurd hc hu
    · exact hu
  · have hplain : (decide (c.toNat < 0xD800) || decide (0xE000 ≤ c.toNat)) = true := by
      simp only [Bool.or_eq_true, decide_eq_true_eq]
      omega
    rw [h]
    simp only [List.cons_append, List.nil_append]
    rw [stringBody, hexUnit?_hexDigit hlt]
    simp only [hplain, if_true, Char.ofNat_toNat]

/-- No character below U+0020 is written. -/
theorem le_of_mem_escape {c d : Char} (h : d ∈ escape c) : 0x20 ≤ d.toNat := by
  rcases escape_cases c with ⟨hc, -, -, hge⟩ | ⟨e, hc, -, hge, -⟩ | ⟨hc, hlt⟩
  · rw [hc, List.mem_singleton] at h
    rwa [h]
  · rw [hc, List.mem_cons, List.mem_singleton] at h
    rcases h with rfl | rfl
    · decide
    · exact hge
  · have hdigit : ∀ n < 16, 0x20 ≤ (hexDigit n).toNat := by decide
    simp only [hc, List.mem_cons, List.not_mem_nil, or_false] at h
    rcases h with rfl | rfl | rfl | rfl | rfl | rfl
    · decide
    · decide
    · decide
    · decide
    · exact hdigit _ (by omega)
    · exact hdigit _ (by omega)

/-! ## Literals -/

/-- The text between the quotes of a literal. -/
def body (s : String) : List Char :=
  s.toList.flatMap escape

theorem literal_eq (s : String) : literal s = '"' :: (body s ++ ['"']) :=
  rfl

/-- The units of a literal are the texts of its characters, and the first quote behind them is the
closing one. -/
theorem units?_body (s : String) (rest : List Char) :
    units? (body s ++ '"' :: rest) = some (s.toList.map escape, rest) := by
  rw [body]
  induction s.toList with
  | nil => rw [List.flatMap_nil, List.nil_append, units?, List.map_nil]
  | cons c cs ih =>
    rw [List.flatMap_cons, List.append_assoc, units?_escape, ih, Option.map_some, List.map_cons]

example : units? "x\\\"; //\";".toList = some ("x\"; //".toList.map escape, [';']) := by decide

theorem mapM_unitValue?_escape (cs : List Char) : (cs.map escape).mapM unitValue? = some cs := by
  induction cs with
  | nil => rfl
  | cons c cs ih =>
    rw [List.map_cons, List.mapM_cons, unitValue?_escape, ih]
    rfl

/-- A literal is read back, whatever follows. -/
theorem stringBody_body (s : String) (rest : List Char) :
    stringBody [] (body s ++ '"' :: rest) = .ok (s.toList, rest) := by
  have h (before cs : List Char) :
      stringBody before (cs.flatMap escape ++ '"' :: rest) = .ok (before.reverse ++ cs, rest) := by
    induction cs generalizing before with
    | nil => rw [List.flatMap_nil, List.nil_append, stringBody, List.append_nil]
    | cons c cs ih =>
      rw [List.flatMap_cons, List.append_assoc, stringBody_escape, ih, List.reverse_cons,
        List.append_assoc, List.singleton_append]
  exact h [] s.toList

theorem le_of_mem_literal {s : String} {c : Char} (h : c ∈ literal s) : 0x20 ≤ c.toNat := by
  rw [literal_eq, List.mem_cons, List.mem_append, List.mem_singleton, body, List.mem_flatMap] at h
  rcases h with rfl | ⟨d, -, h⟩ | rfl
  · decide
  · exact le_of_mem_escape h
  · decide

end Json

namespace Render

open Json (units? unitValue?)
open Json.Parser (stringBody)

/-! ## Templates -/

theorem typeName_of_unknown {name tag : String} (h : EntityType.ofLabel name = .unknown tag) :
    typeName name = String.ofList (Text.trim name.toList) := by
  rw [typeName, h]
  rw [EntityType.ofLabel] at h
  split at h
  · cases h
  · exact (EntityType.unknown.inj h).symm

/-- The template for the elements of a type has the type in one literal between fixed texts. The
first quote of the literal that is no part of an escape is its last character, whatever follows. It
has none of the characters below U+0020, which literals must not have, and it stands for the label
of the type, or for the name without white space around it if there is no such type. -/
theorem elementsTemplate_literal (name : String) :
    ∃ (inner : List Char) (units : List (List Char)),
      elementsTemplate name = prelude ++ "local elementType = "
        ++ String.ofList ('"' :: (inner ++ ['"'])) ++ ";\n" ++ elementsBody ∧
      (∀ rest, units? (inner ++ '"' :: rest) = some (units, rest)) ∧
      units.flatten = inner ∧
      (∀ c ∈ '"' :: (inner ++ ['"']), 0x20 ≤ c.toNat) ∧
      units.mapM unitValue? = some (typeName name).toList ∧
      (∀ rest, stringBody [] (inner ++ '"' :: rest) = .ok ((typeName name).toList, rest)) ∧
      (∀ c, EntityType.ofLabel name = .known c → typeName name = c.label) ∧
      ∀ tag, EntityType.ofLabel name = .unknown tag →
        typeName name = String.ofList (Text.trim name.toList) := by
  refine ⟨Json.body (typeName name), (typeName name).toList.map Json.escape, rfl,
    Json.units?_body _, List.flatMap_def.symm, fun c => Json.le_of_mem_literal,
    Json.mapM_unitValue?_escape _, Json.stringBody_body _, fun c hc => ?_,
    fun tag => typeName_of_unknown⟩
  rw [typeName, hc]
  rfl

end Render

end BuildingModel
