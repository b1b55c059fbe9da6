import BuildingModel.Proofs.Step.Grammar
import BuildingModel.Proofs.Step.Opening

/-!
# Phrases in statements

Two things are told of every phrase of the grammar of records. It is unbroken
(`Phrase.unbroken_text`), so it does not end the statement that it stands in, and a literal that
starts in it ends in it. And the parameter that it stands for mentions the instances that it refers
to, at any depth and in the same order, where a number that does not fit 32 bits mentions instance 0
(`Phrase.mentions_value`).
-/

namespace BuildingModel

namespace Step

open Text

/-! ## Phrases are unbroken -/

/-- Inside a literal, paired apostrophes leave it and enter it again. -/
theorem Paired.unbroken {s : List Char} (h : Paired s) : Unbroken true s true := by
  induction h with
  | nil => rfl
  | pair _ ih => exact ⟨fun _ => rfl, by decide, ih⟩
  | other hc _ ih =>
    refine ⟨fun _ => rfl, ?_⟩
    rw [beq_false_of_ne hc]
    exact ih

theorem Run.unbroken_blanks (x : Blanks) : Unbroken false x.chars false :=
  unbroken_of_all x.all (by decide) (by decide)

theorem Run.unbroken_digits (x : Run Char.isDigit) : Unbroken false x.chars false :=
  unbroken_of_all x.all (by decide) (by decide)

theorem Run.unbroken_word (x : Run isWordChar) : Unbroken false x.chars false :=
  unbroken_of_all x.all (by decide) (by decide)

theorem Sign.unbroken_text (s : Sign) : Unbroken false s.text false := by
  cases s with
  | absent => rfl
  | plus => exact ⟨by decide, rfl⟩
  | minus => exact ⟨by decide, rfl⟩

theorem unbroken_fractionText (f : Option (Run Char.isDigit)) :
    Unbroken false (fractionText f) false := by
  cases f with
  | none => rfl
  | some digits => exact ⟨by decide, digits.unbroken_digits⟩

theorem unbroken_exponentText (e : Option Exponent) : Unbroken false (exponentText e) false := by
  cases e with
  | none => rfl
  | some e =>
    refine Unbroken.append (s := [e.mark]) ?_
      (e.sign.unbroken_text.append e.digits.unbroken_digits)
    cases hcapital : e.capital <;> rw [Exponent.mark, hcapital] <;> exact ⟨by decide, rfl⟩

theorem Numeral.unbroken_text (n : Numeral) : Unbroken false n.text false :=
  n.sign.unbroken_text.append (n.digits.unbroken_digits.append
    ((unbroken_fractionText _).append (unbroken_exponentText _)))

mutual

/-- A phrase does not end the statement that it stands in. -/
theorem Phrase.unbroken_text : ∀ d : Phrase, Unbroken false d.text false
  | .reference digits => ⟨by decide, digits.unbroken_digits⟩
  | .null => ⟨by decide, rfl⟩
  | .derived => ⟨by decide, rfl⟩
  | .enumeration item => ⟨by decide, item.unbroken_word.append ⟨by decide, rfl⟩⟩
  | .string body => ⟨by decide, body.paired.unbroken.append ⟨by decide, rfl⟩⟩
  | .number n => n.unbroken_text
  | .list items => items.unbroken_text
  | .typed type gap arguments =>
    type.unbroken_word.append (gap.unbroken_blanks.append arguments.unbroken_text)

theorem Enclosure.unbroken_text : ∀ d : Enclosure, Unbroken false d.text false
  | .empty gap => ⟨by decide, gap.unbroken_blanks.append ⟨by decide, rfl⟩⟩
  | .items before first further after =>
    ⟨by decide, before.unbroken_blanks.append (first.unbroken_text.append
      (further.unbroken_text.append (after.unbroken_blanks.append ⟨by decide, rfl⟩)))⟩

theorem Further.unbroken_text : ∀ d : Further, Unbroken false d.text false
  | .nil => rfl
  | .cons before after phrase further =>
    before.unbroken_blanks.append ⟨by decide, after.unbroken_blanks.append
      (phrase.unbroken_text.append further.unbroken_text)⟩

end

/-! ## What phrases mention -/

mutual

/-- The references in a phrase, at any depth and in order, by their digits. -/
def Phrase.mentions : Phrase → List Digits
  | .reference digits => [digits]
  | .list items => items.mentions
  | .typed _ _ arguments => arguments.mentions
  | _ => []

/-- The references in a list. -/
def Enclosure.mentions : Enclosure → List Digits
  | .empty _ => []
  | .items _ first further _ => first.mentions ++ further.mentions

/-- The references in further phrases. -/
def Further.mentions : Further → List Digits
  | .nil => []
  | .cons _ _ phrase further => phrase.mentions ++ further.mentions

end

end Step

namespace Parameter

theorem decodedList_eq_map (ps : List Parameter) : decodedList ps = ps.map decoded := by
  induction ps with
  | nil => rfl
  | cons p ps ih => rw [decodedList, ih, List.map_cons]

mutual

/-- The instances that a parameter refers to, at any depth and in order. -/
def mentions : Parameter → List EntityId
  | .reference id => [id]
  | .list items => mentionsAll items
  | .typed _ arguments => mentionsAll arguments
  | _ => []

/-- The instances that parameters refer to. -/
def mentionsAll : List Parameter → List EntityId
  | [] => []
  | p :: ps => p.mentions ++ mentionsAll ps

end

mutual

/-- The escapes in strings have nothing to do with references. -/
theorem mentions_decoded : ∀ p : Parameter, p.decoded.mentions = p.mentions
  | .list items => mentionsAll_decodedList items
  | .typed _ arguments => mentionsAll_decodedList arguments
  | .null | .derived | .reference _ | .integer _ | .real _ | .text _ | .enumeration _ => rfl

theorem mentionsAll_decodedList : ∀ ps : List Parameter,
    mentionsAll (decodedList ps) = mentionsAll ps
  | [] => rfl
  | p :: ps => by
    rw [decodedList, mentionsAll, mentionsAll, mentions_decoded p, mentionsAll_decodedList ps]

end

end Parameter

namespace Step

open Text

/-- The instance that a reference with the digits refers to. -/
def mentioned (digits : Digits) : EntityId :=
  (entityId? digits.chars).getD 0

theorem toNat_mentioned (digits : Digits) : (mentioned digits).toNat =
    if digitsValue digits.chars < UInt32.size then digitsValue digits.chars else 0 := by
  rw [mentioned]
  cases hid : entityId? digits.chars with
  | some id =>
    have hvalue := entityId?_eq_some_iff.1 hid
    rw [hvalue, if_pos id.toNat_lt]
    rfl
  | none =>
    rw [if_neg (Nat.not_lt.2 (entityId?_eq_none_iff.1 hid))]
    rfl

/-- A number refers to nothing. -/
theorem mentions_numberValue (negative : Bool) (digits : List Char) (fraction : Option (List Char))
    (exponent : Option Int) : (numberValue negative digits fraction exponent).mentions = [] := by
  cases fraction <;> cases exponent <;> rfl

mutual

/-- A parameter mentions what its phrase refers to. -/
theorem Phrase.mentions_value : ∀ d : Phrase, d.value.mentions = d.mentions.map mentioned
  | .reference _ => rfl
  | .list items => items.mentions_values
  | .typed _ _ arguments => arguments.mentions_values
  | .null | .derived | .enumeration _ | .string _ => rfl
  | .number _ => mentions_numberValue _ _ _ _

theorem Enclosure.mentions_values : ∀ d : Enclosure,
    Parameter.mentionsAll d.values = d.mentions.map mentioned
  | .empty _ => rfl
  | .items _ first further _ => by
    rw [Enclosure.values, Enclosure.mentions, Parameter.mentionsAll, first.mentions_value,
      further.mentions_values, List.map_append]

theorem Further.mentions_values : ∀ d : Further,
    Parameter.mentionsAll d.values = d.mentions.map mentioned
  | .nil => rfl
  | .cons _ _ phrase further => by
    rw [Further.values, Further.mentions, Parameter.mentionsAll, phrase.mentions_value,
      further.mentions_values, List.map_append]

end

end Step

end BuildingModel
