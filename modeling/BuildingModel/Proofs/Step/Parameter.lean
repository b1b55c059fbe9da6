import BuildingModel.Proofs.Step.Reading
import BuildingModel.Proofs.Step.Written

/-!
# Reading written attributes back

A written attribute is a phrase of the grammar of records, without blanks (`Attribute.phrase`): its
text is what is written (`text_phrase`), and once the escapes in its strings are resolved, it stands
for the value of the attribute (`decoded_phrase`). So a written list of attributes is read whole
(`parse_written`).
-/

namespace BuildingModel.Step

open Text

/-! ## Numbers -/

theorem digitsValue_toDigits (n : Nat) : digitsValue (Nat.toDigits 10 n) = n := by
  have h : digitsValue (Nat.toDigits 10 n) = Nat.ofDigitChars 10 (Nat.toDigits 10 n) 0 := by
    simp [digitsValue, digitValue, Nat.ofDigitChars_eq_foldl, Nat.mul_comm]
  rw [h, Nat.ofDigitChars_ten_toDigits]

theorem isDigit_of_mem_toDigits {n : Nat} {c : Char} (h : c ∈ Nat.toDigits 10 n) :
    c.isDigit = true :=
  Nat.isDigit_of_mem_toDigits (by decide) (by decide) h

theorem entityId?_toDigits (id : EntityId) : entityId? (Nat.toDigits 10 id.toNat) = some id := by
  have h : id.toNat < UInt32.size := id.toNat_lt
  simp [entityId?, digitsValue_toDigits, h]

/-- A whole number of 64 bits is its absolute value under its sign. -/
theorem integerValue_natAbs (n : Int64) :
    integerValue (n.toInt < 0) n.toInt.natAbs = n.toInt := by
  have h : (if decide (n.toInt < 0) = true then -(n.toInt.natAbs : Int) else n.toInt.natAbs)
      = n.toInt := by
    split
    next hn => rw [Int.ofNat_natAbs_of_nonpos (Int.le_of_lt (of_decide_eq_true hn)), Int.neg_neg]
    next hn => exact Int.natAbs_of_nonneg (Int.not_lt.1 fun h => hn (decide_eq_true h))
  rw [integerValue, h]
  exact if_pos (by rw [decide_eq_true n.minValue_le_toInt, decide_eq_true n.toInt_le]; rfl)

/-- The digits of a number. -/
def digits (n : Nat) : Digits where
  chars := Nat.toDigits 10 n
  all _ := isDigit_of_mem_toDigits
  ne_nil := Nat.toDigits_ne_nil

/-- A whole number as it is written. -/
def numeral (n : Int) : Numeral where
  sign := if n < 0 then .minus else .absent
  digits := digits n.natAbs
  fraction := none
  exponent := none

theorem text_numeral (n : Int) : (numeral n).text = decimal n := by
  unfold decimal
  split
  next h => simp [Numeral.text, numeral, digits, Sign.text, fractionText, exponentText, h]
  next h => simp [Numeral.text, numeral, digits, Sign.text, fractionText, exponentText, h]

theorem value_numeral (n : Int64) : (numeral n.toInt).value = .integer n.toInt := by
  have hsign : (numeral n.toInt).sign.negative = decide (n.toInt < 0) := by
    by_cases h : n.toInt < 0 <;> simp [numeral, Sign.negative, h]
  have hvalue : digitsValue (numeral n.toInt).digits.chars = n.toInt.natAbs :=
    digitsValue_toDigits _
  refine congrArg Parameter.integer ?_
  rw [hsign, hvalue, integerValue_natAbs]

/-! ## Words -/

/-- A word as a run of word characters. -/
def Word.run (w : Word) : NonemptyRun isWordChar where
  chars := w.chars
  all c hc := isWordChar_of_isTagChar (w.isTagChar c hc)
  ne_nil := w.ne_nil

/-- The name of a type as a name before a list. -/
def TypeName.name (w : TypeName) : Name where
  toNonemptyRun := w.run
  head_not_digit := w.head_not_digit

/-! ## Trees of attributes -/

namespace Attribute

mutual

/-- The derivation of an attribute as it is written. -/
def phrase : Attribute → Phrase
  | .null => .null
  | .derived => .derived
  | .reference id => .reference (digits id.toNat)
  | .integer n => .number (numeral n.toInt)
  | .text s => .string ⟨escaped s.toList, paired_escaped s.toList⟩
  | .enumeration item => .enumeration item.run
  | .list items => .list (enclosure items)
  | .typed type arguments => .typed type.name .nil (enclosure arguments)

/-- The derivation of a list of attributes. -/
def enclosure : List Attribute → Enclosure
  | [] => .empty .nil
  | a :: as => .items .nil a.phrase (further as) .nil

/-- The derivation of the attributes that follow another one. -/
def further : List Attribute → Further
  | [] => .nil
  | a :: as => .cons .nil .nil a.phrase (further as)

end

mutual

/-- The text of the derivation is what is written. -/
theorem text_phrase : ∀ a : Attribute, a.phrase.text = a.written
  | .null => rfl
  | .derived => rfl
  | .reference _ => rfl
  | .integer n => text_numeral n.toInt
  | .text _ => rfl
  | .enumeration _ => rfl
  | .list items => text_enclosure items
  | .typed type arguments => congrArg (type.chars ++ ·) (text_enclosure arguments)

theorem text_enclosure : ∀ as : List Attribute, (enclosure as).text = writtenList as
  | [] => rfl
  | a :: as => by
    rw [writtenList, ← text_phrase a, ← text_further as]
    rfl

theorem text_further : ∀ as : List Attribute, (further as).text ++ [')'] = writtenFurther as
  | [] => rfl
  | a :: as => by
    rw [writtenFurther, ← text_phrase a, ← text_further as, further, Further.text_cons_append]
    rfl

end

theorem values_further (as : List Attribute) :
    (further as).values = as.map fun a => a.phrase.value := by
  induction as with
  | nil => rfl
  | cons a as ih => rw [further, Further.values, ih, List.map_cons]

/-- The derivation of a list stands for the values of the attributes. -/
theorem values_enclosure (as : List Attribute) :
    (enclosure as).values = as.map fun a => a.phrase.value := by
  cases as with
  | nil => rfl
  | cons a as => rw [enclosure, Enclosure.values, values_further, List.map_cons]

mutual

/-- The derivation stands for the value, with the escapes as they are written. -/
theorem decoded_phrase : ∀ a : Attribute, a.phrase.value.decoded = a.value
  | .null => rfl
  | .derived => rfl
  | .reference id => by
    rw [phrase, Phrase.value, digits, entityId?_toDigits]
    rfl
  | .integer n => congrArg Parameter.decoded (value_numeral n)
  | .text s => by simp [phrase, Phrase.value, Parameter.decoded, value, decode_escaped]
  | .enumeration _ => rfl
  | .list items => congrArg Parameter.list (decoded_enclosure items)
  | .typed type arguments =>
    congrArg (Parameter.typed (String.ofList type.chars)) (decoded_enclosure arguments)

theorem decoded_enclosure : ∀ as : List Attribute,
    Parameter.decodedList (enclosure as).values = values as
  | [] => rfl
  | a :: as => by
    rw [values, ← decoded_phrase a, ← decoded_further as]
    rfl

theorem decoded_further : ∀ as : List Attribute,
    Parameter.decodedList (further as).values = values as
  | [] => rfl
  | a :: as => by
    rw [values, ← decoded_phrase a, ← decoded_further as]
    rfl

end

/-- A written list of attributes is read whole, as the parameters of a record. -/
theorem parse_written (tag : Word) (as : List Attribute) (r : List Char) :
    ∃ ps, Record.parse (tag.chars ++ (writtenList as ++ r)) =
        .ok ⟨String.ofList tag.chars, ps⟩ ∧ Parameter.decodedList ps = values as := by
  have hparse := RecordPhrase.parse_text ⟨.nil, tag.run, .nil, enclosure as, r⟩
  refine ⟨(enclosure as).values, ?_, decoded_enclosure as⟩
  rw [← text_enclosure]
  exact hparse

end Attribute

theorem exists_writtenList_eq_cons (as : List Attribute) :
    ∃ s, Attribute.writtenList as = '(' :: s := by
  cases as <;> exact ⟨_, rfl⟩

end BuildingModel.Step
