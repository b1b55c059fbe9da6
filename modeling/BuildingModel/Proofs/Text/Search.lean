import BuildingModel.Text.Search

/-!
# Words in texts

The first occurrence of a word parts a text (`exists_eq_append_of_afterFirst?`). It is where the
word stands, if the word does not start earlier (`afterFirst?_append`). A character that is not in
the word parts a text too: the word occurs on one of its sides (`infix_append_cons_iff`), and is
sought on one side after the other (`beforeFirst_append_cons`).
-/

namespace BuildingModel.Text

/-! ## Separators -/

section

variable {word s t : List Char} {c : Char} (hc : c ∉ word)

include hc

/-- A text that a character is not in does not go on behind the character. -/
theorem prefix_append_cons_iff : word <+: s ++ c :: t ↔ word <+: s := by
  refine ⟨fun h => ?_, fun h => h.trans (List.prefix_append _ _)⟩
  have hs : s ++ [c] <+: s ++ c :: t := ⟨t, by simp⟩
  rcases List.prefix_or_prefix_of_prefix h hs with hp | hp
  · refine (List.prefix_concat_iff.1 hp).resolve_left fun he => hc ?_
    simp [he]
  · exact absurd (hp.subset (by simp)) hc

/-- A word occurs on one side of a character that is not in it. -/
theorem infix_append_cons_iff : word <:+: s ++ c :: t ↔ word <:+: s ∨ word <:+: t := by
  induction s with
  | nil =>
    have hfront : word <+: c :: t ↔ word <:+: [] := by
      rw [← List.nil_append (c :: t), prefix_append_cons_iff hc, List.prefix_nil, List.infix_nil]
    rw [List.nil_append, List.infix_cons_iff, hfront]
  | cons d s ih =>
    rw [List.cons_append, List.infix_cons_iff, ih, ← List.cons_append, prefix_append_cons_iff hc,
      List.infix_cons_iff, or_assoc]

/-- A word occurs behind a character that is not in it. -/
theorem infix_cons_iff_of_not_mem : word <:+: c :: t ↔ word <:+: t := by
  rw [← List.nil_append (c :: t), infix_append_cons_iff hc, List.infix_nil]
  exact or_iff_right_of_imp fun h => h ▸ List.nil_infix

end

/-- A word does not occur where one of its characters does not. -/
theorem not_infix_of_not_mem {word s : List Char} {c : Char} (hword : c ∈ word) (hs : c ∉ s) :
    ¬ word <:+: s :=
  fun h => hs (h.subset hword)

/-! ## The text behind a word -/

theorem afterWord?_eq_some_iff {word s r : List Char} :
    afterWord? word s = some r ↔ s = word ++ r :=
  ⟨eq_append_of_afterWord?, fun h => h ▸ afterWord?_append word r⟩

theorem afterWord?_eq_none_iff {word s : List Char} : afterWord? word s = none ↔ ¬ word <+: s := by
  rw [Option.eq_none_iff_forall_ne_some]
  simp only [ne_eq, afterWord?_eq_some_iff]
  exact ⟨fun h ⟨r, hr⟩ => h r hr.symm, fun h r hr => h ⟨r, hr.symm⟩⟩

/-- What is behind the first occurrence of a word stands behind the word. -/
theorem exists_eq_append_of_afterFirst? {word s rest : List Char}
    (h : afterFirst? word s = some rest) : ∃ front, s = front ++ (word ++ rest) := by
  induction s with
  | nil =>
    rw [afterFirst?] at h
    exact ⟨[], by rw [List.nil_append, ← eq_append_of_afterWord? h]⟩
  | cons c s ih =>
    rw [afterFirst?] at h
    split at h
    next hword =>
      obtain rfl := Option.some.inj h
      exact ⟨[], by rw [List.nil_append, ← eq_append_of_afterWord? hword]⟩
    next =>
      obtain ⟨front, rfl⟩ := ih h
      exact ⟨c :: front, rfl⟩

/-- A word is first found where it stands, if it does not start earlier. -/
theorem afterFirst?_append {word front : List Char} (h : ¬ word <:+: front ++ word.dropLast)
    (r : List Char) : afterFirst? word (front ++ (word ++ r)) = some r := by
  induction front with
  | nil =>
    cases word with
    | nil => exact absurd List.nil_infix h
    | cons c word =>
      rw [List.nil_append, List.cons_append, afterFirst?, ← List.cons_append, afterWord?_append]
  | cons c front ih =>
    have hnone : afterWord? word (c :: (front ++ (word ++ r))) = none := by
      refine afterWord?_eq_none_iff.2 fun hprefix => h ?_
      -- The word at the front is over before the word that was put behind it is.
      have hword :
          word <+: (c :: front ++ word.dropLast) ++ (word.drop (word.length - 1) ++ r) := by
        rwa [List.append_assoc, ← List.append_assoc word.dropLast, List.dropLast_eq_take,
          List.take_append_drop]
      refine (List.prefix_of_prefix_length_le hword (List.prefix_append _ _) ?_).isInfix
      simp only [List.length_append, List.length_cons, List.length_dropLast]
      omega
    rw [List.cons_append, afterFirst?, hnone]
    exact ih fun hin => h (hin.trans (List.suffix_cons _ _).isInfix)

/-! ## The text before a word -/

/-- Nothing stands before a word at the front. -/
theorem beforeFirst_word {word : List Char} (hword : word ≠ []) (before r : List Char) :
    beforeFirst word before (word ++ r) = before.reverse := by
  cases word with
  | nil => exact absurd rfl hword
  | cons c word =>
    rw [List.cons_append, beforeFirst, ← List.cons_append, afterWord?_append]

/-- A word is sought behind a character that is not in it, if it does not occur before. -/
theorem beforeFirst_append_cons {word s : List Char} {c : Char} (hc : c ∉ word)
    (hs : ¬ word <:+: s) (before r : List Char) :
    beforeFirst word before (s ++ c :: r) = beforeFirst word (c :: (s.reverse ++ before)) r := by
  induction s generalizing before with
  | nil =>
    have hnone : afterWord? word (c :: r) = none := afterWord?_eq_none_iff.2 fun h =>
      hs ((prefix_append_cons_iff (s := []) hc).1 h).isInfix
    rw [List.nil_append, beforeFirst, hnone]
    rfl
  | cons d s ih =>
    have hnone : afterWord? word (d :: (s ++ c :: r)) = none := afterWord?_eq_none_iff.2 fun h =>
      hs ((prefix_append_cons_iff (s := d :: s) hc).1 h).isInfix
    rw [List.cons_append, beforeFirst, hnone]
    simp only [ih fun h => hs (h.trans (List.suffix_cons _ _).isInfix)]
    simp

/-- What stands before the first occurrence of a word that occurs in a text does not depend on what
follows the text. -/
theorem exists_beforeFirst_of_infix {word s : List Char} (hword : word ≠ []) (h : word <:+: s) :
    ∃ p, p <+: s ∧ ∀ before r, beforeFirst word before (s ++ r) = before.reverse ++ p := by
  induction s with
  | nil => exact absurd (List.infix_nil.1 h) hword
  | cons c s ih =>
    by_cases hprefix : word <+: c :: s
    · obtain ⟨t, ht⟩ := hprefix
      refine ⟨[], List.nil_prefix, fun before r => ?_⟩
      rw [← ht, List.append_assoc, beforeFirst_word hword, List.append_nil]
    · have hs := (List.infix_cons_iff.1 h).resolve_left hprefix
      obtain ⟨p, hp, hbefore⟩ := ih hs
      refine ⟨c :: p, List.cons_prefix_cons.2 ⟨rfl, hp⟩, fun before r => ?_⟩
      have hnone : afterWord? word (c :: (s ++ r)) = none := by
        -- The word is not longer than the text.
        refine afterWord?_eq_none_iff.2 fun hin => hprefix ?_
        refine List.prefix_of_prefix_length_le hin (List.prefix_append (c :: s) r) ?_
        exact Nat.le_succ_of_le hs.length_le
      rw [List.cons_append, beforeFirst, hnone]
      simp [hbefore]

end BuildingModel.Text
