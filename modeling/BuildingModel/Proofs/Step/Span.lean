import BuildingModel.Proofs.Step.Statement

/-!
# Where statements stand

The statements that are found in a content stand in it one behind the other (`Statement.Laid`,
`Statement.laid_ofContent`), whatever the content is. So each of them is a slice of the content
between its offsets (`Statement.isSlice_of_mem`), none begins before the one in front of it ends
(`Statement.pairwise_stop_le_start`), and there are finitely many of them, as each takes up five
characters (`Statement.length_ofContent_le`).
-/

namespace BuildingModel

namespace Text

/-! ## Slices -/

theorem utf8ByteSize_ofList (s : List Char) : (String.ofList s).utf8ByteSize = byteLength s := by
  induction s with
  | nil => rfl
  | cons c r ih =>
    rw [byteLength_cons, ← ih, String.ofList_cons, String.utf8ByteSize_append,
      String.utf8ByteSize_singleton]

/-- The text stands in the content between two offsets in bytes, at both of which a character
starts or the content ends. -/
def IsSlice (content : String) (start stop : Nat) (text : List Char) : Prop :=
  ∃ first last : content.Pos, first.offset.byteIdx = start ∧ last.offset.byteIdx = stop ∧
    ∃ h : first ≤ last, (content.slice first last h).copy = String.ofList text

/-- A text that stands between others is a slice. -/
theorem isSlice_of_toList_eq {content : String} {before text after : List Char}
    (h : content.toList = before ++ (text ++ after)) :
    IsSlice content (byteLength before) (byteLength before + byteLength text) text := by
  have hfirst : content = String.ofList before ++ (String.ofList text ++ String.ofList after) := by
    rw [← String.ofList_append, ← String.ofList_append, ← h, String.ofList_toList]
  have hlast : content = String.ofList before ++ String.ofList text ++ String.ofList after := by
    rw [String.append_assoc, ← hfirst]
  have hsplit := String.Pos.splits_ofEqAppend hfirst
  have hsplit' := String.Pos.splits_ofEqAppend hlast
  refine ⟨_, _, ?_, ?_, String.copy_slice_eq_iff_splits.2 ⟨_, _, hsplit, hsplit'⟩⟩
  · rw [hsplit.offset_eq_rawEndPos, String.byteIdx_rawEndPos, utf8ByteSize_ofList]
  · rw [hsplit'.offset_eq_rawEndPos, String.byteIdx_rawEndPos, String.utf8ByteSize_append,
      utf8ByteSize_ofList, utf8ByteSize_ofList]

end Text

namespace Step

open Text

/-- A statement that is sighted is the text up to its end. -/
theorem text_of_sighting {s tag text : List Char} {id : EntityId}
    (h : sighting s = .statement id tag text) : ∃ body r, s = body ++ r ∧ text = '#' :: body := by
  obtain ⟨o, body, r, rfl, ⟨-, -, rfl⟩, -⟩ := exists_opening_of_sighting h
  exact ⟨o.text ++ (body ++ [';']), r, by simp, rfl⟩

namespace Statement

/-! ## Statements one behind the other -/

/-- Statements stand in a text one behind the other, each where it says that it starts and ends,
when the text starts at an offset. -/
inductive Laid : (offset : Nat) → List Char → List Statement → Prop
  | nil {offset : Nat} {t : List Char} : Laid offset t []
  | cons (gap : List Char) (s : Statement) {r : List Char} {ss : List Statement} {offset : Nat} :
    s.start = offset + byteLength gap → s.stop = s.start + byteLength s.text →
    Laid s.stop r ss → Laid offset (gap ++ (s.text ++ r)) (s :: ss)

/-- Statements stand in a text if they stand in what is left of it. -/
theorem Laid.append_left {front t : List Char} {offset : Nat} {ss : List Statement}
    (h : Laid (offset + byteLength front) t ss) : Laid offset (front ++ t) ss := by
  cases h with
  | nil => exact .nil
  | cons _ _ hstart hstop hr =>
    rw [← List.append_assoc]
    exact .cons _ _ (by rw [hstart, byteLength_append, Nat.add_assoc]) hstop hr

theorem Laid.cons_left {c : Char} {t : List Char} {offset : Nat} {ss : List Statement}
    (h : Laid (offset + c.utf8Size) t ss) : Laid offset (c :: t) ss := by
  have hc : byteLength [c] = c.utf8Size := Nat.zero_add _
  rw [← hc] at h
  exact h.append_left

/-- What the search finds stands one behind the other, behind what it skips. -/
theorem laid_scan (t : List Char) (skip offset : Nat) (fresh : Bool) :
    Laid (offset + byteLength (t.take skip)) (t.drop skip) (scan skip offset fresh t) := by
  induction t generalizing skip offset fresh with
  | nil => cases skip <;> exact .nil
  | cons c t ih =>
    cases skip with
    | succ skip =>
      rw [List.take_succ_cons, byteLength_cons, ← Nat.add_assoc]
      exact ih skip _ _
    | zero =>
      -- What is found behind the first character stands behind it.
      have hbehind (fresh : Bool) : Laid offset (c :: t) (scan 0 (offset + c.utf8Size) fresh t) :=
        .cons_left (ih 0 _ fresh)
      change Laid offset (c :: t) (scan 0 offset fresh (c :: t))
      rw [scan]
      split
      next hc =>
        obtain ⟨rfl, -⟩ : c = '#' ∧ fresh = true := by simpa using hc
        split
        · exact .nil
        next id tag text hs =>
          obtain ⟨body, r, rfl, rfl⟩ := text_of_sighting hs
          -- The search skips the rest of the statement, character by character.
          have hrest := ih body.length (offset + '#'.utf8Size) (mayFollow '#')
          rw [List.take_left, List.drop_left, Nat.add_assoc, ← byteLength_cons] at hrest
          exact .cons [] ⟨id, String.ofList tag, offset, _, '#' :: body⟩ rfl rfl hrest
        · exact hbehind _
      · exact hbehind _

/-- The statements of a content stand in it one behind the other. -/
theorem laid_ofContent (content : String) : Laid 0 content.toList (ofContent content) := by
  rw [ofContent]
  split
  -- The search starts behind the word that opens the data section, or at the front without one.
  next rest hrest =>
    obtain ⟨front, hfront⟩ := exists_eq_append_of_afterFirst? hrest
    rw [← List.append_assoc] at hfront
    rw [hfront, byteLength_append, Nat.add_sub_cancel]
    refine Laid.append_left ?_
    rw [Nat.zero_add]
    exact laid_scan rest 0 _ _
  next => exact laid_scan _ 0 _ _

/-! ## Spans -/

namespace Laid

variable {offset : Nat} {t : List Char} {ss : List Statement}

theorem le_start (h : Laid offset t ss) : ∀ s ∈ ss, offset ≤ s.start := by
  induction h with
  | nil => exact fun s hs => absurd hs List.not_mem_nil
  | cons _ _ hstart hstop _ ih =>
    intro s hs
    rcases List.mem_cons.1 hs with rfl | hs
    · omega
    · have := ih s hs
      omega

theorem pairwise (h : Laid offset t ss) : ss.Pairwise fun s s' => s.stop ≤ s'.start := by
  induction h with
  | nil => exact .nil
  | cons _ _ _ _ hr ih => exact .cons hr.le_start ih

theorem exists_eq_append (h : Laid offset t ss) : ∀ s ∈ ss, ∃ before after,
    t = before ++ (s.text ++ after) ∧ s.start = offset + byteLength before ∧
      s.stop = s.start + byteLength s.text := by
  induction h with
  | nil => exact fun s hs => absurd hs List.not_mem_nil
  | cons gap first hstart hstop _ ih =>
    intro s hs
    rcases List.mem_cons.1 hs with rfl | hs
    · exact ⟨_, _, rfl, hstart, hstop⟩
    · obtain ⟨before, after, rfl, hstart', hstop'⟩ := ih s hs
      refine ⟨gap ++ (first.text ++ before), after, by simp only [List.append_assoc], ?_, hstop'⟩
      rw [hstart', hstop, hstart, byteLength_append, byteLength_append]
      omega

/-- Statements of a least length are no more than the text has room for. -/
theorem length_le (h : Laid offset t ss) {n : Nat} (hss : ∀ s ∈ ss, n ≤ s.text.length) :
    n * ss.length ≤ t.length := by
  induction h with
  | nil => exact Nat.zero_le _
  | cons _ first _ _ _ ih =>
    have hfirst := hss first List.mem_cons_self
    have hrest := ih fun s hs => hss s (List.mem_cons_of_mem _ hs)
    rw [List.length_cons, List.length_append, List.length_append, Nat.mul_succ]
    omega

end Laid

/-- A statement as its opening, what follows up to its end, and the semicolon there. -/
structure OpensWith (s : Statement) (o : Opening) (body : List Char) : Prop where
  /-- The text is that of the parts. -/
  text_eq : s.text = '#' :: (o.text ++ (body ++ [';']))
  /-- The name is that of the opening. -/
  id_eq : s.id = o.id
  /-- The tag is that of the opening. -/
  tag_eq : s.tag = String.ofList o.tag.chars
  /-- The tag ends with the opening. -/
  head_body : ∀ c ∈ body.head?, isTagChar c = false

section

variable {content : String} {s : Statement} (hs : s ∈ ofContent content)

include hs

theorem exists_opensWith : ∃ o body, s.OpensWith o body := by
  obtain ⟨r, tag, hr, htag⟩ := sighting_of_mem hs
  obtain ⟨o, body, -, -, ⟨hid, rfl, htext⟩, hbody, -⟩ := exists_opening_of_sighting hr
  exact ⟨o, body, htext.symm, hid.symm, htag, hbody⟩

theorem five_le_length : 5 ≤ s.text.length := by
  obtain ⟨o, body, ho⟩ := exists_opensWith hs
  have hdigits := List.length_pos_iff.2 o.digits.ne_nil
  have htag := List.length_pos_iff.2 o.tag.ne_nil
  rw [ho.text_eq, Opening.text]
  simp only [List.length_cons, List.length_append, List.length_nil]
  omega

/-- A statement is the slice of the content between its offsets. -/
theorem isSlice_of_mem : IsSlice content s.start s.stop s.text := by
  obtain ⟨before, after, hcontent, hstart, hstop⟩ := (laid_ofContent content).exists_eq_append s hs
  rw [Nat.zero_add] at hstart
  rw [hstop, hstart]
  exact isSlice_of_toList_eq hcontent

theorem start_lt_stop : s.start < s.stop := by
  obtain ⟨-, -, -, -, hstop⟩ := (laid_ofContent content).exists_eq_append s hs
  obtain ⟨o, body, ho⟩ := exists_opensWith hs
  have hpos := Char.utf8Size_pos '#'
  rw [hstop, ho.text_eq, byteLength_cons]
  omega

end

/-- The statements of a content are disjoint and in the order of the content. -/
theorem pairwise_stop_le_start (content : String) :
    (ofContent content).Pairwise fun s s' => s.stop ≤ s'.start :=
  (laid_ofContent content).pairwise

/-- A content has at most one statement for every five characters. -/
theorem length_ofContent_le (content : String) :
    5 * (ofContent content).length ≤ content.length :=
  (laid_ofContent content).length_le fun _ => five_le_length

end Statement

end Step

end BuildingModel
