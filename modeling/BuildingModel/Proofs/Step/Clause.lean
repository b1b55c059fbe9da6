import BuildingModel.Proofs.Step.Statement
import BuildingModel.Proofs.Text.Search

/-!
# Statements of any kind

A data section holds statements of any kind: instances, complex instances, instances whose name is
too large, and what is no instance at all. A `Clause` is such a statement as it is written, of which
it is only known where it ends.

The search looks at every number sign behind a blank or a semicolon. A clause *hides* an instance if
the first number sign at which one opens is not the first character that is no blank
(`Clause.Hides`). The search does not keep account of literals before it is in an instance, so a
clause may hide an instance in a literal.

* `Clause.scan_textAll`: where no clause hides an instance, the search finds in clauses what it finds
  in each of them alone;
* `Clause.scan_text`: in a clause that hides none, it finds the clause or nothing;
* `Statement.found_at_clauses_iff`: whatever is found starts a clause, if and only if the first clause
  that hides an instance, where there is one, hides one whose statement does not end.
-/

namespace BuildingModel.Step

open Text

/-! ## Where an instance opens first -/

/-- Whether there is something of an instance. -/
def Sighting.opens : Sighting → Bool
  | .none => false
  | _ => true

theorem opens_eq_false_iff {s : List Char} :
    (sighting s).opens = false ↔ ∀ o : Opening, ¬ o.text <+: s := by
  rw [← sighting_eq_none_iff]
  cases sighting s <;> simp [Sighting.opens]

/-- What stands before the first number sign at which an instance opens, and what stands behind it.
An instance may open at the front of the text if it is `fresh`. -/
def firstOpening? : (fresh : Bool) → List Char → Option (List Char × List Char)
  | _, [] => none
  | fresh, c :: r =>
    if c == '#' && fresh && (sighting r).opens then some ([], r)
    else (firstOpening? (Statement.mayFollow c) r).map fun p => (c :: p.1, p.2)

/-- Whether an instance opens in front of a semicolon does not depend on what is behind it. -/
theorem opens_append_semicolon (s t : List Char) :
    (sighting (s ++ ';' :: t)).opens = (sighting (s ++ [';'])).opens := by
  have hprefix (o : Opening) (t : List Char) : o.text <+: s ++ ';' :: t ↔ o.text <+: s :=
    prefix_append_cons_iff o.semicolon_not_mem
  have hopens (t : List Char) :
      (sighting (s ++ ';' :: t)).opens = false ↔ ∀ o : Opening, ¬ o.text <+: s := by
    simp only [opens_eq_false_iff, hprefix]
  exact Bool.eq_iff_iff.2 (not_iff_not.1 (by simp only [Bool.not_eq_true, hopens]))

/-- What opens, opens in front of any text. -/
theorem sighting_append_ne_none {s : List Char} (h : (sighting s).opens = true) (t : List Char) :
    sighting (s ++ t) ≠ .none := by
  intro hnone
  have hs : (sighting s).opens = false := opens_eq_false_iff.2 fun o ho =>
    sighting_eq_none_iff.1 hnone o (ho.trans (List.prefix_append _ _))
  rw [h] at hs
  cases hs

/-- Where an instance opens first, it opens behind a number sign. -/
theorem eq_append_of_firstOpening? {s u r : List Char} {fresh : Bool}
    (h : firstOpening? fresh s = some (u, r)) : s = u ++ '#' :: r ∧ (sighting r).opens = true := by
  induction s generalizing fresh u with
  | nil => cases h
  | cons c s ih =>
    rw [firstOpening?] at h
    split at h
    next hc =>
      cases h
      simp only [Bool.and_eq_true, beq_iff_eq] at hc
      exact ⟨by rw [hc.1.1, List.nil_append], hc.2⟩
    next =>
      obtain ⟨⟨u, r⟩, hrest, he⟩ := Option.map_eq_some_iff.1 h
      cases he
      obtain ⟨rfl, hr⟩ := ih hrest
      exact ⟨rfl, hr⟩

/-- An instance that opens behind blanks is the first one. -/
theorem firstOpening?_blanks {gap r : List Char} (hgap : ∀ c ∈ gap, isDataBlank c = true)
    (hr : (sighting r).opens = true) : firstOpening? true (gap ++ '#' :: r) = some (gap, r) := by
  induction gap with
  | nil => simp [firstOpening?, hr]
  | cons c gap ih =>
    have hc := hgap c List.mem_cons_self
    have hne : c ≠ '#' := by
      rintro rfl
      cases hc
    have hfresh : Statement.mayFollow c = true := by rw [Statement.mayFollow, hc, Bool.true_or]
    rw [List.cons_append, firstOpening?, beq_false_of_ne hne, hfresh,
      ih fun d hd => hgap d (List.mem_cons_of_mem _ hd)]
    rfl

namespace Statement

/-- The search goes on behind a character at which no instance opens. -/
theorem scan_cons_of_not_opens {c : Char} {s : List Char} {fresh : Bool}
    (hc : ¬(c == '#' && fresh && (sighting s).opens) = true) (offset : Nat) :
    scan 0 offset fresh (c :: s) = scan 0 (offset + c.utf8Size) (mayFollow c) s := by
  rw [scan]
  split
  next hsign =>
    rw [hsign, Bool.true_and] at hc
    cases hs : sighting s with
    | none => rfl
    | _ => rw [hs] at hc; exact absurd rfl hc
  next => rfl

/-- The search passes over a text up to a semicolon if no instance opens in it. -/
theorem scan_of_firstOpening?_eq_none {s : List Char} {fresh : Bool}
    (h : firstOpening? fresh (s ++ [';']) = none) (offset : Nat) (t : List Char) :
    scan 0 offset fresh (s ++ ';' :: t) = scan 0 (offset + byteLength (s ++ [';'])) true t := by
  induction s generalizing fresh offset with
  | nil => rfl
  | cons c s ih =>
    rw [List.cons_append, firstOpening?] at h
    split at h
    · cases h
    next hc =>
      rw [← opens_append_semicolon s t] at hc
      rw [List.cons_append, scan_cons_of_not_opens hc, ih (Option.map_eq_none_iff.1 h),
        List.cons_append, byteLength_cons, Nat.add_assoc]

/-- The search passes over what is before the first number sign at which an instance opens. -/
theorem scan_of_firstOpening?_eq_some {s u r : List Char} {fresh : Bool}
    (h : firstOpening? fresh (s ++ [';']) = some (u, r)) (offset : Nat) (t : List Char) :
    scan 0 offset fresh (s ++ ';' :: t) =
      scan 0 (offset + byteLength u) true ('#' :: (r ++ t)) := by
  induction s generalizing fresh offset u with
  | nil => cases h
  | cons c s ih =>
    rw [List.cons_append, firstOpening?] at h
    split at h
    next hc =>
      cases h
      simp only [Bool.and_eq_true, beq_iff_eq] at hc
      obtain ⟨⟨rfl, rfl⟩, -⟩ := hc
      rw [List.append_assoc]
      rfl
    next hc =>
      obtain ⟨⟨u, r⟩, hrest, he⟩ := Option.map_eq_some_iff.1 h
      cases he
      rw [← opens_append_semicolon s t] at hc
      rw [List.cons_append, scan_cons_of_not_opens hc, ih hrest, byteLength_cons, Nat.add_assoc]

end Statement

/-! ## Clauses -/

/-- A statement of any kind as it is written. -/
structure Clause where
  /-- What stands before its semicolon. -/
  body : List Char
  /-- Every literal in it is closed. -/
  closed : body.count '\'' % 2 = 0
  /-- Every semicolon in it is inside a literal. -/
  quoted : ∀ k < body.length, body[k]? = some ';' → (body.take k).count '\'' % 2 = 1

namespace Clause

variable (c : Clause)

/-- The clause with its semicolon. -/
def text : List Char :=
  c.body ++ [';']

/-- The blanks before its first character that is none. -/
def gap : List Char :=
  c.body.takeWhile isDataBlank

/-- Where an instance opens first in the clause: what stands before the number sign, and what stands
behind it. -/
def opening? : Option (List Char × List Char) :=
  firstOpening? true c.text

/-- The first instance that opens does not open with the clause. -/
def Hides : Prop :=
  ∃ p ∈ c.opening?, p.1 ≠ c.gap

instance : Decidable c.Hides :=
  inferInstanceAs (Decidable (∃ p ∈ c.opening?, p.1 ≠ c.gap))

/-- What is found in the clause alone, when it starts at an offset. -/
def found (offset : Nat) : List Statement :=
  Statement.scan 0 offset true c.text

/-- Clauses one behind the other. -/
def textAll (cs : List Clause) : List Char :=
  cs.flatMap text

/-- What is found in each of several clauses alone, when the first one starts at an offset. -/
def foundAll : (offset : Nat) → List Clause → List Statement
  | _, [] => []
  | offset, c :: cs => c.found offset ++ foundAll (offset + byteLength c.text) cs

/-- The content with a text, the word that opens the data section, clauses and a last text. -/
def content (front : List Char) (cs : List Clause) (closing : List Char) : String :=
  String.ofList (front ++ (Statement.sectionStart ++ (textAll cs ++ closing)))

theorem textAll_cons (cs : List Clause) : textAll (c :: cs) = c.text ++ textAll cs :=
  rfl

theorem textAll_append (before after : List Clause) :
    textAll (before ++ after) = textAll before ++ textAll after :=
  List.flatMap_append

/-- The clause of an unbroken text. -/
def ofUnbroken (body : List Char) (h : Unbroken false body false) : Clause where
  body := body
  closed := (unbroken_false_iff.1 h).2
  quoted := (unbroken_false_iff.1 h).1

theorem unbroken : Unbroken false c.body false :=
  unbroken_false_iff.2 ⟨c.quoted, c.closed⟩

theorem all_gap : ∀ d ∈ c.gap, isDataBlank d = true :=
  fun _ => List.mem_takeWhile_imp

variable {c}

/-- Where an instance opens with the clause, the clause is its statement, whatever follows. -/
theorem exists_statement_of_opening? {r : List Char} (h : c.opening? = some (c.gap, r)) :
    ∃ id tag body, r = body ++ [';'] ∧
      ∀ t, sighting (r ++ t) = .statement id tag ('#' :: r) := by
  obtain ⟨htext, hopens⟩ := eq_append_of_firstOpening? h
  obtain ⟨q, hq⟩ : c.gap <+: c.body := List.takeWhile_prefix _
  rw [text, ← hq, List.append_assoc] at htext
  have hunbroken := c.unbroken
  rw [← hq] at hunbroken
  cases q with
  | nil => cases List.append_cancel_left htext
  | cons d q =>
    rw [List.cons_append] at htext
    obtain ⟨rfl, rfl⟩ := List.cons.inj (List.append_cancel_left htext)
    -- What is behind the number sign is unbroken, so the statement goes on to the end of the clause.
    have hbody : Unbroken false q false :=
      (Unbroken.of_append (unbroken_of_all c.all_gap (by decide) (by decide)) hunbroken).2
    obtain ⟨o, r, hr, hhead⟩ := exists_opening fun hnone => by
      rw [hnone] at hopens
      cases hopens
    -- The opening holds no semicolon, so it is over before that of the clause.
    obtain ⟨body, rfl⟩ : o.text <+: q :=
      (prefix_append_cons_iff o.semicolon_not_mem).1 ⟨r, hr.symm⟩
    rw [List.append_assoc] at hr
    obtain rfl := List.append_cancel_left hr
    have hbodyhead : ∀ d ∈ body.head?, isTagChar d = false := by
      cases body with
      | nil => exact fun d hd => by cases hd
      | cons d body => exact hhead
    refine ⟨o.id, o.tag.chars, _, rfl, fun t => ?_⟩
    have hstatement := o.sighting_statement hbodyhead
      (Unbroken.of_append o.unbroken_text hbody) t
    simpa using hstatement

/-- The clause as it is found when it starts at an offset and its instance opens with it. -/
def placed (c : Clause) (offset : Nat) (id : EntityId) (tag text : List Char) : Statement where
  id := id
  tag := String.ofList tag
  start := offset + byteLength c.gap
  stop := offset + byteLength c.text
  text := text

/-- The clause of an instance that opens with it is found, and the search goes on behind it. -/
theorem scan_text_of_opening? {id : EntityId} {tag r : List Char}
    (h : c.opening? = some (c.gap, r)) (hsighting : sighting r = .statement id tag ('#' :: r))
    (offset : Nat) (t : List Char) : Statement.scan 0 offset true (c.text ++ t) =
      c.placed offset id tag ('#' :: r) ::
        Statement.scan 0 (offset + byteLength c.text) true t := by
  obtain ⟨htext, -⟩ := eq_append_of_firstOpening? h
  obtain ⟨id', tag', body, rfl, hstatement⟩ := exists_statement_of_opening? h
  obtain ⟨rfl, rfl⟩ : id = id' ∧ tag = tag' := by
    have hsame := hstatement []
    rw [List.append_nil, hsighting] at hsame
    simpa using hsame
  have hbody := hstatement t
  rw [List.append_assoc, List.singleton_append] at hbody
  have hbytes : byteLength c.text = byteLength c.gap + byteLength ('#' :: (body ++ [';'])) := by
    rw [htext, byteLength_append]
  rw [placed, hbytes, ← Nat.add_assoc, text, List.append_assoc, List.singleton_append,
    Statement.scan_of_firstOpening?_eq_some h, List.append_assoc, List.singleton_append,
    Statement.scan_statement hbody]

/-- The search passes over a clause in which no instance opens. -/
theorem scan_text_of_opening?_eq_none (h : c.opening? = none) (offset : Nat) (t : List Char) :
    Statement.scan 0 offset true (c.text ++ t) =
      Statement.scan 0 (offset + byteLength c.text) true t := by
  rw [text, List.append_assoc, List.singleton_append, Statement.scan_of_firstOpening?_eq_none h]

/-- In a clause that hides no instance, the search finds the clause or nothing, and goes on behind
it. -/
theorem exists_scan_text (hc : ¬ c.Hides) (offset : Nat) : ∃ ss,
    (∀ t, Statement.scan 0 offset true (c.text ++ t) =
      ss ++ Statement.scan 0 (offset + byteLength c.text) true t) ∧
    ∀ s ∈ ss, s.start = offset + byteLength c.gap ∧ c.text = c.gap ++ s.text := by
  cases hopening : c.opening? with
  | none =>
    exact ⟨[], scan_text_of_opening?_eq_none hopening offset,
      fun s hs => absurd hs List.not_mem_nil⟩
  | some p =>
    obtain ⟨u, r⟩ := p
    obtain rfl : u = c.gap := by
      by_contra hu
      exact hc ⟨_, hopening, hu⟩
    obtain ⟨id, tag, body, -, hstatement⟩ := exists_statement_of_opening? hopening
    have hsighting := hstatement []
    rw [List.append_nil] at hsighting
    refine ⟨[c.placed offset id tag ('#' :: r)],
      scan_text_of_opening? hopening hsighting offset, fun s hs => ?_⟩
    obtain rfl := List.mem_singleton.1 hs
    exact ⟨rfl, (eq_append_of_firstOpening? hopening).1⟩

/-- The search goes on behind a clause that hides no instance, and what it finds in the clause is
the clause without its blanks. -/
theorem scan_text (hc : ¬ c.Hides) (offset : Nat) :
    (∀ t, Statement.scan 0 offset true (c.text ++ t) =
      c.found offset ++ Statement.scan 0 (offset + byteLength c.text) true t) ∧
    ∀ s ∈ c.found offset, s.start = offset + byteLength c.gap ∧ c.text = c.gap ++ s.text := by
  obtain ⟨ss, hss, hstart⟩ := exists_scan_text hc offset
  obtain rfl : c.found offset = ss := by
    have hfound := hss []
    rwa [List.append_nil, Statement.scan, List.append_nil] at hfound
  exact ⟨hss, hstart⟩

/-- Where no clause hides an instance, the search finds what is in each clause alone. -/
theorem scan_textAll {cs : List Clause} (hcs : ∀ c ∈ cs, ¬ c.Hides) (offset : Nat)
    (t : List Char) : Statement.scan 0 offset true (textAll cs ++ t) =
      foundAll offset cs ++ Statement.scan 0 (offset + byteLength (textAll cs)) true t := by
  induction cs generalizing offset with
  | nil => rfl
  | cons c cs ih =>
    rw [textAll_cons, List.append_assoc, (scan_text (hcs c List.mem_cons_self) _).1,
      ih fun d hd => hcs d (List.mem_cons_of_mem _ hd), foundAll, byteLength_append,
      List.append_assoc, Nat.add_assoc]

/-- What is found in clauses that hide no instance starts one of them. -/
theorem start_of_mem_foundAll {cs : List Clause} (hcs : ∀ c ∈ cs, ¬ c.Hides) {offset : Nat}
    {s : Statement} (hs : s ∈ foundAll offset cs) : ∃ before c after, cs = before ++ c :: after ∧
      s.start = offset + byteLength (textAll before ++ c.gap) ∧ c.text = c.gap ++ s.text := by
  induction cs generalizing offset with
  | nil => exact absurd hs List.not_mem_nil
  | cons c cs ih =>
    rcases List.mem_append.1 hs with hs | hs
    · exact ⟨[], c, cs, rfl, (scan_text (hcs c List.mem_cons_self) _).2 s hs⟩
    · obtain ⟨before, d, after, rfl, hstart, htext⟩ :=
        ih (fun d hd => hcs d (List.mem_cons_of_mem _ hd)) hs
      refine ⟨c :: before, d, after, rfl, ?_, htext⟩
      rw [hstart, textAll_cons, List.append_assoc, byteLength_append c.text, Nat.add_assoc]

/-- Where a clause hides an instance and no clause before it does, the search goes on at the number
sign of the instance. -/
theorem scan_textAll_of_opening? {before after : List Clause} (hbefore : ∀ b ∈ before, ¬ b.Hides)
    {u r : List Char} (hu : c.opening? = some (u, r)) (offset : Nat) (t : List Char) :
    Statement.scan 0 offset true (textAll (before ++ c :: after) ++ t) =
      foundAll offset before ++ Statement.scan 0 (offset + byteLength (textAll before ++ u)) true
        ('#' :: (r ++ (textAll after ++ t))) := by
  rw [textAll_append, textAll_cons, List.append_assoc, List.append_assoc, scan_textAll hbefore,
    text, List.append_assoc, List.singleton_append, Statement.scan_of_firstOpening?_eq_some hu,
    byteLength_append (textAll before), Nat.add_assoc]

theorem byteLength_gap_lt (c : Clause) : byteLength c.gap < byteLength c.text := by
  obtain ⟨r, hr⟩ : c.gap <+: c.body := List.takeWhile_prefix _
  have hpos := Char.utf8Size_pos ';'
  rw [text, ← hr, byteLength_append, byteLength_append, byteLength_cons]
  omega

/-- No other clause starts where an instance is hidden. -/
theorem start_ne_of_opening? {before after before' after' : List Clause} {c' : Clause}
    {u r : List Char} (hopening : c.opening? = some (u, r)) (hu : u ≠ c.gap)
    (hcs : before ++ c :: after = before' ++ c' :: after') :
    byteLength (textAll before ++ u) ≠ byteLength (textAll before' ++ c'.gap) := by
  have htext := (eq_append_of_firstOpening? hopening).1
  have hlt : byteLength u < byteLength c.text := by
    have hpos := Char.utf8Size_pos '#'
    rw [htext, byteLength_append, byteLength_cons]
    omega
  have hlt' := c'.byteLength_gap_lt
  have hne : byteLength u ≠ byteLength c.gap := fun he =>
    hu (eq_of_prefix_of_byteLength_eq (htext ▸ List.prefix_append _ _)
      ((List.takeWhile_prefix _).trans (List.prefix_append _ _)) he)
  rw [byteLength_append, byteLength_append]
  -- If one of the splits is behind the other, a whole clause is between them.
  rcases List.append_eq_append_iff.1 hcs with ⟨a, rfl, ha⟩ | ⟨a, rfl, ha⟩ <;> cases a with
  | nil =>
    obtain ⟨rfl, rfl⟩ := List.cons.inj ha
    rw [List.append_nil]
    omega
  | cons d a =>
    obtain ⟨rfl, rfl⟩ := List.cons.inj ha
    rw [textAll_append, textAll_cons, byteLength_append, byteLength_append]
    omega

/-- Every literal is closed where a clause starts. -/
theorem count_textAll (before : List Clause) (c : Clause) :
    (textAll before ++ c.gap).count '\'' % 2 = 0 := by
  have hgap : c.gap.count '\'' = 0 :=
    List.count_eq_zero.2 (not_mem_of_all c.all_gap (by decide))
  rw [List.count_append, hgap, Nat.add_zero]
  induction before with
  | nil => rfl
  | cons b before ih =>
    have hb := b.closed
    have hsemicolon : [';'].count '\'' = 0 := rfl
    rw [textAll_cons, List.count_append, text, List.count_append, hsemicolon]
    omega

end Clause

namespace Statement

open Clause

section

variable {front closing : List Char} (hfront : ¬ sectionStart <:+: front ++ sectionStart.dropLast)
  (hclosing : '#' ∉ closing)

include hfront hclosing

/-- Where no clause hides an instance, what is found is found in each of the clauses alone. -/
theorem ofContent_content_of_not_hides {cs : List Clause} (hcs : ∀ c ∈ cs, ¬ c.Hides) :
    ofContent (content front cs closing) = foundAll (byteLength (front ++ sectionStart)) cs := by
  rw [content, ofContent_append hfront, scan_textAll hcs, scan_eq_nil hclosing, List.append_nil]

omit hclosing in
theorem ofContent_content_of_opening? {before after : List Clause} {c : Clause} {u r : List Char}
    (hbefore : ∀ b ∈ before, ¬ b.Hides) (hu : c.opening? = some (u, r)) :
    ofContent (content front (before ++ c :: after) closing) =
      foundAll (byteLength (front ++ sectionStart)) before ++
        scan 0 (byteLength (front ++ (sectionStart ++ (textAll before ++ u)))) true
          ('#' :: (r ++ (textAll after ++ closing))) := by
  rw [content, ofContent_append hfront, scan_textAll_of_opening? hbefore hu, ← byteLength_append,
    List.append_assoc]

end

/-- In a content of clauses behind its first section word, with no number sign behind them, what is
found starts clauses, outside literals, if and only if the first clause that hides an instance, where
there is one, hides an instance whose statement does not end. Where no clause hides one, what is
found in each clause alone is found, and it is the clause without the blanks in front. -/
theorem found_at_clauses_iff {front closing : List Char}
    (hfront : ¬ sectionStart <:+: front ++ sectionStart.dropLast) (hclosing : '#' ∉ closing)
    (cs : List Clause) :
    ((∀ c ∈ cs, ¬ c.Hides) →
      ofContent (content front cs closing) = foundAll (byteLength (front ++ sectionStart)) cs ∧
      ∀ c ∈ cs, ∀ offset, ∀ s ∈ c.found offset, c.text = c.gap ++ s.text) ∧
    ((∀ s ∈ ofContent (content front cs closing), ∃ before c after, cs = before ++ c :: after ∧
        s.start = byteLength (front ++ (sectionStart ++ (textAll before ++ c.gap))) ∧
        (textAll before ++ c.gap).count '\'' % 2 = 0) ↔
      ∀ before c after, cs = before ++ c :: after → (∀ b ∈ before, ¬ b.Hides) →
        ∀ u r, c.opening? = some (u, r) → u ≠ c.gap →
          sighting (r ++ (textAll after ++ closing)) = .endless) := by
  have hoffset (before : List Clause) (u : List Char) :
      byteLength (front ++ (sectionStart ++ (textAll before ++ u))) =
        byteLength (front ++ sectionStart) + byteLength (textAll before ++ u) := by
    rw [← byteLength_append, List.append_assoc]
  refine ⟨fun hcs => ⟨ofContent_content_of_not_hides hfront hclosing hcs,
    fun c hc offset s hs => ((scan_text (hcs c hc) offset).2 s hs).2⟩, ?_, ?_⟩
  -- The search comes to the first hidden instance, and would find it where no clause starts.
  · intro hstarts before c after hsplit hbefore u r hopening hu
    have hcontent : ofContent (content front (before ++ c :: after) closing) = _ :=
      ofContent_content_of_opening? hfront hbefore hopening
    rw [scan, ← hsplit] at hcontent
    cases hsighting : sighting (r ++ (textAll after ++ closing)) with
    | endless => rfl
    | none =>
      exact absurd hsighting (sighting_append_ne_none (eq_append_of_firstOpening? hopening).2 _)
    | statement id tag text =>
      rw [hsighting] at hcontent
      obtain ⟨before', c', after', hsplit', hstart, -⟩ := hstarts _ (by
        rw [hcontent]
        exact List.mem_append_right _ List.mem_cons_self)
      rw [hoffset, hoffset] at hstart
      exact absurd (Nat.add_left_cancel hstart)
        (start_ne_of_opening? hopening hu (hsplit.symm.trans hsplit'))
  · intro hendless s hs
    -- What is found starts one of the clauses before the first one that hides an instance.
    obtain ⟨before, after, hsplit, hbefore, hs⟩ : ∃ before after, cs = before ++ after ∧
        (∀ b ∈ before, ¬ b.Hides) ∧ s ∈ foundAll (byteLength (front ++ sectionStart)) before := by
      cases hfind : cs.find? (·.Hides) with
      | none =>
        have hcs : ∀ c ∈ cs, ¬ c.Hides := by simpa using hfind
        rw [ofContent_content_of_not_hides hfront hclosing hcs] at hs
        exact ⟨cs, [], (List.append_nil _).symm, hcs, hs⟩
      | some c =>
        obtain ⟨hhides, before, after, rfl, hbefore⟩ := List.find?_eq_some_iff_append.1 hfind
        obtain ⟨⟨u, r⟩, hopening, hu⟩ : c.Hides := by simpa using hhides
        have hbefore : ∀ b ∈ before, ¬ b.Hides := by simpa using hbefore
        rw [ofContent_content_of_opening? hfront hbefore hopening, scan,
          hendless before c after rfl hbefore u r hopening hu] at hs
        exact ⟨before, c :: after, rfl, hbefore, by simpa using hs⟩
    obtain ⟨before, c, between, rfl, hstart, -⟩ := start_of_mem_foundAll hbefore hs
    refine ⟨before, c, between ++ after, by simp [hsplit], ?_, count_textAll before c⟩
    rw [hoffset, hstart]

/-- A wall with a semicolon and an instance in its only literal. -/
def quotingClause : Clause where
  body := "\n#7=IFCWALL('; #2=IFCDOOR();')".toList
  closed := by decide
  quoted := by decide

/-- A complex instance with an instance in a literal. The statement of the instance ends with the
clause. -/
def complexClause : Clause where
  body := "\n#1=(A(1)B(' #2=IFCWALL();'))".toList
  closed := by decide
  quoted := by decide

/-- A complex instance with an instance in a literal. The literal of the instance does not end. -/
def endlessClause : Clause where
  body := "\n#1=(A(' #2=IFCWALL('))".toList
  closed := by decide
  quoted := by decide

theorem cases_of_pair_eq_append {α : Type} {a b c : α} {before after : List α}
    (h : [a, b] = before ++ c :: after) :
    (before = [] ∧ c = a ∧ after = [b]) ∨ (before = [a] ∧ c = b ∧ after = []) := by
  rcases List.cons_eq_append_iff.1 h with ⟨rfl, h⟩ | ⟨before, rfl, h⟩
  · cases h
    exact .inl ⟨rfl, rfl, rfl⟩
  · obtain ⟨rfl, rfl, rfl⟩ : before = [] ∧ c = b ∧ after = [] := by
      simpa [List.append_eq_cons_iff] using h.symm
    exact .inr ⟨rfl, rfl, rfl⟩

/-- Behind a wall, an instance without an end is hidden, so only the wall is found. -/
theorem found_at_clauses_iff_endlessClause :
    ¬ sectionStart <:+: "A;DAT".toList ++ sectionStart.dropLast ∧ '#' ∉ "\nENDSEC;".toList ∧
      ¬ quotingClause.Hides ∧ endlessClause.Hides ∧
      ofContent (content "A;DAT".toList [quotingClause] "\nENDSEC;".toList) =
        [⟨7, "IFCWALL", 11, 41, "#7=IFCWALL('; #2=IFCDOOR();');".toList⟩] ∧
      ∀ s ∈ ofContent (content "A;DAT".toList [quotingClause, endlessClause] "\nENDSEC;".toList),
        s.start = 11 ∨ s.start = 42 := by
  have hfront : ¬ sectionStart <:+: "A;DAT".toList ++ sectionStart.dropLast := by decide
  have hclosing : '#' ∉ "\nENDSEC;".toList := by decide
  have hquoting : ¬ quotingClause.Hides := by decide +kernel
  have hopening : endlessClause.opening? =
      some ("\n#1=(A(' ".toList, "2=IFCWALL('));".toList) := by decide +kernel
  have hiff := (found_at_clauses_iff hfront hclosing [quotingClause, endlessClause]).2
  refine ⟨hfront, hclosing, hquoting, by decide +kernel, ?_, fun s hs => ?_⟩
  · rw [((found_at_clauses_iff hfront hclosing [quotingClause]).1 (by simpa using hquoting)).1]
    rfl
  · have hstarts := hiff.2 fun before c after hsplit hbefore u r hu hne => by
      rcases cases_of_pair_eq_append hsplit with ⟨rfl, rfl, rfl⟩ | ⟨rfl, rfl, rfl⟩
      · exact absurd ⟨_, hu, hne⟩ hquoting
      · rw [hopening] at hu
        cases hu
        rfl
    obtain ⟨before, c, after, hsplit, hstart, -⟩ := hstarts s hs
    rw [hstart]
    rcases cases_of_pair_eq_append hsplit with ⟨rfl, rfl, rfl⟩ | ⟨rfl, rfl, rfl⟩
    · exact .inl rfl
    · exact .inr rfl

/-- A wall is found in a literal, where no clause starts. -/
theorem found_in_literal :
    ¬ sectionStart <:+: "ISO-10303-21;\n".toList ++ sectionStart.dropLast ∧
      '#' ∉ "\nENDSEC;\n".toList ∧
      ∃ wall ∈ ofContent (content "ISO-10303-21;\n".toList [complexClause] "\nENDSEC;\n".toList),
        wall.id = 2 ∧
        (∃ u, u <+: complexClause.text ∧ u.count '\'' % 2 = 1 ∧
          wall.start = byteLength ("ISO-10303-21;\n".toList ++ (sectionStart ++ u))) ∧
        ∀ before c after, [complexClause] = before ++ c :: after → wall.start ≠
          byteLength ("ISO-10303-21;\n".toList ++ (sectionStart ++ (textAll before ++ c.gap))) := by
  have hfront : ¬ sectionStart <:+: "ISO-10303-21;\n".toList ++ sectionStart.dropLast := by
    decide +kernel
  have hopening : complexClause.opening? =
      some ("\n#1=(A(1)B(' ".toList, "2=IFCWALL();'));".toList) := by decide +kernel
  refine ⟨hfront, by decide, ⟨2, "IFCWALL", 32, 45, "#2=IFCWALL();".toList⟩, ?_, rfl,
    ⟨"\n#1=(A(1)B(' ".toList, by decide, by decide, by decide⟩, fun before c after hsplit => ?_⟩
  · rw [← List.nil_append [complexClause], ofContent_content_of_opening? hfront (by simp) hopening]
    exact List.mem_append_right _ (List.mem_singleton.2 rfl)
  · rcases List.cons_eq_append_iff.1 hsplit with ⟨rfl, h⟩ | ⟨before, rfl, h⟩
    · cases h
      decide
    · simp at h

end Statement

end BuildingModel.Step
