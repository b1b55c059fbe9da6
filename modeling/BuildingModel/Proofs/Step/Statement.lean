import BuildingModel.Proofs.Step.Opening
import BuildingModel.Proofs.Text.Search

/-!
# Finding statements

The search for statements takes what is sighted at a number sign.

* `id_of_parse_digits`: an instance has the name that its text starts with;
* `Statement.scan_statement`: the search goes on right behind a statement, so nothing inside of it
  is taken for another one;
* `Statement.sighting_of_mem`: nothing is found but what is sighted.
-/

namespace BuildingModel.Step

open Text

/-! ## Instances -/

/-- What the text behind an instance name, from its first character that is no blank on, makes of
the instance. -/
def afterName (id : EntityId) : List Char → Except SyntaxError Instance
  | '=' :: r => (Record.parse (dropBlanks r)).map (Instance.mk id)
  | _ => .error .missingEquals

/-- An instance starts with a number sign and the digits of its name. -/
theorem parse_digits {ds r : List Char} {id : EntityId} (hds : ds ≠ [])
    (hdigit : ∀ c ∈ ds, c.isDigit = true) (hhead : ∀ c ∈ r.head?, c.isDigit = false)
    (hid : entityId? ds = some id) :
    Instance.parse ('#' :: (ds ++ r)) = afterName id (dropBlanks r) := by
  have hsign : ∀ c ∈ ('#' :: (ds ++ r)).head?, isBlank c = false := by
    rintro c ⟨⟩
    decide
  rw [Instance.parse, trimLeft, dropWhile_eq_self hsign]
  simp only [takeWhile_run hdigit hhead, dropWhile_run hdigit hhead, hid, List.isEmpty_iff, hds,
    if_false]
  generalize dropBlanks r = t
  fun_cases afterName id t with
  | case1 r =>
    split
    next r' he =>
      cases he
      cases Record.parse (dropBlanks r) <;> rfl
    next h => exact absurd rfl (h r)
  | case2 t h =>
    split
    next r => exact absurd rfl (h r)
    next => rfl

/-- An instance has the name that its text starts with. -/
theorem id_of_parse_digits {ds r : List Char} {id : EntityId} {i : Instance} (hds : ds ≠ [])
    (hdigit : ∀ c ∈ ds, c.isDigit = true) (hhead : ∀ c ∈ r.head?, c.isDigit = false)
    (hid : entityId? ds = some id) (h : Instance.parse ('#' :: (ds ++ r)) = .ok i) :
    i.id = id := by
  rw [parse_digits hds hdigit hhead hid] at h
  unfold afterName at h
  split at h
  next r _ =>
    cases hr : Record.parse (dropBlanks r) with
    | ok record => rw [hr] at h; cases h; rfl
    | error e => rw [hr] at h; cases h
  next => cases h

/-- The text of a statement is its number sign, the digits of its name, and what is no digit. -/
theorem exists_digits_of_sighting {s tag text : List Char} {id : EntityId}
    (h : sighting s = .statement id tag text) :
    ∃ ds r, text = '#' :: (ds ++ r) ∧ ds ≠ [] ∧ (∀ c ∈ ds, c.isDigit = true) ∧
      (∀ c ∈ r.head?, c.isDigit = false) ∧ entityId? ds = some id := by
  obtain ⟨o, body, r, -, ⟨rfl, rfl, rfl⟩, -⟩ := exists_opening_of_sighting h
  exact ⟨o.digits.chars, _, congrArg _ (o.text_append _), o.digits.ne_nil, o.digits.all,
    o.head_before _, o.entityId?_digits⟩

/-! ## The search for statements -/

namespace Statement

/-- The search goes on behind the characters it has to skip. -/
theorem scan_skip (s : List Char) (c : Char) (offset : Nat) (fresh : Bool) (r : List Char) :
    scan (s.length + 1) offset fresh (s ++ c :: r) =
      scan 0 (offset + byteLength s + c.utf8Size) (mayFollow c) r := by
  induction s generalizing offset fresh with
  | nil => rfl
  | cons d s ih =>
    rw [List.length_cons, List.cons_append, scan, ih, byteLength_cons, Nat.add_assoc offset]

theorem scan_cons_of_ne {c : Char} (h : c ≠ '#') (offset : Nat) (fresh : Bool) (r : List Char) :
    scan 0 offset fresh (c :: r) = scan 0 (offset + c.utf8Size) (mayFollow c) r := by
  rw [scan, beq_false_of_ne h]
  rfl

/-- Without a number sign there are no statements. -/
theorem scan_eq_nil {s : List Char} (h : '#' ∉ s) (offset : Nat) (fresh : Bool) :
    scan 0 offset fresh s = [] := by
  induction s generalizing offset fresh with
  | nil => rfl
  | cons c r ih =>
    rw [scan_cons_of_ne fun e => h (e ▸ List.mem_cons_self)]
    exact ih (fun hr => h (List.mem_cons_of_mem _ hr)) _ _

/-- A statement is found at its start, and the search goes on right behind it. -/
theorem scan_statement {id : EntityId} {tag body r : List Char}
    (h : sighting (body ++ ';' :: r) = .statement id tag ('#' :: (body ++ [';'])))
    (offset : Nat) :
    scan 0 offset true ('#' :: (body ++ ';' :: r)) =
      ⟨id, String.ofList tag, offset, offset + byteLength ('#' :: (body ++ [';'])),
        '#' :: (body ++ [';'])⟩
        :: scan 0 (offset + byteLength ('#' :: (body ++ [';']))) true r := by
  have hlength : ('#' :: (body ++ [';'])).length - 1 = body.length + 1 := by simp
  have hbytes : byteLength ('#' :: (body ++ [';']))
      = '#'.utf8Size + byteLength body + ';'.utf8Size := by
    rw [byteLength_cons, byteLength_append, Nat.add_assoc]
    rfl
  rw [scan, h]
  simp only [beq_self_eq_true, Bool.and_true, if_true, hlength, scan_skip, hbytes]
  rw [← Nat.add_assoc, ← Nat.add_assoc]
  rfl

/-- The statements of a content are those behind its first section word. -/
theorem ofContent_append {front : List Char}
    (hfront : ¬ sectionStart <:+: front ++ sectionStart.dropLast) (t : List Char) :
    ofContent (String.ofList (front ++ (sectionStart ++ t))) =
      scan 0 (byteLength (front ++ sectionStart)) true t := by
  rw [ofContent, String.toList_ofList, afterFirst?_append hfront, ← List.append_assoc,
    byteLength_append (front ++ sectionStart)]
  simp only [Nat.add_sub_cancel]

/-- The search finds nothing but what is sighted at a number sign. -/
theorem sighting_of_mem_scan {skip offset : Nat} {fresh : Bool} {t : List Char} {s : Statement}
    (h : s ∈ scan skip offset fresh t) :
    ∃ r tag, sighting r = .statement s.id tag s.text ∧ s.tag = String.ofList tag := by
  induction t generalizing skip offset fresh with
  | nil => cases skip <;> cases h
  | cons c t ih =>
    cases skip with
    | succ skip => exact ih h
    | zero =>
      rw [scan] at h
      split at h
      · split at h
        · cases h
        next id tag text hs =>
          rcases List.mem_cons.1 h with rfl | h
          · exact ⟨t, tag, hs, rfl⟩
          · exact ih h
        · exact ih h
      · exact ih h

/-- The statements of a content are sighted at number signs. -/
theorem sighting_of_mem {content : String} {s : Statement} (h : s ∈ ofContent content) :
    ∃ r tag, sighting r = .statement s.id tag s.text ∧ s.tag = String.ofList tag := by
  rw [ofContent] at h
  split at h
  · exact sighting_of_mem_scan h
  · exact sighting_of_mem_scan h

/-- The text of a statement of a content starts with the name of the statement. -/
theorem exists_digits_of_mem {content : String} {s : Statement} (h : s ∈ ofContent content) :
    ∃ ds r, s.text = '#' :: (ds ++ r) ∧ ds ≠ [] ∧ (∀ c ∈ ds, c.isDigit = true) ∧
      (∀ c ∈ r.head?, c.isDigit = false) ∧ entityId? ds = some s.id := by
  obtain ⟨r, tag, hr, -⟩ := sighting_of_mem h
  exact exists_digits_of_sighting hr

end Statement

end BuildingModel.Step
