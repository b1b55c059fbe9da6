import BuildingModel.Proofs.Step.Hexadecimal
import BuildingModel.Proofs.Step.Utf16

/-!
# Escapes in string literals

The body of a literal is a sequence of segments: runs of characters that stand for themselves and
escapes of every kind. What a segment stands for does not depend on what stands before it and behind
it, so the body stands for what its segments stand for, one after the other
(`decode_flatMap_text`). A text can be written in every style (`Style.segments`), piece by piece in
different ones, too, and is read back.
-/

namespace BuildingModel

namespace Text

/-- A word is first found behind a text in which its first character does not occur. -/
theorem search_append {c : Char} {word front : List Char} (h : c ∉ front) (before r : List Char) :
    afterFirst? (c :: word) (front ++ (c :: word ++ r)) = some r ∧
      beforeFirst (c :: word) before (front ++ (c :: word ++ r)) = before.reverse ++ front := by
  induction front generalizing before with
  | nil =>
    have hword : afterWord? (c :: word) (c :: (word ++ r)) = some r := afterWord?_append _ _
    rw [List.nil_append, List.cons_append, afterFirst?, beforeFirst, hword]
    exact ⟨rfl, (List.append_nil _).symm⟩
  | cons d front ih =>
    obtain ⟨hd, hfront⟩ := not_or.1 (mt List.mem_cons.2 h)
    have hword : afterWord? (c :: word) (d :: (front ++ (c :: word ++ r))) = none := by
      rw [afterWord?, if_neg (by simpa using hd)]
    obtain ⟨hafter, hbefore⟩ := ih hfront (d :: before)
    rw [List.cons_append, afterFirst?, beforeFirst, hword]
    exact ⟨hafter, by rw [hbefore]; simp⟩

end Text

namespace Step

/-! ## Segments -/

/-- No character of the text starts an escape. -/
def Plain (s : List Char) : Prop :=
  ∀ c ∈ s, c ≠ '\'' ∧ c ≠ '\\'

instance : DecidablePred Plain :=
  List.decidableBAll fun c => c ≠ '\'' ∧ c ≠ '\\'

/-- A part of the body of a literal. -/
inductive Segment where
  /-- Characters other than apostrophes and backslashes. -/
  | run (s : List Char) (plain : Plain s)
  /-- An apostrophe. -/
  | apostrophe
  /-- A backslash. -/
  | backslash
  /-- A character of the upper half of the codes of 8 bits, by the one 128 below. -/
  | upper (c : Char) (ascii : c.toNat < 128)
  /-- A character by its code of 8 bits. -/
  | octet (g : Group 2)
  /-- Characters by their UTF-16 units. -/
  | wide (gs : List (Group 4)) (ne_nil : gs ≠ [])
  /-- Characters by their codes of 32 bits. -/
  | wider (gs : List (Group 8)) (ne_nil : gs ≠ [])
  /-- The choice of a code page. -/
  | codePage (letter : Char) (isAlpha : letter.isAlpha = true)

/-- The digits of several groups. -/
def digitsOfAll {width : Nat} (gs : List (Group width)) : List Char :=
  (gs.map Group.digits).flatten

/-- How a segment is written. -/
def Segment.text : Segment → List Char
  | .run s _ => s
  | .apostrophe => ['\'', '\'']
  | .backslash => ['\\', '\\']
  | .upper c _ => ['\\', 'S', '\\', c]
  | .octet g => ['\\', 'X', '\\'] ++ g.digits
  | .wide gs _ => ['\\', 'X', '2', '\\'] ++ digitsOfAll gs ++ ['\\', 'X', '0', '\\']
  | .wider gs _ => ['\\', 'X', '4', '\\'] ++ digitsOfAll gs ++ ['\\', 'X', '0', '\\']
  | .codePage letter _ => ['\\', 'P', letter, '\\']

/-- A code stands for its character, or for the replacement character if it is that of none. -/
def CodeMeans (n : Nat) (c : Char) : Prop :=
  if n.isValidChar then c.toNat = n else c = '\uFFFD'

/-- What a segment stands for. -/
inductive Segment.Means : Segment → List Char → Prop
  | run {s : List Char} {plain : Plain s} : (run s plain).Means s
  | apostrophe : apostrophe.Means ['\'']
  | backslash : backslash.Means ['\\']
  | upper {c d : Char} {ascii : c.toNat < 128} : d.toNat = c.toNat + 128 → (upper c ascii).Means [d]
  | octet {g : Group 2} {c : Char} : c.toNat = g.code → (octet g).Means [c]
  | wide {gs : List (Group 4)} {ne_nil : gs ≠ []} {s : List Char} :
    Utf16 (gs.map Group.code) s → (wide gs ne_nil).Means s
  | wider {gs : List (Group 8)} {ne_nil : gs ≠ []} {s : List Char} :
    List.Forall₂ CodeMeans (gs.map Group.code) s → (wider gs ne_nil).Means s
  | codePage {letter : Char} {isAlpha : letter.isAlpha = true} : (codePage letter isAlpha).Means []

/-- What segments stand for, one after the other. -/
inductive Segment.AllMean : List Segment → List Char → Prop
  | nil : AllMean [] []
  | cons {p : Segment} {ps : List Segment} {s t : List Char} : p.Means s → AllMean ps t →
    AllMean (p :: ps) (s ++ t)

/-! ## Codes of characters -/

theorem codeMeans_iff {n : Nat} {c : Char} : CodeMeans n c ↔ charOfCode n = c := by
  rw [CodeMeans]
  split
  next h => rw [← Char.toNat_inj, toNat_charOfCode h, eq_comm]
  next h => rw [charOfCode_of_not_valid h, eq_comm]

theorem forall₂_codeMeans_iff {ns : List Nat} {s : List Char} :
    List.Forall₂ CodeMeans ns s ↔ ns.map charOfCode = s := by
  have hiff : CodeMeans = fun n c => charOfCode n = c :=
    funext fun _ => funext fun _ => propext codeMeans_iff
  rw [hiff, ← List.forall₂_map_left_iff (R := fun a b => a = b), List.forall₂_eq_eq_eq]

theorem toNat_ofNat_of_lt {n : Nat} (h : n < 0xD800) : (Char.ofNat n).toNat = n := by
  rw [ofNat_eq_charOfCode (.inl h), toNat_charOfCode (.inl h)]

/-! ## Groups in a wide escape -/

theorem isSome_mapM_iff {α β : Type} {f : α → Option β} {l : List α} :
    (l.mapM f).isSome ↔ ∀ a ∈ l, (f a).isSome := by
  induction l with
  | nil => exact ⟨fun _ => nofun, fun _ => rfl⟩
  | cons a l ih =>
    rw [List.mapM_cons, List.forall_mem_cons, ← ih]
    cases f a <;> cases l.mapM f <;> simp

theorem length_of_mapM_eq_some {α β : Type} {f : α → Option β} {l : List α} {r : List β}
    (h : l.mapM f = some r) : r.length = l.length := by
  induction l generalizing r with
  | nil =>
    cases h
    rfl
  | cons a l ih =>
    rw [List.mapM_cons] at h
    obtain ⟨b, -, h⟩ := Option.bind_eq_some_iff.1 h
    obtain ⟨r, hr, h⟩ := Option.bind_eq_some_iff.1 h
    cases h
    exact congrArg (· + 1) (ih hr)

/-- A group that is read has ASCII characters other than backslashes. -/
theorem ascii_of_isSome_group? {g : List Char} (h : (group? g).isSome) :
    ∀ c ∈ g, c.toNat < 0x80 ∧ c ≠ '\\' := by
  have hdigit {c : Char} (hc : c ∈ hexDigits) : c.toNat < 0x80 ∧ c ≠ '\\' :=
    ⟨toNat_lt_of_mem_hexDigits hc, fun heq => absurd (heq ▸ hc) (by decide)⟩
  obtain ⟨ds, -, hds, rfl | rfl⟩ := isSome_group?_iff.1 h
  · exact fun c hc => hdigit (hds c hc)
  · exact List.forall_mem_cons.2 ⟨by decide, fun c hc => hdigit (hds c hc)⟩

/-- The groups of a wide escape are cut from the text before the closing word. -/
theorem wide?_append {width : Nat} {body : List Char} (h : '\\' ∉ body) (r : List Char) :
    wide? width (body ++ (wideEnd ++ r)) =
      if body.isEmpty || body.length % width != 0 || body.any (0x80 ≤ ·.toNat) then none
      else ((groups width (body.length / width) body).mapM group?).map fun codes =>
        (if width == 4 then ofUnits codes else codes.map charOfCode, body.length + 4) := by
  have hsearch : Text.afterFirst? wideEnd (body ++ (wideEnd ++ r)) = some r ∧
      Text.beforeFirst wideEnd [] (body ++ (wideEnd ++ r)) = [].reverse ++ body :=
    Text.search_append h [] r
  obtain ⟨hafter, hbefore⟩ := hsearch
  rw [wide?, hafter]
  simp only [hbefore, List.reverse_nil, List.nil_append]
  split
  · rfl
  · cases (groups width (body.length / width) body).mapM group? <;> rfl

/-- Groups that are read make a wide escape. -/
theorem wide?_flatten {width : Nat} (hwidth : 0 < width) {gs : List (List Char)} (hne : gs ≠ [])
    (hlength : ∀ g ∈ gs, g.length = width) {codes : List Nat} (hcodes : gs.mapM group? = some codes)
    (r : List Char) : wide? width (gs.flatten ++ (wideEnd ++ r)) =
      some (if width == 4 then ofUnits codes else codes.map charOfCode, gs.flatten.length + 4) := by
  have hread : ∀ g ∈ gs, (group? g).isSome := isSome_mapM_iff.1 (by rw [hcodes]; rfl)
  have hascii : ∀ c ∈ gs.flatten, c.toNat < 0x80 ∧ c ≠ '\\' := by
    intro c hc
    obtain ⟨g, hg, hcg⟩ := List.mem_flatten.1 hc
    exact ascii_of_isSome_group? (hread g hg) c hcg
  have hcount := length_flatten_of_length hlength
  have hempty : gs.flatten.isEmpty = false := by
    rw [List.isEmpty_eq_false_iff, ← List.length_pos_iff, hcount]
    exact Nat.mul_pos hwidth (List.length_pos_iff.2 hne)
  have hany : gs.flatten.any (fun c => decide (0x80 ≤ c.toNat)) = false :=
    List.any_eq_false.2 fun c hc => by simpa using (hascii c hc).1
  rw [wide?_append (fun hmem => (hascii _ hmem).2 rfl), hempty, hany, hcount, Nat.mul_mod_right,
    Nat.mul_div_cancel_left _ hwidth, groups_flatten hlength, hcodes]
  rfl

/-- A wide escape has groups that are read. -/
theorem exists_of_isSome_wide? {width : Nat} {body r : List Char} (h : '\\' ∉ body)
    (hsome : (wide? width (body ++ (wideEnd ++ r))).isSome) :
    ∃ gs, gs ≠ [] ∧ gs.flatten = body ∧ ∀ g ∈ gs, g.length = width ∧ (group? g).isSome := by
  rw [wide?_append h] at hsome
  split at hsome
  · cases hsome
  next hbody =>
    simp only [Bool.or_eq_true, not_or, bne_iff_ne, ne_eq, not_not, List.isEmpty_iff] at hbody
    obtain ⟨⟨hne, hmod⟩, -⟩ := hbody
    have hcount : body.length = width * (body.length / width) :=
      (Nat.mul_div_cancel' (Nat.dvd_of_mod_eq_zero hmod)).symm
    obtain ⟨hflatten, hlength⟩ := flatten_groups hcount
    rw [Option.isSome_map, isSome_mapM_iff] at hsome
    refine ⟨_, ?_, hflatten, fun g hg => ⟨hlength g hg, hsome g hg⟩⟩
    rintro hnil
    rw [hnil] at hflatten
    exact hne hflatten.symm

/-- The groups of digits of a wide escape are read as their codes. -/
theorem wide?_digitsOfAll {width : Nat} (hwidth : 0 < width) {gs : List (Group width)}
    (hne : gs ≠ []) (r : List Char) : wide? width (digitsOfAll gs ++ (wideEnd ++ r)) =
      some (if width == 4 then ofUnits (gs.map Group.code) else (gs.map Group.code).map charOfCode,
        (digitsOfAll gs).length + 4) := by
  have hread : group? ∘ Group.digits = fun g : Group width => pure g.code :=
    funext fun g => g.group?_digits hwidth
  refine wide?_flatten hwidth (by simpa using hne) ?_ ?_ r
  · intro ds hds
    obtain ⟨g, -, rfl⟩ := List.mem_map.1 hds
    exact g.length_digits
  · rw [List.mapM_map, hread, List.mapM_pure]
    rfl

/-! ## Reading a segment -/

/-- Characters other than apostrophes and backslashes stand for themselves. -/
theorem decode_run_append {s : List Char} (h : Plain s) (r : List Char) :
    decode (s ++ r) = s ++ decode r := by
  induction s with
  | nil => rfl
  | cons c s ih =>
    obtain ⟨⟨hq, hb⟩, hs⟩ := List.forall_mem_cons.1 h
    rw [List.cons_append, decode_cons_of_ne hq hb, ih hs, List.cons_append]

/-- An escape at the front stands for its characters, and reading goes on behind it. -/
theorem decode_escape_append {t r chars : List Char} (hne : t ≠ [])
    (h : escape? (t ++ r) = some (chars, t.length)) : decode (t ++ r) = chars ++ decode r := by
  obtain ⟨c, t, rfl⟩ := List.exists_cons_of_ne_nil hne
  rw [List.cons_append] at h ⊢
  rw [decode_cons_of_escape? h, List.length_cons, Nat.add_sub_cancel, List.drop_left]

/-- A segment stands for the same before any text. -/
theorem Segment.Means.decode_text_append {p : Segment} {s : List Char} (h : p.Means s)
    (r : List Char) : decode (p.text ++ r) = s ++ decode r := by
  cases h with
  | @run s plain => exact decode_run_append plain r
  | apostrophe => exact decode_escape_append (by simp [Segment.text]) rfl
  | backslash => exact decode_escape_append (by simp [Segment.text]) rfl
  | @upper c d ascii hd =>
    have hchar : Char.ofNat (c.toNat + 128) = d := by
      rw [← Char.toNat_inj, toNat_ofNat_of_lt (by omega), hd]
    refine decode_escape_append (by simp [Segment.text]) ?_
    simp [Segment.text, escape?, ascii, hchar]
  | @octet g c hc =>
    obtain ⟨a, b, hab⟩ := List.length_eq_two.1 g.length_digits
    have hgroup := g.group?_digits (by decide)
    have hlt := g.code_lt
    have hchar : Char.ofNat g.code = c := by
      rw [← Char.toNat_inj, toNat_ofNat_of_lt (by omega), hc]
    refine decode_escape_append (by simp [Segment.text]) ?_
    rw [hab] at hgroup
    simp [Segment.text, escape?, hab, hgroup, hchar]
  | @wide gs ne_nil s hs =>
    have hunits : ofUnits (gs.map Group.code) = s := (utf16_iff Group.lt_of_mem_map_code).1 hs
    have htext : (Segment.wide gs ne_nil).text ++ r =
        '\\' :: 'X' :: '2' :: '\\' :: (digitsOfAll gs ++ (wideEnd ++ r)) := by
      simp [Segment.text, wideEnd]
    refine decode_escape_append (by simp [Segment.text]) ?_
    rw [htext, escape?, wide?_digitsOfAll (by decide) ne_nil, Option.map_some]
    simp [Segment.text, hunits]
  | @wider gs ne_nil s hs =>
    have htext : (Segment.wider gs ne_nil).text ++ r =
        '\\' :: 'X' :: '4' :: '\\' :: (digitsOfAll gs ++ (wideEnd ++ r)) := by
      simp [Segment.text, wideEnd]
    refine decode_escape_append (by simp [Segment.text]) ?_
    rw [htext, escape?, wide?_digitsOfAll (by decide) ne_nil, Option.map_some]
    simp [Segment.text, forall₂_codeMeans_iff.1 hs]
  | @codePage letter isAlpha =>
    have hascii : letter.toNat < 0x80 :=
      Text.toNat_lt_of_isAlphanum (by simp [Char.isAlphanum, isAlpha])
    refine decode_escape_append (by simp [Segment.text]) ?_
    simp [Segment.text, escape?, hascii]

/-- Every segment stands for something. -/
theorem Segment.exists_means (p : Segment) : ∃ s, p.Means s := by
  cases p with
  | run s plain => exact ⟨s, .run⟩
  | apostrophe => exact ⟨_, .apostrophe⟩
  | backslash => exact ⟨_, .backslash⟩
  | upper c ascii => exact ⟨_, .upper (toNat_ofNat_of_lt (by omega))⟩
  | octet g => exact ⟨_, .octet (toNat_ofNat_of_lt (Nat.lt_trans g.code_lt (by decide)))⟩
  | wide gs ne_nil => exact ⟨_, .wide (utf16_ofUnits Group.lt_of_mem_map_code)⟩
  | wider gs ne_nil => exact ⟨_, .wider (forall₂_codeMeans_iff.2 rfl)⟩
  | codePage letter isAlpha => exact ⟨_, .codePage⟩

/-! ## Reading segments -/

namespace Segment

theorem AllMean.decode_eq {ps : List Segment} {s : List Char} (h : AllMean ps s) :
    decode (ps.flatMap text) = s := by
  induction h with
  | nil => rfl
  | cons hp _ ih => rw [List.flatMap_cons, hp.decode_text_append, ih]

theorem exists_allMean (ps : List Segment) : ∃ s, AllMean ps s := by
  induction ps with
  | nil => exact ⟨_, .nil⟩
  | cons p ps ih =>
    obtain ⟨s, hs⟩ := p.exists_means
    obtain ⟨t, ht⟩ := ih
    exact ⟨_, .cons hs ht⟩

theorem AllMean.append {ps qs : List Segment} {s t : List Char} (hs : AllMean ps s)
    (ht : AllMean qs t) : AllMean (ps ++ qs) (s ++ t) := by
  induction hs with
  | nil => exact ht
  | cons hp _ ih =>
    rw [List.append_assoc]
    exact .cons hp ih

theorem allMean_singleton {p : Segment} {s : List Char} (h : p.Means s) : AllMean [p] s :=
  List.append_nil s ▸ .cons h .nil

/-- The segment of one character. -/
def ofChar (c : Char) : Segment :=
  if hq : c = '\'' then .apostrophe
  else if hb : c = '\\' then .backslash
  else .run [c] (by simp [Plain, hq, hb])

theorem means_ofChar (c : Char) : (ofChar c).Means [c] := by
  unfold ofChar
  split
  next hq => exact hq ▸ .apostrophe
  split
  next hb => exact hb ▸ .backslash
  exact .run

end Segment

/-! ## Writing text -/

/-- A style that every text can be written in. -/
inductive Style where
  /-- Characters stand for themselves, apostrophes and backslashes are doubled. -/
  | plain
  /-- One escape has the UTF-16 units. -/
  | wide
  /-- One escape has the codes of 32 bits. -/
  | wider

theorem flatMap_units_ne_nil (c : Char) (s : List Char) : (c :: s).flatMap units ≠ [] := by
  rw [List.flatMap_cons, units]
  split <;> exact List.cons_ne_nil _ _

/-- The segments of a text. -/
def Style.segments : Style → List Char → List Segment
  | _, [] => []
  | .plain, s => s.map Segment.ofChar
  | .wide, c :: s => [.wide (((c :: s).flatMap units).map (Group.ofCode 4))
      (List.map_eq_nil_iff.not.2 (flatMap_units_ne_nil c s))]
  | .wider, c :: s => [.wider (((c :: s).map Char.toNat).map (Group.ofCode 8))
      (List.cons_ne_nil _ _)]

theorem lt_of_mem_flatMap_units {s : List Char} : ∀ u ∈ s.flatMap units, u < 0x10000 := by
  intro u hu
  obtain ⟨c, -, hu⟩ := List.mem_flatMap.1 hu
  have hlt : c.toNat < 0x110000 := (isValidChar_iff.1 c.valid).1
  unfold units at hu
  split at hu
  next h => rwa [List.mem_singleton.1 hu]
  next h =>
    simp only [List.mem_cons, List.not_mem_nil, or_false] at hu
    omega

theorem map_code_ofCode {width : Nat} {ns : List Nat} (h : ∀ n ∈ ns, n < 16 ^ width) :
    (ns.map (Group.ofCode width)).map Group.code = ns := by
  rw [List.map_map]
  exact (List.map_congr_left fun n hn => Group.code_ofCode (h n hn)).trans (List.map_id ns)

/-- The segments of a text stand for it. -/
theorem Style.allMean_segments (y : Style) (s : List Char) : Segment.AllMean (y.segments s) s := by
  cases s with
  | nil => cases y <;> exact .nil
  | cons c s =>
    cases y with
    | plain =>
      -- The induction is on texts with the empty one, which has no segments in any style.
      change Segment.AllMean ((c :: s).map Segment.ofChar) (c :: s)
      generalize c :: s = s
      induction s with
      | nil => exact .nil
      | cons c s ih => exact .cons (Segment.means_ofChar c) ih
    | wide =>
      refine Segment.allMean_singleton (.wide ?_)
      rw [map_code_ofCode lt_of_mem_flatMap_units, utf16_iff lt_of_mem_flatMap_units]
      exact ofUnits_flatMap_units _
    | wider =>
      have hlt : ∀ n ∈ (c :: s).map Char.toNat, n < 16 ^ 8 := by
        intro n hn
        obtain ⟨d, -, rfl⟩ := List.mem_map.1 hn
        exact Nat.lt_trans (isValidChar_iff.1 d.valid).1 (by decide)
      refine Segment.allMean_singleton (.wider (forall₂_codeMeans_iff.2 ?_))
      rw [map_code_ofCode hlt, List.map_map]
      exact (List.map_congr_left fun d _ => charOfCode_toNat d).trans (List.map_id _)

/-- Segments of all kinds, one after the other, are read as what they stand for. Whatever styles the
pieces of a text are written in, the text is read back. -/
theorem decode_flatMap_text :
    (∀ (ps : List Segment) (s : List Char),
      decode (ps.flatMap Segment.text) = s ↔ Segment.AllMean ps s) ∧
      ∀ pieces : List (Style × List Char),
        decode ((pieces.flatMap fun p => p.1.segments p.2).flatMap Segment.text) =
          pieces.flatMap (·.2) := by
  refine ⟨fun ps s => ⟨fun h => ?_, Segment.AllMean.decode_eq⟩, fun pieces => ?_⟩
  · -- The segments stand for something, and only for what they are read as.
    obtain ⟨t, ht⟩ := Segment.exists_allMean ps
    rwa [← h, ht.decode_eq]
  · refine Segment.AllMean.decode_eq ?_
    induction pieces with
    | nil => exact .nil
    | cons p pieces ih => exact (p.1.allMean_segments p.2).append ih

end Step

end BuildingModel
