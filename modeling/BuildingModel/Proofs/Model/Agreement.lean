import BuildingModel.Proofs.Model.Index
import BuildingModel.Proofs.Step.Keyword
import BuildingModel.Proofs.Step.Span

/-!
# The search and the reader

The search for statements tells the name, the tag and the place of an instance; the reader of
instances reads the text at that place by other rules for blanks and words. Whatever the content is,
both agree (`search_and_reader_agree`): what the reader is given is the text at the place, and what
it reads has the name of the statement. It has the type of the statement too, unless the tag is
followed by a letter or a digit that is not of ASCII, as the reader takes it for a part of the
keyword.
-/

namespace BuildingModel.EntityIndex

open Step

/-- Where the tag of a statement is the whole keyword, the entity in it has the type of the
statement. -/
theorem type_of_parse {s : Statement} {o : Opening} {body : List Char} {e : Entity}
    (ho : s.OpensWith o body)
    (hbody : ∀ c ∈ body.head?, Text.isLetterOrDigit c = true → c.toNat < 0x80)
    (he : Entity.parse s.text = .ok e) : e.type = .ofTag s.tag := by
  have hword : ∀ c ∈ (body ++ [';']).head?, Text.isWordChar c = false := by
    cases body with
    | nil => exact forall_mem_head?_cons (by decide) []
    | cons d body =>
      refine forall_mem_head?_cons (Bool.eq_false_iff.2 fun hword => ?_) _
      have htag := Text.isTagChar_of_isWordChar (hbody d rfl) hword
      rw [ho.head_body d rfl] at htag
      cases htag
  rw [ho.text_eq, Entity.parse] at he
  cases hi : Instance.parse ('#' :: (o.text ++ (body ++ [';']))) with
  | error _ => rw [hi] at he; cases he
  | ok i =>
    rw [hi] at he
    cases he
    rw [Entity.ofInstance, o.keyword_of_parse hi, Text.takeWhile_eq_nil hword, List.append_nil,
      ho.tag_eq]

/-- The statements of a content are finitely many, stand in its order and do not overlap. Each one
is a slice of the content that starts with its number sign and name and ends with its semicolon. What
an entry holds is read from the slice at its place. Entities have the name that they are found under,
and the type of their statement where no letter or digit outside ASCII follows its tag. -/
theorem search_and_reader_agree (content : String) :
    (5 * (Statement.ofContent content).length ≤ content.length ∧
        (Statement.ofContent content).Pairwise fun s s' => s.stop ≤ s'.start) ∧
      (∀ s ∈ Statement.ofContent content, s.start < s.stop ∧
        Text.IsSlice content s.start s.stop s.text ∧
        ∃ o body, s.OpensWith o body ∧ Text.digitsValue o.digits.chars = s.id.toNat) ∧
      (∀ id entry, entry? (ofContent content) id = some entry →
        ∃ text, Text.IsSlice content entry.start entry.stop text ∧
          entry.entity? = (Entity.parse text).toOption) ∧
      ∀ id e, (ofContent content).get? id = some e → e.id = id ∧
        ∃ s ∈ Statement.ofContent content, s.id = id ∧
          entry? (ofContent content) id = some (.ofStatement s) ∧
          ∀ o body, s.OpensWith o body →
            (∀ c ∈ body.head?, Text.isLetterOrDigit c = true → c.toNat < 0x80) →
            (ofContent content).typeOf? id = some e.type := by
  refine ⟨⟨Statement.length_ofContent_le content, Statement.pairwise_stop_le_start content⟩,
    fun s hs => ?_, fun id entry hentry => ?_, fun id e he => ?_⟩
  · obtain ⟨o, body, ho⟩ := Statement.exists_opensWith hs
    refine ⟨Statement.start_lt_stop hs, Statement.isSlice_of_mem hs, o, body, ho, ?_⟩
    rw [ho.id_eq, ← entityId?_eq_some_iff, o.entityId?_digits]
  · obtain ⟨s, hs, -, rfl⟩ := exists_statement_of_entry? hentry
    exact ⟨s.text, Statement.isSlice_of_mem hs, rfl⟩
  · obtain ⟨s, hs, hid, hentry, i, hi, rfl⟩ := exists_statement_of_get? he
    refine ⟨id_of_get?_ofContent he, s, hs, hid, hentry, fun o body ho hbody => ?_⟩
    rw [typeOf?, hentry, Option.map_some, type_of_parse ho hbody (by rw [Entity.parse, hi]; rfl)]
    rfl

/-- A wall with blanks in its opening, and a door whose keyword goes on behind its tag. -/
def blankWall : String :=
  "DATA;\n/* é */ #01 = IFCWALL (' #3=IFCROOF();');#2=IFCDOORÄ();"

/-- The opening of the wall. -/
def wallOpening : Opening where
  digits := ⟨.only ['0', '1'], by decide⟩
  id := 1
  entityId?_digits := by decide
  before := .only [' ']
  after := .only [' ']
  tag := ⟨.only "IFCWALL".toList, by decide⟩

/-- The wall has the type of its statement, and the door behind it is a slice. -/
theorem search_and_reader_agree_blankWall :
    ∃ wall, (ofContent blankWall).get? 1 = some wall ∧ wall.id = 1 ∧
      (ofContent blankWall).typeOf? 1 = some wall.type ∧
      Text.IsSlice blankWall 48 63 "#2=IFCDOORÄ();".toList := by
  obtain ⟨-, hstatements, -, hentities⟩ := search_and_reader_agree blankWall
  have hfound : Statement.ofContent blankWall =
      [⟨1, "IFCWALL", 15, 48, "#01 = IFCWALL (' #3=IFCROOF();');".toList⟩,
        ⟨2, "IFCDOOR", 48, 63, "#2=IFCDOORÄ();".toList⟩] := by rfl
  obtain ⟨wall, hwall⟩ : ∃ e, (ofContent blankWall).get? 1 = some e :=
    Option.isSome_iff_exists.1 (by decide +kernel)
  obtain ⟨hid, s, hs, hsid, -, htype⟩ := hentities 1 wall hwall
  refine ⟨wall, hwall, hid, ?_, ?_⟩
  · rw [hfound] at hs
    obtain rfl | rfl : s = _ ∨ s = _ := by simpa using hs
    · exact htype wallOpening (' ' :: "(' #3=IFCROOF();')".toList)
        ⟨rfl, rfl, rfl, forall_mem_head?_cons (by decide) _⟩ (forall_mem_head?_cons (by decide) _)
    · cases hsid
  · exact (hstatements ⟨2, "IFCDOOR", 48, 63, "#2=IFCDOORÄ();".toList⟩ (by simp [hfound])).2.1

end BuildingModel.EntityIndex
