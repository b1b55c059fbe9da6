/-!
# Searching text

Sections of an exchange file are found by the first occurrence of a word.
-/

namespace BuildingModel.Text

/-- The text after an expected word, if it starts with it. -/
def afterWord? : (word : List Char) → List Char → Option (List Char)
  | [], s => some s
  | c :: word, d :: s => if c == d then afterWord? word s else none
  | _ :: _, [] => none

/-- The text after the first occurrence of a word. -/
def afterFirst? (word : List Char) : List Char → Option (List Char)
  | [] => afterWord? word []
  | c :: s =>
    match afterWord? word (c :: s) with
    | some rest => some rest
    | none => afterFirst? word s

/-- The text before the first occurrence of a word, or all of it; `before` holds the characters
already passed, in reverse. -/
def beforeFirst (word : List Char) (before : List Char) : List Char → List Char
  | [] => before.reverse
  | c :: s =>
    match afterWord? word (c :: s) with
    | some _ => before.reverse
    | none => beforeFirst word (c :: before) s

/-- The number of bytes the text takes in UTF-8. -/
def byteLength (s : List Char) : Nat :=
  s.foldl (fun n c => n + c.utf8Size) 0

theorem afterWord?_append (word s : List Char) : afterWord? word (word ++ s) = some s := by
  induction word with
  | nil => rfl
  | cons c word ih => simp [afterWord?, ih]

theorem eq_append_of_afterWord? {word s rest : List Char} (h : afterWord? word s = some rest) :
    s = word ++ rest := by
  induction word generalizing s with
  | nil => simpa [afterWord?] using h
  | cons c word ih =>
    cases s with
    | nil => simp [afterWord?] at h
    | cons d s =>
      rw [afterWord?] at h
      split at h
      · next hc => rw [eq_of_beq hc, ih h, List.cons_append]
      · simp at h

end BuildingModel.Text
