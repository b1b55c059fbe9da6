import BuildingModel.Sandbox.Shell.Pattern

/-!
# Fields

What the parts of a word expand to is a row of glyphs, which is split into fields: after separators
among the characters that come from an expansion, and wherever an argument ends.
-/

namespace BuildingModel.Sandbox.Shell

/-- A piece of an expanded word. -/
inductive Glyph where
  /-- A character, which may stand for itself in a pattern, and may separate fields. -/
  | char (c : Char) (quoted splits : Bool)
  /-- A quote: there is a field, even if nothing is in it. -/
  | mark
  /-- The end of an argument. Where nothing is split, a text stands between it and the next one. -/
  | cut (between : String)
deriving DecidableEq, Repr

namespace Glyph

/-- The glyphs of a text that comes from an expansion. -/
def ofValue (quoted : Bool) (s : String) : List Glyph :=
  let chars := s.toList.map (.char · quoted (!quoted))
  if quoted then .mark :: chars else chars

/-- The text of glyphs that are not split. -/
def text (glyphs : List Glyph) : String :=
  glyphs.foldl (fun s glyph => match glyph with
    | .char c _ _ => s.push c
    | .mark => s
    | .cut between => s ++ between) ""

/-- The pattern of glyphs that are not split. -/
def pattern (glyphs : List Glyph) : List PatternChar :=
  glyphs.flatMap fun
    | .char c quoted _ => [(c, quoted)]
    | .mark => []
    | .cut between => between.toList.map (·, true)

end Glyph

/-- The fields of the glyphs so far. -/
structure Fields where
  /-- The fields that are complete, the last first. -/
  done : List (List PatternChar) := []
  /-- The field that is not, if there is one, the last character first. -/
  current : Option (List PatternChar) := none
  /-- Whether a blank has ended the last field, so that a separator after it does not end another
  one. -/
  afterBlank : Bool := false

namespace Fields

/-- The fields with the open one complete. -/
def close (f : Fields) (afterBlank : Bool) : Fields :=
  match f.current with
  | some field => ⟨field.reverse :: f.done, none, afterBlank⟩
  | none => f

/-- The fields after one more glyph. -/
def add (separators : String) (f : Fields) : Glyph → Fields
  | .mark => { f with current := some (f.current.getD []), afterBlank := false }
  | .cut _ => f.close false
  | .char c quoted splits =>
    if splits && separators.contains c then
      if " \t\n".contains c then f.close true
      else if f.current.isNone && f.afterBlank then { f with afterBlank := false }
      else { f with current := some (f.current.getD []) }.close false
    else { f with current := some ((c, quoted) :: f.current.getD []), afterBlank := false }

/-- The fields of glyphs. -/
def ofGlyphs (separators : String) (glyphs : List Glyph) : List (List PatternChar) :=
  ((glyphs.foldl (add separators) {}).close false).done.reverse

end Fields

end BuildingModel.Sandbox.Shell
