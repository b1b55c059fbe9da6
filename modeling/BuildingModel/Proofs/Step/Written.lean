import BuildingModel.Proofs.Step.Literal
import BuildingModel.Schema.EntityType

/-!
# Writing exchange files

The instances that an exchange file can hold without real numbers, and the file that holds them.

An `Attribute` is a tree of values: left out, derived, a reference, a whole number of 64 bits, a
text of any characters, an item of an enumeration, a list of attributes, or attributes under the
name of a type. Names and items are words of ASCII letters, digits and underscores, and the name of
a type does not start with a digit, as it would be read as a number. A `Definition` puts attributes
under an instance name and a tag.

`file` writes definitions one on a line, without blanks, into the data section of a fixed frame.
-/

namespace BuildingModel.Step

open Text

/-- A word of ASCII letters, digits and underscores. -/
structure Word where
  /-- The characters. -/
  chars : List Char
  /-- There is at least one character. -/
  ne_nil : chars ≠ []
  /-- They are letters, digits and underscores. -/
  isTagChar : ∀ c ∈ chars, isTagChar c = true
deriving DecidableEq

/-- The name of a type: a word that does not start with a digit. -/
structure TypeName extends Word where
  /-- The first character is no digit. -/
  head_not_digit : ∀ c ∈ chars.head?, c.isDigit = false
deriving DecidableEq

/-- A value of an instance. -/
inductive Attribute where
  /-- A value that is left out. -/
  | null
  /-- A value that follows from others. -/
  | derived
  /-- A reference to an instance. -/
  | reference (id : EntityId)
  /-- A whole number. -/
  | integer (n : Int64)
  /-- A text. -/
  | text (s : String)
  /-- An item of an enumeration. -/
  | enumeration (item : Word)
  /-- A list. -/
  | list (items : List Attribute)
  /-- Values under the name of their type. -/
  | typed (type : TypeName) (arguments : List Attribute)

/-- The decimal digits of a number, after a minus sign if it is negative. -/
def decimal (n : Int) : List Char :=
  if n < 0 then '-' :: Nat.toDigits 10 n.natAbs else Nat.toDigits 10 n.natAbs

namespace Attribute

mutual

/-- The parameter that an attribute is read as. -/
def value : Attribute → Parameter
  | .null => .null
  | .derived => .derived
  | .reference id => .reference id
  | .integer n => .integer n.toInt
  | .text s => .text s
  | .enumeration item => .enumeration (String.ofList item.chars)
  | .list items => .list (values items)
  | .typed type arguments => .typed (String.ofList type.chars) (values arguments)

/-- The parameters that attributes are read as. -/
def values : List Attribute → List Parameter
  | [] => []
  | a :: as => value a :: values as

end

mutual

/-- The text of an attribute. -/
def written : Attribute → List Char
  | .null => ['$']
  | .derived => ['*']
  | .reference id => '#' :: Nat.toDigits 10 id.toNat
  | .integer n => decimal n.toInt
  | .text s => '\'' :: (escaped s.toList ++ ['\''])
  | .enumeration item => '.' :: (item.chars ++ ['.'])
  | .list items => writtenList items
  | .typed type arguments => type.chars ++ writtenList arguments

/-- The text of attributes in parentheses, with commas between them. -/
def writtenList : List Attribute → List Char
  | [] => ['(', ')']
  | a :: as => '(' :: (written a ++ writtenFurther as)

/-- The text of attributes that follow another one, up to the closing parenthesis. -/
def writtenFurther : List Attribute → List Char
  | [] => [')']
  | a :: as => ',' :: (written a ++ writtenFurther as)

end

end Attribute

/-- What a file says under an instance name. -/
structure Definition where
  /-- The instance name. -/
  id : EntityId
  /-- The tag of the type. -/
  tag : Word
  /-- The attributes in order. -/
  attributes : List Attribute

namespace Definition

/-- The type that the tag names. -/
def type (d : Definition) : EntityType :=
  .ofTag (String.ofList d.tag.chars)

/-- What a definition says between its number sign and its semicolon. -/
def body (d : Definition) : List Char :=
  Nat.toDigits 10 d.id.toNat ++ '=' :: (d.tag.chars ++ Attribute.writtenList d.attributes)

/-- The statement of a definition. -/
def statement (d : Definition) : List Char :=
  '#' :: (d.body ++ [';'])

/-- The statements of definitions, one on a line. -/
def lines : List Definition → List Char
  | [] => []
  | d :: ds => d.statement ++ '\n' :: lines ds

end Definition

/-- What a file says before its instances: a header that names the schema, and the word that opens
the data section. -/
def opening : List Char :=
  "ISO-10303-21;\nHEADER;\nFILE_SCHEMA(('IFC4'));\nENDSEC;\nDATA;\n".toList

/-- What a file says after its instances. -/
def closing : List Char :=
  "ENDSEC;\nEND-ISO-10303-21;\n".toList

/-- The exchange file of definitions. -/
def file (ds : List Definition) : String :=
  String.ofList (opening ++ (Definition.lines ds ++ closing))

theorem toList_file (ds : List Definition) :
    (file ds).toList = opening ++ (Definition.lines ds ++ closing) :=
  String.toList_ofList

end BuildingModel.Step
