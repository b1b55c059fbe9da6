import BuildingModel.Step.Literal

/-!
# Parameters

The values that records of an exchange file are made of. The accessors read a value as what it may
stand for: a typed value such as `IFCLABEL('a')` is read as its first argument, and an integer
where a real number is wanted is widened.
-/

namespace BuildingModel

/-- An instance name without its number sign. -/
abbrev EntityId := UInt32

/-- An instance name as it is written. -/
def EntityId.text (id : EntityId) : String :=
  "#" ++ toString id.toNat

/-- A value within a record. -/
inductive Parameter where
  /-- A value that is left out, `$`. -/
  | null
  /-- A value that follows from others, `*`. -/
  | derived
  /-- A reference to an instance. -/
  | reference (id : EntityId)
  /-- A whole number. -/
  | integer (n : Int)
  /-- A real number. -/
  | real (x : Float)
  /-- A string. -/
  | text (s : String)
  /-- An item of an enumeration, without its points. -/
  | enumeration (item : String)
  /-- A list. -/
  | list (items : List Parameter)
  /-- A value under the name of its type. -/
  | typed (type : String) (arguments : List Parameter)
deriving Inhabited, BEq, Repr

namespace Parameter

mutual

/-- The parameter with the escapes in its strings resolved. -/
def decoded : Parameter → Parameter
  | .text s => .text (String.ofList (Step.decode s.toList))
  | .list items => .list (decodedList items)
  | .typed type arguments => .typed type (decodedList arguments)
  | p => p

/-- `decoded` for each parameter of a list. -/
def decodedList : List Parameter → List Parameter
  | [] => []
  | p :: ps => p.decoded :: decodedList ps

end

/-- The instance a parameter refers to. -/
def asReference? : Parameter → Option EntityId
  | .reference id => some id
  | _ => none

/-- The string a parameter holds. -/
def asText? : Parameter → Option String
  | .text s => some s
  | .typed _ (p :: _) => p.asText?
  | _ => none

/-- The real number a parameter holds; whole numbers are widened. -/
def asReal? : Parameter → Option Float
  | .real x => some x
  | .integer n => some (Float.ofInt n)
  | .typed _ (p :: _) => p.asReal?
  | _ => none

/-- The whole number a parameter holds. -/
def asInteger? : Parameter → Option Int
  | .integer n => some n
  | .typed _ (p :: _) => p.asInteger?
  | _ => none

/-- The truth value of an enumeration item. -/
def truth? (item : String) : Option Bool :=
  match item.toUpper with
  | "TRUE" | "T" => some true
  | "FALSE" | "F" => some false
  | _ => none

/-- The truth value a parameter holds. -/
def asBool? : Parameter → Option Bool
  | .enumeration item => truth? item
  | .typed _ (p :: _) => p.asBool?
  | _ => none

/-- The enumeration item a parameter is. -/
def asEnumeration? : Parameter → Option String
  | .enumeration item => some item
  | _ => none

/-- The items of a list. -/
def asList? : Parameter → Option (List Parameter)
  | .list items => some items
  | _ => none

/-- Whether the value is left out. -/
def isNull : Parameter → Bool
  | .null => true
  | _ => false

end Parameter

end BuildingModel
