import Std.Data.TreeMap

/-!
# JSON values

Documents, query answers and rendered templates are JSON values. An object keeps its fields in
the order they are to be printed; `Json.sorted` is the canonical form of a value, whose objects
have ascending, distinct keys.
-/

namespace BuildingModel

/-- A JSON value. Whole numbers and binary fractions are kept apart, as they print apart. -/
inductive Json where
  /-- The literal `null`. -/
  | null
  /-- A truth value. -/
  | bool (b : Bool)
  /-- A whole number. -/
  | int (n : Int)
  /-- A finite double. -/
  | real (x : Float)
  /-- A string. -/
  | text (s : String)
  /-- An array. -/
  | array (items : List Json)
  /-- An object, as its fields in order. -/
  | object (fields : List (String × Json))
deriving Inhabited, BEq, Repr

namespace Json

/-- A double as a value: one that is not finite has no number in JSON and becomes `null`. -/
def ofFloat (x : Float) : Json :=
  if x.isFinite then .real x else .null

/-- A natural number as a value. -/
def ofNat (n : Nat) : Json :=
  .int n

/-- An optional value, `null` when absent. -/
def ofOption : Option Json → Json
  | some v => v
  | none => .null

/-- Fields in ascending order of their keys; of equal keys the last field stays. -/
def sortFields {α : Type} (fields : List (String × α)) : List (String × α) :=
  (Std.TreeMap.ofList fields compare).toList

mutual

/-- The value with the fields of every object in ascending order of their keys. -/
def sorted : Json → Json
  | .array items => .array (sortedItems items)
  | .object fields => .object (sortFields (sortedFields fields))
  | v => v

/-- `sorted` for the items of an array. -/
def sortedItems : List Json → List Json
  | [] => []
  | v :: vs => sorted v :: sortedItems vs

/-- `sorted` for the values of an object's fields. -/
def sortedFields : List (String × Json) → List (String × Json)
  | [] => []
  | (k, v) :: fs => (k, sorted v) :: sortedFields fs

end

/-- The value of a key of an object. -/
def field? (key : String) : Json → Option Json
  | .object fields => fields.lookup key
  | _ => none

/-- The characters of a string. -/
def asText? : Json → Option String
  | .text s => some s
  | _ => none

end Json

end BuildingModel
