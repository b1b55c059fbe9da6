/-!
# The order of keys

The keys of a table are kept in lists. A key belongs to the list that its hash tells and, once it
has been sought as an integer, to the list that the integer tells. What is sought goes to the front
of its list. Keys are visited in the order of the lists of hashes; keys that have only been sought
as integers join those lists when a text is sought or when keys are visited.
-/

namespace BuildingModel.Sandbox.Tool.Rules

/-- The hash of a text: each of its octets changes the lower bits of what is before it, which is
multiplied after that. -/
def hash (s : String) : Nat :=
  s.toList.foldl (fun h c => (h ^^^ c.toNat) * 16777619 % 4294967296) 2166136261

/-- The order of the keys of a table. -/
structure KeyOrder where
  /-- How many keys there are. -/
  count : Nat := 0
  /-- How many lists there are of each kind. -/
  width : Nat := 64
  /-- The keys by their hashes, if a text has been sought. -/
  texts : Option (Array (List String)) := none
  /-- The integers among the keys that have been sought as such. -/
  numbers : Array (List Int) := Array.replicate 64 []
  /-- Whether the keys are the integers from one to the count and belong to no lists yet. -/
  isRow : Bool := false

namespace KeyOrder

/-- How many keys there are to each list at most. -/
def crowd : Nat := 12

/-- The place of a text among lists. -/
def placeOf (width : Nat) (s : String) : Nat := hash s % width

/-- The place of an integer among lists. -/
def placeOfNumber (width : Nat) (i : Int) : Nat := (i % (width : Int)).toNat

/-- Lists with something at the front of one of them. -/
def toFront {α : Type} [BEq α] (place : Nat) (x : α) (lists : Array (List α)) : Array (List α) :=
  lists.modify place fun l => x :: l.erase x

/-- The keys of lists in other lists, in the same order. -/
def rearranged {α : Type} (width : Nat) (placeOf : α → Nat) (lists : Array (List α)) :
    Array (List α) :=
  lists.foldr (fun l found => l.foldr (fun x found => found.modify (placeOf x) (x :: ·)) found)
    (Array.replicate width [])

/-- A row of so many keys. -/
def row (n : Nat) : KeyOrder := { count := n, isRow := true }

/-- So many lists that they are not crowded by so many keys. -/
def widthFor (count : Nat) : Nat → Nat → Nat
  | 0, width => width
  | n + 1, width => if width * crowd < count then widthFor count n (2 * width) else width

/-- With the keys of a row in lists. -/
def listed (o : KeyOrder) : KeyOrder :=
  if !o.isRow then o
  else
    let width := widthFor o.count o.count 64
    let empty : Array (List Int) := Array.replicate width []
    { o with
      width, isRow := false
      numbers := (List.range o.count).foldl
        (fun lists i => lists.modify ((i + 1) % width) (((i + 1 : Nat) : Int) :: ·)) empty }

/-- With all keys in the lists of hashes. -/
def hashed (o : KeyOrder) : KeyOrder :=
  let o := o.listed
  if o.texts.isSome then o
  else
    let add (lists : Array (List String)) (i : Int) : Array (List String) :=
      lists.modify (placeOf o.width (toString i)) (toString i :: ·)
    { o with texts := some (o.numbers.foldl (fun lists l => l.foldl add lists)
        (Array.replicate o.width [])) }

/-- With room for one more key. -/
def grown (o : KeyOrder) : KeyOrder :=
  if o.count < o.width * crowd then { o with count := o.count + 1 }
  else
    let width := 2 * o.width
    { o with
      width, count := o.count + 1
      texts := o.texts.map (rearranged width (placeOf width))
      numbers := rearranged width (placeOfNumber width) o.numbers }

/-- After a text is sought, which may be added. -/
def seek (adds : Bool) (s : String) (o : KeyOrder) : KeyOrder :=
  let o := o.hashed
  let isKey := o.texts.any fun lists => ((lists[placeOf o.width s]?).getD []).contains s
  if !isKey && !adds then o
  else
    let o := if isKey then o else o.grown
    { o with texts := o.texts.map (toFront (placeOf o.width s) s) }

/-- After an integer is sought, which may be added. -/
def seekNumber (adds : Bool) (i : Int) (o : KeyOrder) : KeyOrder :=
  if o.isRow && 1 ≤ i && i ≤ o.count then o
  else if o.isRow && adds && i == o.count + 1 then { o with count := o.count + 1 }
  else
    let o := o.listed
    let front (o : KeyOrder) : KeyOrder :=
      { o with numbers := toFront (placeOfNumber o.width i) i o.numbers }
    if ((o.numbers[placeOfNumber o.width i]?).getD []).contains i then front o
    else if o.texts.isSome then
      let s := toString i
      let isKey := o.texts.any fun lists => ((lists[placeOf o.width s]?).getD []).contains s
      if isKey || adds then front (o.seek adds s) else o
    else if adds then front o.grown
    else o

/-- Without a key. -/
def erase (s : String) (o : KeyOrder) : KeyOrder :=
  let o := o.listed
  if o.count ≤ 1 then {}
  else
    { o with
      count := o.count - 1
      texts := o.texts.map fun lists => lists.modify (placeOf o.width s) (·.erase s)
      numbers := match s.toInt? with
        | some i =>
          if toString i == s then o.numbers.modify (placeOfNumber o.width i) (·.erase i)
          else o.numbers
        | none => o.numbers }

/-- The keys in the order in which they are visited. -/
def keys (o : KeyOrder) : List String :=
  (o.hashed.texts.map fun lists => lists.toList.flatten).getD []

end KeyOrder

end BuildingModel.Sandbox.Tool.Rules
