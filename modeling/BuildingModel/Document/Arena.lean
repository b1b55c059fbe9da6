import BuildingModel.Document.Tree

/-!
# Arenas

An arena holds the labels of a tree in the order they are met, each with the slots of the labels
that hang under it. A slot comes behind the one it hangs under, so the tree is assembled from the
last slot to the first, and every subtree that is assembled is taken once.
-/

namespace BuildingModel

/-- A label in an arena. -/
structure Arena.Slot (α : Type) where
  /-- The label. -/
  label : α
  /-- The slots of the labels that hang under it. -/
  children : Array Nat := #[]

/-- The labels of a tree in the order they are met. -/
abbrev Arena (α : Type) := Array (Arena.Slot α)

namespace Arena

variable {α : Type}

/-- The arena with one more label, which hangs under the label of a slot unless it is a root. -/
def hang (arena : Arena α) (parent : Option Nat) (label : α) : Arena α :=
  let grown := arena.push { label }
  match parent with
  | none => grown
  | some p => grown.modify p fun s => { s with children := s.children.push arena.size }

/-- The trees at slots, and what is left when they are taken. -/
def take (built : Array (Option (Tree α))) :
    (slots : List Nat) → List (Tree α) × Array (Option (Tree α))
  | [] => ([], built)
  | i :: is =>
    let (ts, left) := take (built.setIfInBounds i none) is
    (built[i]?.join.toList ++ ts, left)

/-- The trees with that of one more slot, under which the trees of its children are taken. -/
def assembleSlot (slot : Slot α × Nat) (built : Array (Option (Tree α))) :
    Array (Option (Tree α)) :=
  let (ts, left) := take built slot.1.children.toList
  left.setIfInBounds slot.2 (some (.node slot.1.label ts))

/-- The trees that are not taken when all slots are assembled. -/
def assemble (arena : Arena α) : Array (Option (Tree α)) :=
  arena.zipIdx.foldr assembleSlot (Array.replicate arena.size none)

/-- The tree of the first label. -/
def tree? (arena : Arena α) : Option (Tree α) :=
  arena.assemble[0]?.join

end Arena

end BuildingModel
