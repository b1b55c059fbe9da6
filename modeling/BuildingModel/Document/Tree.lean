/-!
# Trees

A tree has a label and a list of subtrees.
-/

namespace BuildingModel

/-- A tree. -/
inductive Tree (α : Type) where
  /-- A label with the subtrees under it. -/
  | node (label : α) (children : List (Tree α))
deriving Inhabited, Repr

namespace Tree

variable {α β : Type}

/-- The label at the root. -/
def label : Tree α → α
  | node a _ => a

/-- The subtrees under the root. -/
def children : Tree α → List (Tree α)
  | node _ ts => ts

mutual

/-- The tree with its labels changed. -/
def map (f : α → β) : Tree α → Tree β
  | node a ts => node (f a) (mapAll f ts)

/-- Several trees with their labels changed. -/
def mapAll (f : α → β) : List (Tree α) → List (Tree β)
  | [] => []
  | t :: ts => map f t :: mapAll f ts

end

mutual

/-- The labels in preorder. -/
def labels : Tree α → List α
  | node a ts => a :: labelsOfAll ts

/-- The labels of several trees. -/
def labelsOfAll : List (Tree α) → List α
  | [] => []
  | t :: ts => labels t ++ labelsOfAll ts

end

mutual

/-- The first subtree in preorder whose label passes a test; a tree is a subtree of itself. -/
def find? (p : α → Bool) : Tree α → Option (Tree α)
  | node a ts => if p a then some (node a ts) else findAmong? p ts

/-- The first subtree of several trees whose label passes a test. -/
def findAmong? (p : α → Bool) : List (Tree α) → Option (Tree α)
  | [] => none
  | t :: ts =>
    match find? p t with
    | some found => some found
    | none => findAmong? p ts

end

/-- How many labels the tree has. -/
def size (t : Tree α) : Nat :=
  t.labels.length

end Tree

end BuildingModel
