import BuildingModel.Geometry.Vec

/-!
# Half-edge meshes

A mesh is a set of polygons that share vertices. Every face refers to one edge of its loop and
every edge to its origin and to the next edge of the same loop. A mesh is built from loops of
points: points with the same coordinates share a vertex, repeats along a loop collapse, and a loop
with fewer than three corners leaves its vertices but no face.
-/

namespace BuildingModel.Geometry

/-- A directed edge of a face. -/
structure HalfEdge where
  /-- The vertex where the edge starts. -/
  origin : Nat
  /-- The next edge of the loop. -/
  next : Nat
deriving DecidableEq, Repr, Inhabited

/-- A face, by one edge of its loop. -/
structure Face where
  /-- An edge of the loop; none for an empty loop. -/
  start : Option Nat
  /-- How many edges the loop has. -/
  size : Nat
deriving DecidableEq, Repr, Inhabited

/-- A half-edge mesh. -/
structure Mesh (K : Type) where
  /-- The vertices. -/
  vertices : Array (Vec3 K) := #[]
  /-- The edges. -/
  edges : Array HalfEdge := #[]
  /-- The faces. -/
  faces : Array Face := #[]
deriving DecidableEq, Repr, Inhabited

namespace Mesh

variable {K : Type}

/-- A mesh with one more vertex, at the end. -/
def addVertex (m : Mesh K) (p : Vec3 K) : Mesh K :=
  { m with vertices := m.vertices.push p }

/-- The edges of a loop through vertices, the first of them numbered `first`. -/
def loopEdges (first : Nat) (corners : List Nat) : List HalfEdge :=
  corners.zipIdx.map fun (v, i) => ⟨v, first + (i + 1) % corners.length⟩

/-- A mesh with one more face, whose loop visits the corners in order. -/
def addFace (m : Mesh K) (corners : List Nat) : Mesh K :=
  { m with
    edges := m.edges ++ (loopEdges m.edges.size corners).toArray
    faces := m.faces.push
      ⟨if corners.isEmpty then none else some m.edges.size, corners.length⟩ }

/-- Whether a mesh has no faces. -/
def isEmpty (m : Mesh K) : Bool :=
  m.faces.isEmpty

/-- A mesh with its vertices moved. -/
def map (f : Vec3 K → Vec3 K) (m : Mesh K) : Mesh K :=
  { m with vertices := m.vertices.map f }

/-! ## Loops of vertices -/

/-- The sequence with each run of one number replaced by that number. -/
def dropRepeats : List Nat → List Nat
  | a :: b :: r => if a = b then dropRepeats (b :: r) else a :: dropRepeats (b :: r)
  | l => l

/-- The corners of a closed loop through vertices: runs collapse, also across the seam. -/
def corners (vertices : List Nat) : List Nat :=
  match dropRepeats vertices with
  | [] => []
  | a :: r => if r.getLast? = some a then a :: r.dropLast else a :: r

/-! ## Building from points -/

section Weld

variable [Scalar K]

/-- The first vertex at the coordinates of a point. -/
def vertexAt? (m : Mesh K) (p : Vec3 K) : Option Nat :=
  m.vertices.findIdx? (·.same p)

/-- The vertex of a point, with the mesh that has it. -/
def vertex (m : Mesh K) (p : Vec3 K) : Nat × Mesh K :=
  match m.vertexAt? p with
  | some i => (i, m)
  | none => (m.vertices.size, m.addVertex p)

/-- The vertices of a loop of points, with the mesh that has them. -/
def loopVertices (m : Mesh K) : List (Vec3 K) → List Nat × Mesh K
  | [] => ([], m)
  | p :: ps =>
    let (v, m) := m.vertex p
    let (vs, m) := m.loopVertices ps
    (v :: vs, m)

/-- The mesh after a loop of points, and whether the loop made a face. -/
def loop (m : Mesh K) (points : List (Vec3 K)) : Bool × Mesh K :=
  let (vs, m) := m.loopVertices points
  let cs := corners vs
  if cs.length < 3 then (false, m) else (true, m.addFace cs)

/-- The mesh of a sequence of loops. -/
def ofLoops (loops : List (List (Vec3 K))) : Mesh K :=
  loops.foldl (fun m points => (m.loop points).2) {}

end Weld

/-! ## Reading faces -/

/-- The edges met from an edge on, at most `count` of them; an edge or origin that does not exist
ends the walk. -/
def walk (m : Mesh K) : (count : Nat) → (cursor : Option Nat) → List (HalfEdge × Vec3 K)
  | 0, _ => []
  | count + 1, cursor =>
    match cursor.bind fun e => m.edges[e]? with
    | none => []
    | some edge =>
      match m.vertices[edge.origin]? with
      | none => []
      | some p => (edge, p) :: m.walk count (some edge.next)

/-- The points along the loop of a face. -/
def points (m : Mesh K) (f : Face) : List (Vec3 K) :=
  (m.walk f.size f.start).map (·.2)

end Mesh

end BuildingModel.Geometry
