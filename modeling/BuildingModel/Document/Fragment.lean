import BuildingModel.Geometry.Shape

/-!
# Geometry fragments

A fragment is a shape as documents hold it: one mesh for each item, its faces as lists of vertices.
The corners of all faces are emitted in order. Each corner gets a vertex of its own, or, where
vertices are shared, only the first corner at a position does.
-/

namespace BuildingModel.Document

open BuildingModel.Geometry

/-- A mesh of a fragment. -/
structure MeshFragment where
  /-- The vertices. -/
  vertices : Array (Vec3 Float)
  /-- The faces, as positions in the vertices. -/
  faces : List (List Nat)
deriving Repr

/-- A shape in a document. -/
structure GeometryFragment where
  /-- The placement in the world. -/
  transform : Matrix 4
  /-- One mesh for each item. -/
  meshes : List MeshFragment
deriving Repr

/-- The bits of the coordinates of a point. -/
def bits (p : Vec3 Float) : UInt64 × UInt64 × UInt64 :=
  (p.x.toBits, p.y.toBits, p.z.toBits)

/-- Vertices being emitted. -/
structure Emission where
  /-- Whether corners at one position share a vertex. -/
  shared : Bool
  /-- The positions that have a vertex. -/
  seen : List ((UInt64 × UInt64 × UInt64) × Nat) := []
  /-- The vertices. -/
  vertices : Array (Vec3 Float) := #[]

namespace Emission

/-- The vertex of a corner, and the emission after it. -/
def corner (w : Emission) (p : Vec3 Float) : Nat × Emission :=
  let fresh := w.vertices.size
  if w.shared then
    match w.seen.lookup (bits p) with
    | some i => (i, w)
    | none => (fresh, { w with seen := (bits p, fresh) :: w.seen, vertices := w.vertices.push p })
  else (fresh, { w with vertices := w.vertices.push p })

/-- The vertices of a loop, and the emission after it. -/
def loop (w : Emission) : List (Vec3 Float) → List Nat × Emission
  | [] => ([], w)
  | p :: ps =>
    let (i, w) := w.corner p
    let (is, w) := w.loop ps
    (i :: is, w)

/-- The vertices of several loops, and the emission after them. -/
def loops (w : Emission) : List (List (Vec3 Float)) → List (List Nat) × Emission
  | [] => ([], w)
  | l :: ls =>
    let (f, w) := w.loop l
    let (fs, w) := w.loops ls
    (f :: fs, w)

/-- The mesh of loops, and the emission after it, which keeps the positions seen. -/
def mesh (w : Emission) (ls : List (List (Vec3 Float))) : MeshFragment × Emission :=
  let (faces, w) := { w with vertices := #[] }.loops ls
  (⟨w.vertices, faces⟩, w)

end Emission

/-- The loops of the faces of an item, those of all its meshes in order. -/
def itemLoops (i : ShapeItem) : List (List (Vec3 Float)) :=
  i.meshSets.flatten.flatMap fun m => m.faces.toList.map m.points

/-- The mesh of an item. -/
def itemMesh (shared : Bool) (i : ShapeItem) : MeshFragment :=
  (Emission.mesh ⟨shared, [], #[]⟩ (itemLoops i)).1

/-- The fragment of a shape. -/
def fragment (shared : Bool) (s : ProductShape) : GeometryFragment :=
  ⟨s.transform, s.items.map (itemMesh shared)⟩

end BuildingModel.Document
