import BuildingModel.CommandLine.Run
import BuildingModel.Main
import BuildingModel.Files.System
import BuildingModel.Sandbox.Launch
import BuildingModel.Proofs.Step.Written
import BuildingModel.Proofs.Text.Run
import BuildingModel.Proofs.Step.Numeral
import BuildingModel.Proofs.Step.Grammar
import BuildingModel.Proofs.Step.Reading
import BuildingModel.Proofs.Step.Parameter
import BuildingModel.Proofs.Step.Statement
import BuildingModel.Proofs.Step.Definition
import BuildingModel.Proofs.Model.Index
import BuildingModel.Proofs.Model.RoundTrip
import BuildingModel.Proofs.Document.Walk
import BuildingModel.Proofs.Document.Arena
import BuildingModel.Proofs.Document.Search
import BuildingModel.Proofs.Document.Parts
import BuildingModel.Proofs.Geometry.Cycle
import BuildingModel.Proofs.Geometry.Face
import BuildingModel.Proofs.Geometry.Building
import BuildingModel.Proofs.Geometry.Bridge
import BuildingModel.Proofs.Geometry.Flow
import BuildingModel.Proofs.Geometry.Closed
import BuildingModel.Proofs.Geometry.Extrusion
import BuildingModel.Proofs.Json.Sorted
import BuildingModel.Proofs.Model.Redefinition
import BuildingModel.Proofs.Session.History
import BuildingModel.Proofs.Model.Locality
import BuildingModel.Proofs.Model.Types
import BuildingModel.Proofs.Step.Keyword
import BuildingModel.Proofs.Schema.Names
import BuildingModel.Proofs.Document.Emission
import BuildingModel.Proofs.Geometry.Item
import BuildingModel.Proofs.Geometry.Shape
import BuildingModel.Proofs.Document.Fragment
import BuildingModel.Proofs.Document.Query
import BuildingModel.Proofs.Geometry.Nesting
import BuildingModel.Proofs.Render.Externals
import BuildingModel.Proofs.Document.Options
import BuildingModel.Proofs.Model.Spatial
import BuildingModel.Proofs.Document.Containment
import BuildingModel.Proofs.Geometry.Joining
import BuildingModel.Proofs.Geometry.Conservation
import BuildingModel.Proofs.Geometry.Corners
import BuildingModel.Proofs.Document.Faces
import BuildingModel.Proofs.Geometry.Chain
import BuildingModel.Proofs.Step.Malformed
import BuildingModel.Proofs.Step.Span
import BuildingModel.Proofs.Model.Agreement
import BuildingModel.Proofs.Step.Clause
import BuildingModel.Proofs.Step.Header
import BuildingModel.Proofs.Model.Reference
import BuildingModel.Proofs.Document.Unassigned
import BuildingModel.Proofs.Geometry.FaceSet
import BuildingModel.Proofs.Document.Sheet
import BuildingModel.Proofs.Render.Literal
import BuildingModel.Proofs.Schema.Spelling
import BuildingModel.Proofs.CommandLine.Rendering
import BuildingModel.Proofs.Model.Units
import BuildingModel.Proofs.Geometry.Caps
