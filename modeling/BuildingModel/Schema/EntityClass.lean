/-!
# Classes of the schema

The classes of building data that documents and shapes are made from, in one table: a class has a
label, such as `Wall`, from which its name `IfcWall` and its tag `IFCWALL` follow, and a kind.
-/

namespace BuildingModel

/-- The broad kinds of entities. -/
inductive EntityKind where
  /-- The project. -/
  | project
  /-- Sites, buildings, storeys, spaces and facilities. -/
  | spatial
  /-- Physical and virtual elements that are placed in the spatial structure. -/
  | element
  /-- Types that elements share. -/
  | typeObject
  /-- Relationships between entities. -/
  | relationship
  /-- Property sets, properties and quantities. -/
  | propertyDefinition
  /-- Shape representations and what they consist of. -/
  | representation
  /-- Profiles. -/
  | profile
  /-- Placements, points, curves, units, actors and materials. -/
  | resource
  /-- Everything the table does not have. -/
  | other
deriving DecidableEq, Repr

/-- The name of a kind. -/
def EntityKind.name : EntityKind → String
  | .project => "Project"
  | .spatial => "Spatial"
  | .element => "Element"
  | .typeObject => "TypeObject"
  | .relationship => "Relationship"
  | .propertyDefinition => "PropertyDefinition"
  | .representation => "Representation"
  | .profile => "Profile"
  | .resource => "Resource"
  | .other => "Other"

/-- The classes of the table. -/
inductive EntityClass where
  -- Project and spatial structure
  | project | site | building | buildingStorey | space | facility | facilityPart | bridge | road
  | railway | spatialZone | externalSpatialElement
  -- Building elements
  | wall | wallStandardCase | curtainWall | slab | roof | beam | column | door | window | stair
  | stairFlight | ramp | rampFlight | railing | covering | plate | member | footing | pile
  | chimney | shadingDevice | buildingElementProxy | elementAssembly
  -- Distribution elements (MEP)
  | distributionElement | distributionFlowElement | flowTerminal | flowSegment | flowFitting
  | flowController | flowMovingDevice | flowStorageDevice | flowTreatmentDevice
  | energyConversionDevice | distributionControlElement
  -- Furnishing, openings and the rest
  | furnishingElement | furniture | systemFurnitureElement | openingElement | openingStandardCase
  | voidingFeature | projectionElement | reinforcingBar | discreteAccessory | mechanicalFastener
  | transportElement | virtualElement | annotationItem | grid
  -- Type objects
  | wallType | slabType | beamType | columnType | doorType | windowType | memberType | plateType
  | coveringType | furnitureType | buildingElementProxyType
  -- Relationships
  | relAggregates | relContainedInSpatialStructure | relDefinesByProperties | relDefinesByType
  | relAssociatesMaterial | relVoidsElement | relFillsElement | relNests | relSpaceBoundary
  | relConnectsPathElements
  -- Properties and quantities
  | propertySet | elementQuantity | propertySingleValue | propertyEnumeratedValue
  | propertyBoundedValue | propertyListValue | quantityLength | quantityArea | quantityVolume
  | quantityCount | quantityWeight | quantityTime
  -- Representations and representation items
  | productDefinitionShape | shapeRepresentation | mappedItem | representationMap
  | extrudedAreaSolid | revolvedAreaSolid | sweptDiskSolid | facetedBrep | facetedBrepWithVoids
  | advancedBrep | shellBasedSurfaceModel | faceBasedSurfaceModel | closedShell | openShell
  | connectedFaceSet | face | faceOuterBound | faceBound | polyLoop | triangulatedFaceSet
  | polygonalFaceSet | indexedPolygonalFace | indexedPolygonalFaceWithVoids | cartesianPointList3D
  | booleanResult | booleanClippingResult | halfSpaceSolid | polygonalBoundedHalfSpace | block
  | styledItem
  -- Profiles
  | rectangleProfileDef | rectangleHollowProfileDef | circleProfileDef | circleHollowProfileDef
  | arbitraryClosedProfileDef | arbitraryProfileDefWithVoids | iShapeProfileDef | lShapeProfileDef
  -- Geometry resources
  | cartesianPoint | direction | polyline | indexedPolyCurve | cartesianPointList2D
  | compositeCurve | compositeCurveSegment | trimmedCurve | circle | line | axis2Placement2D
  | axis2Placement3D | localPlacement | gridPlacement | cartesianTransformationOperator3D
  | cartesianTransformationOperator3DnonUniform | geometricRepresentationContext
  | geometricRepresentationSubContext
  -- Units, actors and materials
  | unitAssignment | siUnit | conversionBasedUnit | measureWithUnit | dimensionalExponents
  | ownerHistory | person | organization | personAndOrganization | application | material
  | materialList | materialLayer | materialLayerSet | materialLayerSetUsage
deriving DecidableEq, Repr

namespace EntityClass

/-- The label of a class, as documents show it. -/
def label : EntityClass → String
  | .project => "Project"
  | .site => "Site"
  | .building => "Building"
  | .buildingStorey => "BuildingStorey"
  | .space => "Space"
  | .facility => "Facility"
  | .facilityPart => "FacilityPart"
  | .bridge => "Bridge"
  | .road => "Road"
  | .railway => "Railway"
  | .spatialZone => "SpatialZone"
  | .externalSpatialElement => "ExternalSpatialElement"
  | .wall => "Wall"
  | .wallStandardCase => "WallStandardCase"
  | .curtainWall => "CurtainWall"
  | .slab => "Slab"
  | .roof => "Roof"
  | .beam => "Beam"
  | .column => "Column"
  | .door => "Door"
  | .window => "Window"
  | .stair => "Stair"
  | .stairFlight => "StairFlight"
  | .ramp => "Ramp"
  | .rampFlight => "RampFlight"
  | .railing => "Railing"
  | .covering => "Covering"
  | .plate => "Plate"
  | .member => "Member"
  | .footing => "Footing"
  | .pile => "Pile"
  | .chimney => "Chimney"
  | .shadingDevice => "ShadingDevice"
  | .buildingElementProxy => "BuildingElementProxy"
  | .elementAssembly => "ElementAssembly"
  | .distributionElement => "DistributionElement"
  | .distributionFlowElement => "DistributionFlowElement"
  | .flowTerminal => "FlowTerminal"
  | .flowSegment => "FlowSegment"
  | .flowFitting => "FlowFitting"
  | .flowController => "FlowController"
  | .flowMovingDevice => "FlowMovingDevice"
  | .flowStorageDevice => "FlowStorageDevice"
  | .flowTreatmentDevice => "FlowTreatmentDevice"
  | .energyConversionDevice => "EnergyConversionDevice"
  | .distributionControlElement => "DistributionControlElement"
  | .furnishingElement => "FurnishingElement"
  | .furniture => "Furniture"
  | .systemFurnitureElement => "SystemFurnitureElement"
  | .openingElement => "OpeningElement"
  | .openingStandardCase => "OpeningStandardCase"
  | .voidingFeature => "VoidingFeature"
  | .projectionElement => "ProjectionElement"
  | .reinforcingBar => "ReinforcingBar"
  | .discreteAccessory => "DiscreteAccessory"
  | .mechanicalFastener => "MechanicalFastener"
  | .transportElement => "TransportElement"
  | .virtualElement => "VirtualElement"
  | .annotationItem => "Annotation"
  | .grid => "Grid"
  | .wallType => "WallType"
  | .slabType => "SlabType"
  | .beamType => "BeamType"
  | .columnType => "ColumnType"
  | .doorType => "DoorType"
  | .windowType => "WindowType"
  | .memberType => "MemberType"
  | .plateType => "PlateType"
  | .coveringType => "CoveringType"
  | .furnitureType => "FurnitureType"
  | .buildingElementProxyType => "BuildingElementProxyType"
  | .relAggregates => "RelAggregates"
  | .relContainedInSpatialStructure => "RelContainedInSpatialStructure"
  | .relDefinesByProperties => "RelDefinesByProperties"
  | .relDefinesByType => "RelDefinesByType"
  | .relAssociatesMaterial => "RelAssociatesMaterial"
  | .relVoidsElement => "RelVoidsElement"
  | .relFillsElement => "RelFillsElement"
  | .relNests => "RelNests"
  | .relSpaceBoundary => "RelSpaceBoundary"
  | .relConnectsPathElements => "RelConnectsPathElements"
  | .propertySet => "PropertySet"
  | .elementQuantity => "ElementQuantity"
  | .propertySingleValue => "PropertySingleValue"
  | .propertyEnumeratedValue => "PropertyEnumeratedValue"
  | .propertyBoundedValue => "PropertyBoundedValue"
  | .propertyListValue => "PropertyListValue"
  | .quantityLength => "QuantityLength"
  | .quantityArea => "QuantityArea"
  | .quantityVolume => "QuantityVolume"
  | .quantityCount => "QuantityCount"
  | .quantityWeight => "QuantityWeight"
  | .quantityTime => "QuantityTime"
  | .productDefinitionShape => "ProductDefinitionShape"
  | .shapeRepresentation => "ShapeRepresentation"
  | .mappedItem => "MappedItem"
  | .representationMap => "RepresentationMap"
  | .extrudedAreaSolid => "ExtrudedAreaSolid"
  | .revolvedAreaSolid => "RevolvedAreaSolid"
  | .sweptDiskSolid => "SweptDiskSolid"
  | .facetedBrep => "FacetedBrep"
  | .facetedBrepWithVoids => "FacetedBrepWithVoids"
  | .advancedBrep => "AdvancedBrep"
  | .shellBasedSurfaceModel => "ShellBasedSurfaceModel"
  | .faceBasedSurfaceModel => "FaceBasedSurfaceModel"
  | .closedShell => "ClosedShell"
  | .openShell => "OpenShell"
  | .connectedFaceSet => "ConnectedFaceSet"
  | .face => "Face"
  | .faceOuterBound => "FaceOuterBound"
  | .faceBound => "FaceBound"
  | .polyLoop => "PolyLoop"
  | .triangulatedFaceSet => "TriangulatedFaceSet"
  | .polygonalFaceSet => "PolygonalFaceSet"
  | .indexedPolygonalFace => "IndexedPolygonalFace"
  | .indexedPolygonalFaceWithVoids => "IndexedPolygonalFaceWithVoids"
  | .cartesianPointList3D => "CartesianPointList3D"
  | .booleanResult => "BooleanResult"
  | .booleanClippingResult => "BooleanClippingResult"
  | .halfSpaceSolid => "HalfSpaceSolid"
  | .polygonalBoundedHalfSpace => "PolygonalBoundedHalfSpace"
  | .block => "Block"
  | .styledItem => "StyledItem"
  | .rectangleProfileDef => "RectangleProfileDef"
  | .rectangleHollowProfileDef => "RectangleHollowProfileDef"
  | .circleProfileDef => "CircleProfileDef"
  | .circleHollowProfileDef => "CircleHollowProfileDef"
  | .arbitraryClosedProfileDef => "ArbitraryClosedProfileDef"
  | .arbitraryProfileDefWithVoids => "ArbitraryProfileDefWithVoids"
  | .iShapeProfileDef => "IShapeProfileDef"
  | .lShapeProfileDef => "LShapeProfileDef"
  | .cartesianPoint => "CartesianPoint"
  | .direction => "Direction"
  | .polyline => "Polyline"
  | .indexedPolyCurve => "IndexedPolyCurve"
  | .cartesianPointList2D => "CartesianPointList2D"
  | .compositeCurve => "CompositeCurve"
  | .compositeCurveSegment => "CompositeCurveSegment"
  | .trimmedCurve => "TrimmedCurve"
  | .circle => "Circle"
  | .line => "Line"
  | .axis2Placement2D => "Axis2Placement2D"
  | .axis2Placement3D => "Axis2Placement3D"
  | .localPlacement => "LocalPlacement"
  | .gridPlacement => "GridPlacement"
  | .cartesianTransformationOperator3D => "CartesianTransformationOperator3D"
  | .cartesianTransformationOperator3DnonUniform => "CartesianTransformationOperator3DnonUniform"
  | .geometricRepresentationContext => "GeometricRepresentationContext"
  | .geometricRepresentationSubContext => "GeometricRepresentationSubContext"
  | .unitAssignment => "UnitAssignment"
  | .siUnit => "SIUnit"
  | .conversionBasedUnit => "ConversionBasedUnit"
  | .measureWithUnit => "MeasureWithUnit"
  | .dimensionalExponents => "DimensionalExponents"
  | .ownerHistory => "OwnerHistory"
  | .person => "Person"
  | .organization => "Organization"
  | .personAndOrganization => "PersonAndOrganization"
  | .application => "Application"
  | .material => "Material"
  | .materialList => "MaterialList"
  | .materialLayer => "MaterialLayer"
  | .materialLayerSet => "MaterialLayerSet"
  | .materialLayerSetUsage => "MaterialLayerSetUsage"

/-- The kind of a class. -/
def kind : EntityClass → EntityKind
  | .project => .project
  | .site | .building | .buildingStorey | .space | .facility | .facilityPart | .bridge
  | .road | .railway | .spatialZone | .externalSpatialElement => .spatial
  | .wall | .wallStandardCase | .curtainWall | .slab | .roof | .beam | .column | .door
  | .window | .stair | .stairFlight | .ramp | .rampFlight | .railing | .covering | .plate
  | .member | .footing | .pile | .chimney | .shadingDevice | .buildingElementProxy
  | .elementAssembly | .distributionElement | .distributionFlowElement | .flowTerminal
  | .flowSegment | .flowFitting | .flowController | .flowMovingDevice | .flowStorageDevice
  | .flowTreatmentDevice | .energyConversionDevice | .distributionControlElement
  | .furnishingElement | .furniture | .systemFurnitureElement | .openingElement
  | .openingStandardCase | .voidingFeature | .projectionElement | .reinforcingBar
  | .discreteAccessory | .mechanicalFastener | .transportElement | .virtualElement
  | .annotationItem | .grid => .element
  | .wallType | .slabType | .beamType | .columnType | .doorType | .windowType | .memberType
  | .plateType | .coveringType | .furnitureType | .buildingElementProxyType => .typeObject
  | .relAggregates | .relContainedInSpatialStructure | .relDefinesByProperties
  | .relDefinesByType | .relAssociatesMaterial | .relVoidsElement | .relFillsElement
  | .relNests | .relSpaceBoundary | .relConnectsPathElements => .relationship
  | .propertySet | .elementQuantity | .propertySingleValue | .propertyEnumeratedValue
  | .propertyBoundedValue | .propertyListValue | .quantityLength | .quantityArea
  | .quantityVolume | .quantityCount | .quantityWeight | .quantityTime => .propertyDefinition
  | .productDefinitionShape | .shapeRepresentation | .mappedItem | .representationMap
  | .extrudedAreaSolid | .revolvedAreaSolid | .sweptDiskSolid | .facetedBrep
  | .facetedBrepWithVoids | .advancedBrep | .shellBasedSurfaceModel | .faceBasedSurfaceModel
  | .closedShell | .openShell | .connectedFaceSet | .face | .faceOuterBound | .faceBound
  | .polyLoop | .triangulatedFaceSet | .polygonalFaceSet | .indexedPolygonalFace
  | .indexedPolygonalFaceWithVoids | .cartesianPointList3D | .booleanResult
  | .booleanClippingResult | .halfSpaceSolid | .polygonalBoundedHalfSpace | .block
  | .styledItem => .representation
  | .rectangleProfileDef | .rectangleHollowProfileDef | .circleProfileDef
  | .circleHollowProfileDef | .arbitraryClosedProfileDef | .arbitraryProfileDefWithVoids
  | .iShapeProfileDef | .lShapeProfileDef => .profile
  | .cartesianPoint | .direction | .polyline | .indexedPolyCurve | .cartesianPointList2D
  | .compositeCurve | .compositeCurveSegment | .trimmedCurve | .circle | .line
  | .axis2Placement2D | .axis2Placement3D | .localPlacement | .gridPlacement
  | .cartesianTransformationOperator3D | .cartesianTransformationOperator3DnonUniform
  | .geometricRepresentationContext | .geometricRepresentationSubContext | .unitAssignment
  | .siUnit | .conversionBasedUnit | .measureWithUnit | .dimensionalExponents
  | .ownerHistory | .person | .organization | .personAndOrganization | .application
  | .material | .materialList | .materialLayer | .materialLayerSet | .materialLayerSetUsage =>
    .resource

/-- Every class, in the order of the table. -/
def all : List EntityClass := [
  .project, .site, .building, .buildingStorey, .space, .facility, .facilityPart, .bridge, .road,
  .railway, .spatialZone, .externalSpatialElement, .wall, .wallStandardCase, .curtainWall, .slab,
  .roof, .beam, .column, .door, .window, .stair, .stairFlight, .ramp, .rampFlight, .railing,
  .covering, .plate, .member, .footing, .pile, .chimney, .shadingDevice, .buildingElementProxy,
  .elementAssembly, .distributionElement, .distributionFlowElement, .flowTerminal, .flowSegment,
  .flowFitting, .flowController, .flowMovingDevice, .flowStorageDevice, .flowTreatmentDevice,
  .energyConversionDevice, .distributionControlElement, .furnishingElement, .furniture,
  .systemFurnitureElement, .openingElement, .openingStandardCase, .voidingFeature,
  .projectionElement, .reinforcingBar, .discreteAccessory, .mechanicalFastener, .transportElement,
  .virtualElement, .annotationItem, .grid, .wallType, .slabType, .beamType, .columnType,
  .doorType, .windowType, .memberType, .plateType, .coveringType, .furnitureType,
  .buildingElementProxyType, .relAggregates, .relContainedInSpatialStructure,
  .relDefinesByProperties, .relDefinesByType, .relAssociatesMaterial, .relVoidsElement,
  .relFillsElement, .relNests, .relSpaceBoundary, .relConnectsPathElements, .propertySet,
  .elementQuantity, .propertySingleValue, .propertyEnumeratedValue, .propertyBoundedValue,
  .propertyListValue, .quantityLength, .quantityArea, .quantityVolume, .quantityCount,
  .quantityWeight, .quantityTime, .productDefinitionShape, .shapeRepresentation, .mappedItem,
  .representationMap, .extrudedAreaSolid, .revolvedAreaSolid, .sweptDiskSolid, .facetedBrep,
  .facetedBrepWithVoids, .advancedBrep, .shellBasedSurfaceModel, .faceBasedSurfaceModel,
  .closedShell, .openShell, .connectedFaceSet, .face, .faceOuterBound, .faceBound, .polyLoop,
  .triangulatedFaceSet, .polygonalFaceSet, .indexedPolygonalFace, .indexedPolygonalFaceWithVoids,
  .cartesianPointList3D, .booleanResult, .booleanClippingResult, .halfSpaceSolid,
  .polygonalBoundedHalfSpace, .block, .styledItem, .rectangleProfileDef,
  .rectangleHollowProfileDef, .circleProfileDef, .circleHollowProfileDef,
  .arbitraryClosedProfileDef, .arbitraryProfileDefWithVoids, .iShapeProfileDef, .lShapeProfileDef,
  .cartesianPoint, .direction, .polyline, .indexedPolyCurve, .cartesianPointList2D,
  .compositeCurve, .compositeCurveSegment, .trimmedCurve, .circle, .line, .axis2Placement2D,
  .axis2Placement3D, .localPlacement, .gridPlacement, .cartesianTransformationOperator3D,
  .cartesianTransformationOperator3DnonUniform, .geometricRepresentationContext,
  .geometricRepresentationSubContext, .unitAssignment, .siUnit, .conversionBasedUnit,
  .measureWithUnit, .dimensionalExponents, .ownerHistory, .person, .organization,
  .personAndOrganization, .application, .material, .materialList, .materialLayer,
  .materialLayerSet, .materialLayerSetUsage]

/-- The name of a class, such as `IfcWall`. -/
def name (c : EntityClass) : String :=
  "Ifc" ++ c.label

/-- The tag of a class in exchange files, such as `IFCWALL`. -/
def tag (c : EntityClass) : String :=
  "IFC" ++ c.label.toUpper

/-- The classes by their tags. -/
def byTag : List (String × EntityClass) :=
  all.map fun c => (c.tag, c)

/-- The class of a tag, whose letters may be of either case. -/
def ofTag? (tag : String) : Option EntityClass :=
  byTag.lookup tag.toUpper

theorem mem_all (c : EntityClass) : c ∈ all := by
  cases c <;> decide

end EntityClass

end BuildingModel
