import BuildingModel.Model.Index

/-!
# Units

The lengths of a model are in the first length unit of its project. A unit is one of the
International System, with a prefix, or converts to another unit by a factor.
-/

namespace BuildingModel.Units

/-- What a prefix multiplies a unit by. -/
def prefixScale : String → Float
  | "EXA" => 1e18
  | "PETA" => 1e15
  | "TERA" => 1e12
  | "GIGA" => 1e9
  | "MEGA" => 1e6
  | "KILO" => 1e3
  | "HECTO" => 1e2
  | "DECA" => 1e1
  | "DECI" => 1e-1
  | "CENTI" => 1e-2
  | "MILLI" => 1e-3
  | "MICRO" => 1e-6
  | "NANO" => 1e-9
  | "PICO" => 1e-12
  | "FEMTO" => 1e-15
  | "ATTO" => 1e-18
  | _ => 1.0

/-- The metres in a length unit, following at most `fuel` units. The unit that a factor is given in
counts as the metre when it is no length unit. -/
def lengthScaleWithin? (x : EntityIndex) : (fuel : Nat) → Entity → Option Float
  | 0, _ => none
  | fuel + 1, unit =>
    if unit.enumeration? 1 != some "LENGTHUNIT" then none
    else
      match unit.type with
      | .known .siUnit =>
        if unit.enumeration? 3 != some "METRE" then none
        else some (((unit.enumeration? 2).map prefixScale).getD 1.0)
      | .known .conversionBasedUnit =>
        match x.follow? unit 3 with
        | none => none
        | some factor =>
          if factor.type = .known .measureWithUnit then
            (factor.real? 0).map fun value =>
              value * (((x.follow? factor 1).bind (lengthScaleWithin? x fuel)).getD 1.0)
          else none
      | _ => none

/-- The metres in a length unit. A chain of different units is no longer than the model. -/
def lengthScale? (x : EntityIndex) (unit : Entity) : Option Float :=
  lengthScaleWithin? x x.size unit

/-- The metres in the length unit of the model: the first length unit that its first project
assigns, and one where there is none. -/
def lengthScale (x : EntityIndex) : Float :=
  match (x.entitiesOf (.known .project)).head? with
  | none => 1.0
  | some project =>
    match x.follow? project 8 with
    | none => 1.0
    | some assignment => ((x.followAll assignment 0).findSome? (lengthScale? x)).getD 1.0

/-- The letter of a prefix. -/
def prefixLetter : String → String
  | "MILLI" => "m"
  | "CENTI" => "c"
  | "DECI" => "d"
  | "KILO" => "k"
  | _ => ""

/-- The symbol of a unit of the International System; a name without one stands for itself. -/
def symbol : String → String
  | "METRE" => "m"
  | "SQUARE_METRE" => "m²"
  | "CUBIC_METRE" => "m³"
  | "GRAM" => "g"
  | "SECOND" => "s"
  | "KELVIN" => "K"
  | "DEGREE_CELSIUS" => "°C"
  | "AMPERE" => "A"
  | "WATT" => "W"
  | "PASCAL" => "Pa"
  | "NEWTON" => "N"
  | name => name

/-- The label of a unit. -/
def label? (unit : Entity) : Option String :=
  match unit.type with
  | .known .siUnit =>
    (unit.enumeration? 3).map fun name =>
      prefixLetter ((unit.enumeration? 2).getD "") ++ symbol name
  | .known .conversionBasedUnit => unit.text? 2
  | _ => none

end BuildingModel.Units
