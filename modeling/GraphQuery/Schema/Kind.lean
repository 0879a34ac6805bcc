import GraphQuery.Integer
import GraphQuery.Text.Basic

namespace GraphQuery

/-- A declared property over a type of kinds: its name in a record, the column that holds it where
    that has another name, and the constraints on it. -/
structure PropertyOf (κ : Type) where
  name : String
  column : Option String := none
  kind : κ
  isPrimaryKey : Bool := false
  isUnique : Bool := false
  isOptional : Bool := false

/-- The column that holds a property: the declared one, or the one of the property's name. -/
def PropertyOf.columnName {κ : Type} (property : PropertyOf κ) : String :=
  property.column.getD property.name

/-- The declared kind of a property. A vector is a list of single-precision numbers of a fixed
    length, and a structure is a nested record with properties of its own. -/
inductive Kind where
  | string
  | bool
  | int (kind : IntKind)
  | float
  | double
  | uuid
  | timestamp
  | date
  | list (inner : Kind)
  | struct (properties : List (PropertyOf Kind))
  | vector (dimension : Nat)

/-- A declared property. -/
abbrev Property := PropertyOf Kind

namespace Kind

mutual

/-- The name of the type of a kind in the engine. -/
def typeName : Kind → String
  | .string => "STRING"
  | .bool => "BOOL"
  | .int kind => kind.name
  | .float => "FLOAT"
  | .double => "DOUBLE"
  | .uuid => "UUID"
  | .timestamp => "TIMESTAMP"
  | .date => "DATE"
  | .list inner => typeName inner ++ "[]"
  | .struct properties => "STRUCT(" ++ Text.commaJoin (columnTypes properties) ++ ")"
  | .vector dimension => "FLOAT[" ++ toString dimension ++ "]"

/-- The columns of a structure, each with the name of its type. -/
def columnTypes : List (PropertyOf Kind) → List String
  | [] => []
  | ⟨name, column, kind, _, _, _⟩ :: properties =>
    (column.getD name ++ " " ++ typeName kind) :: columnTypes properties

end

/-- Whether a kind holds integers. -/
def isInteger : Kind → Bool
  | .int _ => true
  | _ => false

/-- Whether a kind holds floating-point numbers. -/
def isFloat : Kind → Bool
  | .float | .double => true
  | _ => false

/-- Whether a kind holds numbers. -/
def isNumeric (kind : Kind) : Bool :=
  kind.isInteger || kind.isFloat

/-- The least and the greatest integer of an integer kind. -/
def integerRange? : Kind → Option (Int × Int)
  | .int kind => some (kind.least, kind.greatest)
  | _ => none

/-- The length of the vectors of a vector kind. -/
def dimension? : Kind → Option Nat
  | .vector dimension => some dimension
  | _ => none

end Kind

end GraphQuery
