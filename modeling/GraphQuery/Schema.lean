import GraphQuery.Error
import GraphQuery.Json
import GraphQuery.Schema.Kind

namespace GraphQuery

/-- How the records of a domain are stored: the name of their table, the labels of the two ends if
    it holds relationships, and the properties in order. -/
structure Schema where
  name : String
  ends : Option (String × String) := none
  properties : List Property

namespace Schema

/-- Whether the records are relationships. -/
def isRel (schema : Schema) : Bool :=
  schema.ends.isSome

/-- The first property of a name. -/
def property? (schema : Schema) (name : String) : Option Property :=
  schema.properties.find? (·.name = name)

/-- The first property that a column holds. -/
def propertyOfColumn? (schema : Schema) (column : String) : Option Property :=
  schema.properties.find? (·.columnName = column)

/-- The column of a property. A property that is not declared has the column of its own name. -/
def columnFor (schema : Schema) (name : String) : String :=
  match schema.property? name with
  | some property => property.columnName
  | none => name

/-- The first property that is a primary key. -/
def primaryKey? (schema : Schema) : Option Property :=
  schema.properties.find? (·.isPrimaryKey)

/-- The property of a name, which has to be declared. -/
def require (schema : Schema) (name : String) : Except QueryError Property :=
  match schema.property? name with
  | some property => .ok property
  | none => .error (.undeclaredProperty schema.name name)

end Schema

/-- A type of a domain whose records are stored: its schema, and how a record is turned into a JSON
    document and built from one. Both ways may refuse, with a message. -/
structure Model (α : Type) where
  schema : Schema
  serialize : α → Except String Json
  deserialize : Json → Except String α

end GraphQuery
