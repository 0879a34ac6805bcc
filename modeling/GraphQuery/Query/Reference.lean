import GraphQuery.Name.Check
import GraphQuery.Schema

namespace GraphQuery

/-- A column of what an alias stands for. -/
structure Reference where
  aliasName : String
  column : String
  deriving DecidableEq

namespace Reference

/-- The reference to a property of a schema, by the column that holds it. -/
def ofProperty (schema : Schema) (aliasName property : String) : Reference :=
  ⟨aliasName, schema.columnFor property⟩

/-- Alias and column as they stand, for messages. -/
def display (reference : Reference) : String :=
  reference.aliasName ++ "." ++ reference.column

/-- The reference as it is written in a statement. -/
def render (reference : Reference) : Except QueryError String := do
  let component := "property reference"
  Name.checkAlias component reference.aliasName
  if reference.column.isEmpty then failWith component (.emptyColumn reference.aliasName)
  else return reference.aliasName ++ "." ++ Name.written reference.column

end Reference

end GraphQuery
