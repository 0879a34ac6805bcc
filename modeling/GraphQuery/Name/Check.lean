import GraphQuery.Error
import GraphQuery.Name
import GraphQuery.Text.Basic

namespace GraphQuery

namespace Name

/-- Checks a name that is to be used as an alias. -/
def checkAlias (component name : String) : Except QueryError Unit :=
  if name.isEmpty then failWith component .emptyAlias
  else if isIdentifier name then .ok ()
  else failWith component (.invalidAlias name)

/-- Writes a label, a table or a column, which may have any name but the empty one. -/
def write (component name : String) : Except QueryError String :=
  if name.isEmpty then failWith component .emptyName else .ok (written name)

/-- Checks the name of a procedure or a function. -/
def checkProcedure (component name : String) : Except QueryError Unit :=
  if isProcedure name then .ok () else failWith component (.invalidProcedure name)

end Name

end GraphQuery
