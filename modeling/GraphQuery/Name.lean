import GraphQuery.Text.Alphabetic
import GraphQuery.Text.Character

namespace GraphQuery

namespace Name

/-- Whether a character is alphabetic or a number. -/
def isAlphanumeric (c : Char) : Bool :=
  Text.isAlphabetic c || Text.isNumeric c

/-- Whether an identifier may begin with a character. -/
def isStart (c : Char) : Bool :=
  Text.isAlphabetic c || c = '_'

/-- Whether an identifier may go on with a character. -/
def isPart (c : Char) : Bool :=
  isAlphanumeric c || c = '_'

/-- Whether a name can stand in a statement without quotes. -/
def isIdentifier (name : String) : Bool :=
  match name.toList with
  | [] => false
  | c :: rest => isStart c && rest.all isPart

/-- Whether a name is a sequence of identifiers with points between them. -/
def isProcedure (name : String) : Bool :=
  (name.toList.splitOn '.').all fun part => isIdentifier (String.ofList part)

/-- A name between back-quotes, with the back-quotes in it doubled. -/
def backQuoted (name : String) : String :=
  "`" ++ String.ofList (name.toList.flatMap fun c => if c = '\x60' then [c, c] else [c]) ++ "`"

/-- A name as it is written in a statement: an identifier as it is, any other name between
    back-quotes. -/
def written (name : String) : String :=
  if isIdentifier name then name else backQuoted name

end Name

end GraphQuery
