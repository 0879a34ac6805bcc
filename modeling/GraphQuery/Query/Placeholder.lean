import GraphQuery.Text.Character
import GraphQuery.Text.Letter

namespace GraphQuery

namespace Placeholder

/-- Whether the name of a placeholder in the caller's own text may begin with a character. -/
def isStart (c : Char) : Bool :=
  Text.isLetter c || c = '_'

/-- Whether the name of a placeholder in the caller's own text may go on with a character. -/
def isPart (c : Char) : Bool :=
  Text.isLetter c || Text.isNumeric c || c = '_'

/-- The names behind the dollar signs of a text, in order. A dollar sign that no name follows stands
    for itself. Letters and numbers are meant by their general category here, so that a mark ends a
    name even where it is alphabetic. -/
def names : List Char → List String
  | [] => []
  | c :: rest =>
    if c = '$' ∧ (rest.head?.any isStart) then
      String.ofList (rest.takeWhile isPart) :: names rest
    else names rest

end Placeholder

end GraphQuery
