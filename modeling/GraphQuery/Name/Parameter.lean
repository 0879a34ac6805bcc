import GraphQuery.Name
import GraphQuery.Text.Digits

namespace GraphQuery

namespace Name

/-- The place of a parameter in a statement. -/
def placeholder (name : String) : String :=
  "$" ++ name

/-- The name of the `n`th value that has no name of its own. -/
def anonymous (stem : String) (n : Nat) : String :=
  stem ++ toString n

/-- Whether a name has the form of an anonymous name: the stem and at least one digit. -/
def isAnonymous (stem name : String) : Bool :=
  stem.toList.isPrefixOf name.toList &&
    let digits := name.toList.drop stem.length
    !digits.isEmpty && digits.all Char.isDigit

/-- A character of an escaped part of a name. The underscore is doubled, and what is neither
    alphanumeric nor an underscore becomes `_x` and six hexadecimal digits. -/
def escapeChar (c : Char) : List Char :=
  if c = '_' then ['_', '_']
  else if isAlphanumeric c then [c]
  else '_' :: 'x' :: Text.hex 6 c.toNat

/-- An escaped part of a name. -/
def escapePart (part : String) : List Char :=
  part.toList.flatMap escapeChar

/-- Whether an alias and a column can be joined by an underscore so that the first underscore of
    the result is the joint. -/
def isPlainPair (aliasName column : String) : Bool :=
  !aliasName.isEmpty && aliasName.toList.all isAlphanumeric &&
    !column.isEmpty && column.toList.all isPart

/-- The name shared by all values of one column of one alias. Where the two cannot simply be joined,
    both are escaped and the length of the escaped alias tells where it ends. -/
def semantic (aliasName column : String) : String :=
  if isPlainPair aliasName column then aliasName ++ "_" ++ column
  else
    let escaped := escapePart aliasName
    "_" ++ toString escaped.length ++ "_" ++ String.ofList escaped ++ "_" ++
      String.ofList (escapePart column)

end Name

end GraphQuery
