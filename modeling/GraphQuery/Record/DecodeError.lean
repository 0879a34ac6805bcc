import GraphQuery.Value.Text

namespace GraphQuery

/-- What can go wrong when a result is read as records. -/
inductive DecodeError where
  | mismatch (field expected found : String)
  | nullViolation (field : String)
  | noResult
  | missingColumn (column : String)
  | noJsonForm (type kind : String)
  | refused (type : String)
  | unbuildable (type text : String)
  deriving DecidableEq

namespace DecodeError

/-- A value is not of the kind that is expected. -/
def unexpected (field expected : String) (found : Value) : DecodeError :=
  mismatch field expected (if found.isNull then "null" else found.kindName ++ " " ++ found.text)

/-- The wording of an error. -/
def message : DecodeError → String
  | mismatch field expected found => s!"field '{field}': expected {expected}, found {found}"
  | nullViolation field => s!"field '{field}' is not optional but the engine returned null"
  | noResult => "query returned no results"
  | missingColumn column => s!"missing column '{column}' in query result"
  | noJsonForm type kind => s!"cannot build {type}: {kind} value has no JSON form"
  | refused type => s!"cannot build {type}"
  | unbuildable type text => s!"cannot build {type}: {text}"

end DecodeError

end GraphQuery
