import GraphQuery.Query.Tree
import GraphQuery.Text.Basic

namespace GraphQuery

/-- The operator of a comparison. -/
def Comparison.symbol : Comparison → String
  | .eq => "="
  | .ne => "<>"
  | .lt => "<"
  | .le => "<="
  | .gt => ">"
  | .ge => ">="

/-- The operator of a test against a string. -/
def StringMatch.operator : StringMatch → String
  | .contains => "CONTAINS"
  | .startsWith => "STARTS WITH"
  | .endsWith => "ENDS WITH"
  | .regex => "=~"

/-- The name of an aggregate function. -/
def Aggregate.name : Aggregate → String
  | .count => "count"
  | .sum => "sum"
  | .avg => "avg"
  | .min => "min"
  | .max => "max"
  | .collect => "collect"

/-- The keyword of a clause. -/
def Clause.keyword : Clause → String
  | .matching isOptional _ _ => if isOptional then "OPTIONAL MATCH" else "MATCH"
  | .create _ => "CREATE"
  | .merge .. => "MERGE"
  | .set _ => "SET"
  | .delete isDetach _ => if isDetach then "DETACH DELETE" else "DELETE"
  | .filter _ => "WHERE"
  | .returning _ => "RETURN"
  | .passing _ _ => "WITH"
  | .unwind _ _ => "UNWIND"
  | .call .. | .subquery .. | .vectorSearch .. => "CALL"

/-- What stands between two nodes, with its direction. -/
def Direction.arrow (direction : Direction) (inner : String) : String :=
  match direction with
  | .outgoing => "-[" ++ inner ++ "]->"
  | .incoming => "<-[" ++ inner ++ "]-"
  | .undirected => "-[" ++ inner ++ "]-"

/-- The columns that a call gives out. -/
def yieldText (yields : List String) : String :=
  if yields.isEmpty then "" else " YIELD " ++ Text.commaJoin yields

/-- A query within a query, by the text of its clauses. -/
def SubqueryKind.enclose (kind : SubqueryKind) (inner : String) : String :=
  match kind with
  | .scalar => "(" ++ inner ++ ")"
  | .list => "[" ++ inner ++ "]"
  | .exists => "EXISTS \x7b " ++ inner ++ " \x7d"
  | .count => "COUNT \x7b " ++ inner ++ " \x7d"
  | .call => "CALL \x7b " ++ inner ++ " \x7d"

/-- The conjunction of conditions, grouped from the left. -/
def conjunction : List String → Option String
  | [] => none
  | first :: rest =>
    some (rest.foldl (fun all next => "(" ++ all ++ ") AND (" ++ next ++ ")") first)

/-- The conjunction of conditions behind its keyword, and nothing without conditions. -/
def whereText (conditions : List String) : String :=
  match conjunction conditions with
  | some condition => " WHERE " ++ condition
  | none => ""

/-- The keys to sort by behind their keyword, and nothing without keys. -/
def orderText (keys : List String) : String :=
  if keys.isEmpty then "" else " ORDER BY " ++ Text.commaJoin keys

end GraphQuery
