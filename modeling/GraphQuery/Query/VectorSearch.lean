import GraphQuery.Binary.Text
import GraphQuery.Query.Scope
import GraphQuery.Query.Symbol
import GraphQuery.Text.Basic

namespace GraphQuery

/-- A list of single-precision numbers as it is written in a statement. Each has to be finite. -/
def vectorText (component : String) (elements : List Single) : Except QueryError String :=
  match elements.zipIdx.find? fun (element, _) => !element.isFinite with
  | some (element, position) => failWith component (.notFinite position element)
  | none => .ok ("[" ++ Text.commaJoin (elements.map Binary.text) ++ "]")

namespace VectorSearch

/-- The component that failures of a search belong to. -/
def component : String := "vector search"

/-- The result column that holds the distance to the given vector. -/
def distanceColumn : String := "distance"

/-- The column that holds the vectors. -/
def column (search : VectorSearch) : String :=
  search.schema.columnFor search.property

/-- Checks that the property is a vector of the length of the given one, and that a result is asked
    for. -/
def validate (search : VectorSearch) : Except QueryError Unit := do
  let property ← search.schema.require search.property
  match property.kind.dimension? with
  | none =>
    failWith component
      (.notAVector search.schema.name search.property property.kind.typeName)
  | some dimension =>
    if search.vector.length ≠ dimension then
      .error (.dimensionMismatch search.schema.name property.columnName dimension
        search.vector.length)
    else if search.count = 0 then failWith component .noResult
    else .ok ()

/-- The call of the procedure that searches the index, and the columns it gives out. The vector is
    written out, because the procedure takes no parameter for it. -/
def renderCall (config : Config) (search : VectorSearch) : RenderM String := do
  search.validate
  Name.checkAlias component search.aliasName
  Name.checkProcedure component config.vectorProcedure
  let index := search.index.getD (config.indexName search.schema.name search.column)
  let vector ← vectorText component search.vector
  match SizedInt.ofInt? .int64 search.count with
  | none => RenderM.fail component (.tooManyResults search.count)
  | some count =>
    let count ← Scope.bindAnonymous config (.int count)
    return "CALL " ++ config.vectorProcedure ++ "(" ++ Text.quoted search.schema.name ++ ", " ++
      Text.quoted index ++ ", " ++ vector ++ ", " ++ count ++ ") WITH node AS " ++
      search.aliasName ++ ", " ++ distanceColumn

/-- The columns that are given out in the end, and their order: by distance unless other keys are
    given. -/
def tail (search : VectorSearch) (keys : List String) : String :=
  (if search.isPipelined then " WITH " else " RETURN ") ++ search.aliasName ++ ", " ++
    distanceColumn ++ orderText (if keys.isEmpty then [distanceColumn ++ " ASC"] else keys)

end VectorSearch

end GraphQuery
