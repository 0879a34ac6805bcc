import GraphQuery.Proofs.Template

namespace GraphQuery

/-- The place of a value that is an inline property. Without an alias it takes an anonymous name. -/
def Template.inlineValue (aliasName column : String) (v : Value) : Template :=
  if aliasName.isEmpty then [.value v] else [.shared aliasName column v]

/-- The number of results as a value of the engine, where it is one. -/
def VectorSearch.countValue (search : VectorSearch) : Value :=
  match SizedInt.ofInt? .int64 search.count with
  | some count => .int count
  | none => .null

/-- The place of the operand of a comparison, if it is not a column. -/
def Operand.places : Operand → Template
  | .value v => [.value v]
  | .reference _ => []
  | .parameter name => [.caller name]

/-- The place of the value of an assignment, if it has one. -/
def Update.places : Update → Template
  | .value v | .increment v | .decrement v | .append v => [.value v]
  | .copy _ => []

/-- The place of the list that is turned into rows. -/
def UnwindSource.places : UnwindSource → Template
  | .value v => [.value v]
  | .parameter name => [.caller name]

/-- The places of inline properties that are all values. -/
def pairPlaces (head : Head) (pairs : List (String × Value)) : Template :=
  pairs.flatMap fun (name, v) => Template.inlineValue head.aliasName (head.columnFor name) v

/-- The places of the values of one branch of a merge. -/
def branchPlaces (pairs : List (String × Value)) : Template :=
  pairs.map fun (_, v) => .value v

mutual

/-- The places of an expression: its values, the parameters that the caller binds and what is in the
    caller's own words, in the order of the text. -/
def Expr.places : Expr → Template
  | .named _ | .property _ => []
  | .value v => [.value v]
  | .parameter name => [.caller name]
  | .function _ arguments => exprPlaces arguments
  | .aggregate _ argument _ => argumentPlaces argument
  | .subquery _ clauses _ => clausePlaces clauses
  | .raw text => [.verbatim text .empty]

/-- The places of expressions. -/
def exprPlaces : List Expr → Template
  | [] => []
  | expr :: exprs => expr.places ++ exprPlaces exprs

/-- The places of the argument of an aggregate. -/
def argumentPlaces : Option Expr → Template
  | none => []
  | some expr => expr.places

/-- The places of a condition. -/
def Predicate.places : Predicate → Template
  | .compare _ _ operand => operand.places
  | .and first second | .or first second => first.places ++ second.places
  | .not inner => inner.places
  | .isNull _ | .isNotNull _ | .literal _ => []
  | .isIn _ values => [.value values]
  | .stringMatch _ _ value => [.value value]
  | .existsPattern pattern => pattern.places [] ++ pattern.filterPlaces
  | .existsQuery clauses => clausePlaces clauses
  | .custom text bindings => [.verbatim text bindings]

/-- The places of the condition of a clause or a pattern. -/
def filterPlaces : Option Predicate → Template
  | none => []
  | some predicate => predicate.places

/-- The places of the inline properties of a node or an edge. -/
def propertyPlaces (head : Head) : List (String × Expr) → Template
  | [] => []
  | (name, expr) :: properties =>
    (match expr.value? with
      | some v => Template.inlineValue head.aliasName (head.columnFor name) v
      | none => expr.places) ++ propertyPlaces head properties

/-- The places of a node without the condition attached to it. -/
def NodePattern.places (further : List (String × Value)) : NodePattern → Template
  | .mk head properties _ => propertyPlaces head properties ++ pairPlaces head further

/-- The places of the condition attached to a node. -/
def NodePattern.filterPlaces : NodePattern → Template
  | .mk _ _ filter => GraphQuery.filterPlaces filter

/-- The places of a pattern without the conditions attached to it. -/
def Pattern.places (further : List (String × Value)) : Pattern → Template
  | .node node => node.places further
  | .edge source head _ properties _ target =>
    source.places [] ++ (propertyPlaces head properties ++ pairPlaces head further) ++
      target.places []
  | .path _ source _ _ _ target => source.places [] ++ target.places []

/-- The places of the conditions attached anywhere in a pattern. -/
def Pattern.filterPlaces : Pattern → Template
  | .node node => node.filterPlaces
  | .edge source _ _ _ filter target =>
    source.filterPlaces ++ GraphQuery.filterPlaces filter ++ target.filterPlaces
  | .path _ source _ _ _ target => source.filterPlaces ++ target.filterPlaces

/-- The places of patterns without the conditions attached to them. -/
def patternPlaces : List Pattern → Template
  | [] => []
  | pattern :: patterns => pattern.places [] ++ patternPlaces patterns

/-- The places of the conditions attached anywhere in patterns. -/
def allFilterPlaces : List Pattern → Template
  | [] => []
  | pattern :: patterns => pattern.filterPlaces ++ allFilterPlaces patterns

/-- The places of the items of a projection. -/
def itemPlaces : List ReturnItem → Template
  | [] => []
  | .mk expr _ :: items => expr.places ++ itemPlaces items

/-- The places of the keys to sort by. -/
def keyPlaces : List OrderKey → Template
  | [] => []
  | .mk expr _ :: keys => expr.places ++ keyPlaces keys

/-- The places of a projection. -/
def Projection.places : Projection → Template
  | .mk items _ order _ _ => itemPlaces items ++ keyPlaces order

/-- The places of the options of a call. -/
def optionPlaces : List (String × Expr) → Template
  | [] => []
  | (_, expr) :: options => expr.places ++ optionPlaces options

/-- The places of a clause. The conditions attached to patterns stand behind all of them, and those
    attached to a clause behind these. -/
def Clause.places : Clause → Template
  | .matching _ patterns filter =>
    patternPlaces patterns ++ (allFilterPlaces patterns ++ GraphQuery.filterPlaces filter)
  | .create patterns => patternPlaces patterns ++ allFilterPlaces patterns
  | .merge pattern matchOn onCreate onMatch =>
    pattern.places matchOn ++ branchPlaces onCreate ++ branchPlaces onMatch ++ pattern.filterPlaces
  | .set assignments => assignments.flatMap (·.update.places)
  | .delete .. => []
  | .filter predicate => predicate.places
  | .returning projection => projection.places
  | .passing projection filter => projection.places ++ GraphQuery.filterPlaces filter
  | .unwind source _ => source.places
  | .call _ arguments options _ filter =>
    exprPlaces arguments ++ optionPlaces options ++ GraphQuery.filterPlaces filter
  | .subquery _ clauses _ => clausePlaces clauses
  | .vectorSearch search filter order =>
    .value search.countValue :: (GraphQuery.filterPlaces filter ++ keyPlaces order)

/-- The places of clauses. -/
def clausePlaces : List Clause → Template
  | [] => []
  | clause :: clauses => clause.places ++ clausePlaces clauses

end

namespace Query

/-- The places of a query, in the order of its text. -/
def places (query : Query) : Template :=
  clausePlaces query

/-- Whether some of a query is in the caller's own words: a raw expression or a custom condition,
    wherever it stands. -/
def hasVerbatim (query : Query) : Bool :=
  query.places.hasVerbatim

/-- The names of the parameters that the caller binds: those of all operands, expressions and lists
    of a query that refer to one. -/
def callers (query : Query) : List String :=
  query.places.callers

/-- The values of a query that have no name of their own, in the order in which they are referred to
    in its statement. -/
def sites (query : Query) : List Value :=
  query.places.values

end Query

end GraphQuery
