import GraphQuery.Query.Tree

namespace GraphQuery

/-- The operand of a comparison without its value. -/
def Operand.erased : Operand → Operand
  | .value _ => .value .null
  | .reference other => .reference other
  | .parameter name => .parameter name

/-- What an assignment makes of its target, without its value. -/
def Update.erased : Update → Update
  | .value _ => .value .null
  | .copy source => .copy source
  | .increment _ => .increment .null
  | .decrement _ => .decrement .null
  | .append _ => .append .null

/-- An assignment without its value. -/
def Assignment.erased (assignment : Assignment) : Assignment :=
  { assignment with update := assignment.update.erased }

/-- The list that is turned into rows, without its value. -/
def UnwindSource.erased : UnwindSource → UnwindSource
  | .value _ => .value .null
  | .parameter name => .parameter name

/-- A search without the number of its results. The vector stays, because it is part of the
    statement. -/
def VectorSearch.erased (search : VectorSearch) : VectorSearch :=
  { search with count := 0 }

/-- Properties without their values. -/
def erasedPairs (pairs : List (String × Value)) : List (String × Value) :=
  pairs.map fun (name, _) => (name, .null)

@[simp]
theorem erasedPairs_nil : erasedPairs [] = [] :=
  rfl

@[simp]
theorem erasedPairs_erasedPairs (pairs : List (String × Value)) :
    erasedPairs (erasedPairs pairs) = erasedPairs pairs := by
  simp [erasedPairs]

/-- Parameters without their values. -/
def Bindings.erased (bindings : Bindings) : Bindings where
  table := erasedPairs bindings.table
  sorted := by
    unfold Fields.Sorted erasedPairs
    rw [List.pairwise_map]
    exact bindings.sorted

theorem Bindings.erased_erased (bindings : Bindings) :
    bindings.erased.erased = bindings.erased := by
  simp [Bindings.erased]

mutual

/-- An expression without its values: all that a query says of them is where they are. -/
def Expr.erased : Expr → Expr
  | .named name => .named name
  | .property reference => .property reference
  | .value _ => .value .null
  | .parameter name => .parameter name
  | .function name arguments => .function name (erasedExprs arguments)
  | .aggregate aggregate argument isDistinct =>
    .aggregate aggregate (erasedArgument argument) isDistinct
  | .subquery kind clauses yields => .subquery kind (erasedClauses clauses) yields
  | .raw text => .raw text

/-- Expressions without their values. -/
def erasedExprs : List Expr → List Expr
  | [] => []
  | expr :: exprs => expr.erased :: erasedExprs exprs

/-- The argument of an aggregate without its values. -/
def erasedArgument : Option Expr → Option Expr
  | none => none
  | some expr => some expr.erased

/-- A condition without its values. -/
def Predicate.erased : Predicate → Predicate
  | .compare reference comparison operand => .compare reference comparison operand.erased
  | .and first second => .and first.erased second.erased
  | .or first second => .or first.erased second.erased
  | .not inner => .not inner.erased
  | .isNull reference => .isNull reference
  | .isNotNull reference => .isNotNull reference
  | .isIn reference _ => .isIn reference .null
  | .stringMatch reference kind _ => .stringMatch reference kind .null
  | .existsPattern pattern => .existsPattern pattern.erased
  | .existsQuery clauses => .existsQuery (erasedClauses clauses)
  | .literal value => .literal value
  | .custom text bindings => .custom text bindings.erased

/-- The condition of a clause or a pattern without its values. -/
def erasedFilter : Option Predicate → Option Predicate
  | none => none
  | some predicate => some predicate.erased

/-- Inline properties and options without their values. -/
def erasedProperties : List (String × Expr) → List (String × Expr)
  | [] => []
  | (name, expr) :: properties => (name, expr.erased) :: erasedProperties properties

/-- A node without its values. -/
def NodePattern.erased : NodePattern → NodePattern
  | .mk head properties filter => .mk head (erasedProperties properties) (erasedFilter filter)

/-- A pattern without its values. -/
def Pattern.erased : Pattern → Pattern
  | .node node => .node node.erased
  | .edge source head direction properties filter target =>
    .edge source.erased head direction (erasedProperties properties) (erasedFilter filter)
      target.erased
  | .path aliasName source label direction hops target =>
    .path aliasName source.erased label direction hops target.erased

/-- Patterns without their values. -/
def erasedPatterns : List Pattern → List Pattern
  | [] => []
  | pattern :: patterns => pattern.erased :: erasedPatterns patterns

/-- The items of a projection without their values. -/
def erasedItems : List ReturnItem → List ReturnItem
  | [] => []
  | .mk expr name :: items => .mk expr.erased name :: erasedItems items

/-- The keys to sort by without their values. -/
def erasedKeys : List OrderKey → List OrderKey
  | [] => []
  | .mk expr isDescending :: keys => .mk expr.erased isDescending :: erasedKeys keys

/-- A projection without its values. The bounds on its rows stay, because they are part of the
    statement. -/
def Projection.erased : Projection → Projection
  | .mk items isDistinct order skip limit =>
    .mk (erasedItems items) isDistinct (erasedKeys order) skip limit

/-- A clause without its values. -/
def Clause.erased : Clause → Clause
  | .matching isOptional patterns filter =>
    .matching isOptional (erasedPatterns patterns) (erasedFilter filter)
  | .create patterns => .create (erasedPatterns patterns)
  | .merge pattern matchOn onCreate onMatch =>
    .merge pattern.erased (erasedPairs matchOn) (erasedPairs onCreate) (erasedPairs onMatch)
  | .set assignments => .set (assignments.map Assignment.erased)
  | .delete isDetach aliases => .delete isDetach aliases
  | .filter predicate => .filter predicate.erased
  | .returning projection => .returning projection.erased
  | .passing projection filter => .passing projection.erased (erasedFilter filter)
  | .unwind source aliasName => .unwind source.erased aliasName
  | .call procedure arguments options yields filter =>
    .call procedure (erasedExprs arguments) (erasedProperties options) yields (erasedFilter filter)
  | .subquery kind clauses yields => .subquery kind (erasedClauses clauses) yields
  | .vectorSearch search filter order =>
    .vectorSearch search.erased (erasedFilter filter) (erasedKeys order)

/-- Clauses without their values. -/
def erasedClauses : List Clause → List Clause
  | [] => []
  | clause :: clauses => clause.erased :: erasedClauses clauses

end

/-- A query without its values. -/
def Query.erased (query : Query) : Query :=
  erasedClauses query

end GraphQuery
