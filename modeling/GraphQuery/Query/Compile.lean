import GraphQuery.Query.Render

namespace GraphQuery

/-- A statement that can be executed, with the values of its parameters. -/
structure Statement where
  text : String
  bindings : Bindings

namespace Query

/-- Checks the clauses of a query in order. An error is given the position of its clause, counted
    from `position`. -/
def checkFrom (position : Nat) : Query → Except QueryError Unit
  | [] => .ok ()
  | clause :: clauses =>
    match clause.validate with
    | .ok () => checkFrom (position + 1) clauses
    | .error error => .error (error.atClause position)

/-- Writes a whole query, once all of its clauses have been checked. -/
def render (config : Config) (query : Query) : RenderM String := do
  if query.isEmpty then RenderM.fail "query" .emptyQuery
  query.checkFrom 0
  renderFrom config true 0 "" query

end Query

/-- Compiles a query into a statement. The settings are checked first, and the numbering of
    anonymous parameters begins anew. -/
def compile (config : Config) (query : Query) : Except QueryError Statement :=
  match config.validate with
  | .error error => failWith "config" (.invalidConfig error)
  | .ok () =>
    match query.render config {} with
    | .ok text scope => .ok ⟨text, scope.bindings⟩
    | .error error _ => .error error

/-- Writes a pattern on its own behind a keyword, with its conditions after it. -/
def Pattern.renderAlone (config : Config) (keyword : String) (pattern : Pattern) :
    RenderM String := do
  let text ← pattern.render config []
  let filters ← pattern.renderFilters config
  return keyword ++ " " ++ text ++ whereText filters

end GraphQuery
