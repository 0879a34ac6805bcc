import GraphQuery.Proofs.Place

namespace GraphQuery

namespace Template

/-- Text that may be refused. Where it is, nothing stands for it. -/
def checked : Except QueryError String → Template
  | .ok s => [.text s]
  | .error _ => []

/-- Templates one after the other, with a text between any two. -/
def separated (separator : String) : List Template → Template
  | [] => []
  | [template] => template
  | first :: second :: rest => first ++ .text separator :: separated separator (second :: rest)

/-- A template between two texts. -/
def enclosed (left right : String) (template : Template) : Template :=
  .text left :: (template ++ [.text right])

/-- The conjunction of two conditions. -/
def both (first second : Template) : Template :=
  .text "(" :: (first ++ .text ") AND (" :: (second ++ [.text ")"]))

/-- The conjunction of conditions behind its keyword, and nothing without conditions. -/
def whereTemplate : List Template → Template
  | [] => []
  | first :: rest => .text " WHERE " :: rest.foldl both first

/-- The keys to sort by behind their keyword, and nothing without keys. -/
def orderTemplate (keys : List Template) : Template :=
  if keys.isEmpty then [] else .text " ORDER BY " :: separated ", " keys

/-- Inline properties between their braces, and nothing without properties. -/
def inlineTemplate (properties : List Template) : Template :=
  if properties.isEmpty then [] else enclosed " \x7b" "\x7d" (separated ", " properties)

/-- An inline property. -/
def inlineProperty (column : String) (value : Template) : Template :=
  .text (Name.written column ++ ": ") :: value

end Template

open Template

/-- The template of the operand of a comparison. -/
def Operand.template : Operand → Template
  | .value v => [.value v]
  | .reference other => checked other.render
  | .parameter name => [.caller name]

/-- The template of the new value of a target, whose own template is known. -/
def Update.template (target : Template) : Update → Template
  | .value v => [.value v]
  | .copy source => checked source.render
  | .increment delta => target ++ [.text " + ", .value delta]
  | .decrement delta => target ++ [.text " - ", .value delta]
  | .append suffix => target ++ [.text " + ", .value suffix]

/-- The template of an assignment. -/
def Assignment.template (assignment : Assignment) : Template :=
  let target := checked assignment.target.render
  target ++ .text " = " :: assignment.update.template target

/-- The template of the list that is turned into rows. -/
def UnwindSource.template : UnwindSource → Template
  | .value v => [.value v]
  | .parameter name => [.caller name]

/-- The template of what stands between two nodes. -/
def Direction.template (direction : Direction) (inner : Template) : Template :=
  match direction with
  | .outgoing => enclosed "-[" "]->" inner
  | .incoming => enclosed "<-[" "]-" inner
  | .undirected => enclosed "-[" "]-" inner

/-- The template of a query within a query, by that of its clauses. -/
def SubqueryKind.template (kind : SubqueryKind) (yields : List String) (inner : Template) :
    Template :=
  (match kind with
    | .scalar => enclosed "(" ")" inner
    | .list => enclosed "[" "]" inner
    | .exists => enclosed "EXISTS \x7b " " \x7d" inner
    | .count => enclosed "COUNT \x7b " " \x7d" inner
    | .call => enclosed "CALL \x7b " " \x7d" inner) ++ [.text (yieldText yields)]

/-- The templates of inline properties that are all values. -/
def pairTemplates (head : Head) (pairs : List (String × Value)) : List Template :=
  pairs.map fun (name, v) =>
    let column := head.columnFor name
    inlineProperty column (inlineValue head.aliasName column v)

/-- The template of the assignments of one branch of a merge. -/
def Pattern.branchTemplate (pattern : Pattern) (keyword : String)
    (pairs : List (String × Value)) : Template :=
  if pairs.isEmpty then []
  else .text (" " ++ keyword ++ " ") :: separated ", " (pairs.map fun (name, v) =>
    [.text (pattern.aliasName ++ "." ++ Name.written (pattern.columnFor name) ++ " = "), .value v])

/-- The template of the call that searches an index: the number of results is its only
    parameter. -/
def VectorSearch.callTemplate (config : Config) (search : VectorSearch) : Template :=
  let index := search.index.getD (config.indexName search.schema.name search.column)
  .text ("CALL " ++ config.vectorProcedure ++ "(" ++ Text.quoted search.schema.name ++ ", " ++
      Text.quoted index ++ ", ") ::
    (checked (vectorText VectorSearch.component search.vector) ++
      [.text ", ", .value search.countValue,
        .text (") WITH node AS " ++ search.aliasName ++ ", " ++ VectorSearch.distanceColumn)])

/-- The template of the columns that a search gives out, and their order. -/
def VectorSearch.tailTemplate (search : VectorSearch) (keys : List Template) : Template :=
  .text ((if search.isPipelined then " WITH " else " RETURN ") ++ search.aliasName ++ ", " ++
      VectorSearch.distanceColumn) ::
    orderTemplate (if keys.isEmpty then [[.text (VectorSearch.distanceColumn ++ " ASC")]] else keys)

mutual

/-- The template of an expression. -/
def Expr.template (config : Config) : Expr → Template
  | .named name => [.text name]
  | .property reference => checked reference.render
  | .value v => [.value v]
  | .parameter name => [.caller name]
  | .function name arguments =>
    .text name :: enclosed "(" ")" (separated ", " (exprTemplates config arguments))
  | .aggregate aggregate argument isDistinct =>
    .text (aggregate.name ++ "(" ++ if isDistinct then "DISTINCT " else "") ::
      (argumentTemplate config argument ++ [.text ")"])
  | .subquery kind clauses yields =>
    kind.template yields (separated " " (clauseTemplates config clauses))
  | .raw text => [.verbatim text .empty]

/-- The templates of expressions. -/
def exprTemplates (config : Config) : List Expr → List Template
  | [] => []
  | expr :: exprs => expr.template config :: exprTemplates config exprs

/-- The template of the argument of an aggregate. -/
def argumentTemplate (config : Config) : Option Expr → Template
  | none => [.text "*"]
  | some expr => expr.template config

/-- The template of a condition. -/
def Predicate.template (config : Config) : Predicate → Template
  | .compare reference comparison operand =>
    checked reference.render ++ .text (" " ++ comparison.symbol ++ " ") :: operand.template
  | .and first second => both (first.template config) (second.template config)
  | .or first second =>
    .text "(" :: (first.template config ++ .text ") OR (" :: (second.template config ++
      [.text ")"]))
  | .not inner => enclosed "NOT (" ")" (inner.template config)
  | .isNull reference => checked reference.render ++ [.text " IS NULL"]
  | .isNotNull reference => checked reference.render ++ [.text " IS NOT NULL"]
  | .isIn reference values => checked reference.render ++ [.text " IN ", .value values]
  | .stringMatch reference kind value =>
    checked reference.render ++ [.text (" " ++ kind.operator ++ " "), .value value]
  | .existsPattern pattern =>
    SubqueryKind.exists.template [] <| .text "MATCH " ::
      (pattern.template config [] ++ whereTemplate (pattern.filterTemplates config))
  | .existsQuery clauses =>
    SubqueryKind.exists.template [] (separated " " (clauseTemplates config clauses))
  | .literal value => [.text (if value then "true" else "false")]
  | .custom text bindings => enclosed "(" ")" [.verbatim text bindings]

/-- The template of the condition of a clause or a pattern, if it has one. -/
def filterTemplates (config : Config) : Option Predicate → List Template
  | none => []
  | some predicate => [predicate.template config]

/-- The templates of the inline properties of a node or an edge. -/
def propertyTemplates (config : Config) (head : Head) : List (String × Expr) → List Template
  | [] => []
  | (name, expr) :: properties =>
    let column := head.columnFor name
    inlineProperty column (match expr.value? with
      | some v => inlineValue head.aliasName column v
      | none => expr.template config) :: propertyTemplates config head properties

/-- The template of a node. -/
def NodePattern.template (config : Config) (further : List (String × Value)) :
    NodePattern → Template
  | .mk head properties _ =>
    enclosed "(" ")" (checked head.render ++
      inlineTemplate (propertyTemplates config head properties ++ pairTemplates head further))

/-- The template of the condition that is attached to a node. -/
def NodePattern.filterTemplates (config : Config) : NodePattern → List Template
  | .mk _ _ filter => GraphQuery.filterTemplates config filter

/-- The template of a pattern without the conditions attached to it. -/
def Pattern.template (config : Config) (further : List (String × Value)) : Pattern → Template
  | .node node => node.template config further
  | .edge source head direction properties _ target =>
    source.template config [] ++ (direction.template (checked head.render ++
      inlineTemplate (propertyTemplates config head properties ++ pairTemplates head further)) ++
      target.template config [])
  | .path aliasName source label direction hops target =>
    (if aliasName.isEmpty then [] else [.text (aliasName ++ " = ")]) ++
      (source.template config [] ++ (direction.template (checked (Head.labelText label) ++
        checked hops.render) ++ target.template config []))

/-- The templates of the conditions that are attached anywhere in a pattern. -/
def Pattern.filterTemplates (config : Config) : Pattern → List Template
  | .node node => node.filterTemplates config
  | .edge source _ _ _ filter target =>
    source.filterTemplates config ++ GraphQuery.filterTemplates config filter ++
      target.filterTemplates config
  | .path _ source _ _ _ target =>
    source.filterTemplates config ++ target.filterTemplates config

/-- The templates of patterns. -/
def patternTemplates (config : Config) : List Pattern → List Template
  | [] => []
  | pattern :: patterns => pattern.template config [] :: patternTemplates config patterns

/-- The templates of the conditions that are attached anywhere in patterns. -/
def allFilterTemplates (config : Config) : List Pattern → List Template
  | [] => []
  | pattern :: patterns => pattern.filterTemplates config ++ allFilterTemplates config patterns

/-- The templates of the items of a projection. -/
def itemTemplates (config : Config) : List ReturnItem → List Template
  | [] => []
  | .mk expr name :: items =>
    (expr.template config ++ checked (ReturnItem.nameText name)) :: itemTemplates config items

/-- The templates of the keys to sort by. -/
def keyTemplates (config : Config) : List OrderKey → List Template
  | [] => []
  | .mk expr isDescending :: keys =>
    (expr.template config ++ [.text (if isDescending then " DESC" else " ASC")]) ::
      keyTemplates config keys

/-- The template of a projection behind its keyword. -/
def Projection.template (config : Config) (keyword : String) : Projection → Template
  | .mk items isDistinct order skip limit =>
    .text (keyword ++ if isDistinct then " DISTINCT " else " ") ::
      (separated ", " (itemTemplates config items) ++ (orderTemplate (keyTemplates config order) ++
        [.text ((match skip with
            | none => ""
            | some count => " SKIP " ++ toString count) ++
          (match limit with
            | none => ""
            | some count => " LIMIT " ++ toString count))]))

/-- The templates of the options of a call. -/
def optionTemplates (config : Config) : List (String × Expr) → List Template
  | [] => []
  | (name, expr) :: options =>
    (.text (name ++ " := ") :: expr.template config) :: optionTemplates config options

/-- The template of a clause. Conditions attached to what is created or merged are refused, so that
    their place at the end stays empty. -/
def Clause.template (config : Config) : Clause → Template
  | .matching isOptional patterns filter =>
    .text (if isOptional then "OPTIONAL MATCH " else "MATCH ") ::
      (separated ", " (patternTemplates config patterns) ++
        whereTemplate (allFilterTemplates config patterns ++ filterTemplates config filter))
  | .create patterns =>
    .text "CREATE " :: (separated ", " (patternTemplates config patterns) ++
      whereTemplate (allFilterTemplates config patterns))
  | .merge pattern matchOn onCreate onMatch =>
    .text "MERGE " :: (pattern.template config matchOn ++
      (pattern.branchTemplate "ON CREATE SET" onCreate ++
        (pattern.branchTemplate "ON MATCH SET" onMatch ++
          whereTemplate (pattern.filterTemplates config))))
  | .set assignments => .text "SET " :: separated ", " (assignments.map Assignment.template)
  | .delete isDetach aliases =>
    [.text ((if isDetach then "DETACH DELETE " else "DELETE ") ++ Text.commaJoin aliases)]
  | .filter predicate => .text "WHERE " :: predicate.template config
  | .returning projection => projection.template config "RETURN"
  | .passing projection filter =>
    projection.template config "WITH" ++ whereTemplate (filterTemplates config filter)
  | .unwind source aliasName =>
    .text "UNWIND " :: (source.template ++ [.text (" AS " ++ aliasName)])
  | .call procedure arguments options yields filter =>
    .text ("CALL " ++ procedure ++ "(") ::
      (separated ", " (exprTemplates config arguments ++ optionTemplates config options) ++
        .text (")" ++ yieldText yields) :: whereTemplate (filterTemplates config filter))
  | .subquery kind clauses yields =>
    kind.template yields (separated " " (clauseTemplates config clauses))
  | .vectorSearch search filter order =>
    search.callTemplate config ++ (whereTemplate (filterTemplates config filter) ++
      search.tailTemplate (keyTemplates config order))

/-- The templates of clauses. -/
def clauseTemplates (config : Config) : List Clause → List Template
  | [] => []
  | clause :: clauses => clause.template config :: clauseTemplates config clauses

end

/-- The template of a query. -/
def Query.template (config : Config) (query : Query) : Template :=
  separated " " (clauseTemplates config query)

end GraphQuery
