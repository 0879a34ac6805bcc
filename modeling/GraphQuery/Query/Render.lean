import GraphQuery.Query.Leaf
import GraphQuery.Query.VectorSearch

namespace GraphQuery

mutual

/-- Checks a clause before any text is written: a search, and the clauses of a nested query. -/
def Clause.validate : Clause → Except QueryError Unit
  | .subquery _ clauses _ => validateAll clauses
  | .vectorSearch search _ _ => search.validate
  | _ => .ok ()

/-- Checks clauses in order. -/
def validateAll : List Clause → Except QueryError Unit
  | [] => .ok ()
  | clause :: clauses => do
    clause.validate
    validateAll clauses

end

/-- The value that an expression is, if it is one. -/
def Expr.value? : Expr → Option Value
  | .value v => some v
  | _ => none

mutual

/-- Writes an expression. -/
def Expr.render (config : Config) : Expr → RenderM String
  | .named name => do
    Name.checkAlias "expression" name
    return name
  | .property reference => reference.render
  | .value v => Scope.bindAnonymous config v
  | .parameter name => Name.callerPlaceholder config "expression" name
  | .function name arguments => do
    Name.checkProcedure "function" name
    return name ++ "(" ++ Text.commaJoin (← renderExprs config arguments) ++ ")"
  | .aggregate aggregate argument isDistinct => do
    let inner ← match ← renderArgument config argument with
      | some text => pure text
      | none =>
        if aggregate = .count then pure "*"
        else RenderM.fail "aggregate" (.missingArgument aggregate.name)
    return aggregate.name ++ "(" ++ (if isDistinct then "DISTINCT " else "") ++ inner ++ ")"
  | .subquery kind clauses yields =>
    kind.renderNested clauses.isEmpty yields do
      validateAll clauses
      renderFrom config false 0 "" clauses
  | .raw text => do
    if Text.isBlank text then RenderM.fail "expression" (.emptyText "raw")
    return text

/-- Writes expressions in order. -/
def renderExprs (config : Config) : List Expr → RenderM (List String)
  | [] => return []
  | expr :: exprs => do
    let text ← expr.render config
    return text :: (← renderExprs config exprs)

/-- Writes the argument of an aggregate, if it has one. -/
def renderArgument (config : Config) : Option Expr → RenderM (Option String)
  | none => return none
  | some expr => return some (← expr.render config)

/-- Writes a condition. -/
def Predicate.render (config : Config) : Predicate → RenderM String
  | .compare reference comparison operand => do
    let left ← reference.render
    let right ← operand.render config reference comparison
    return left ++ " " ++ comparison.symbol ++ " " ++ right
  | .and first second => do
    let first ← first.render config
    let second ← second.render config
    return "(" ++ first ++ ") AND (" ++ second ++ ")"
  | .or first second => do
    let first ← first.render config
    let second ← second.render config
    return "(" ++ first ++ ") OR (" ++ second ++ ")"
  | .not inner => return "NOT (" ++ (← inner.render config) ++ ")"
  | .isNull reference => return (← reference.render) ++ " IS NULL"
  | .isNotNull reference => return (← reference.render) ++ " IS NOT NULL"
  | .isIn reference values => Predicate.renderIsIn config reference values
  | .stringMatch reference kind value => Predicate.renderStringMatch config reference kind value
  | .existsPattern pattern => do
    let fragment ← Scope.isolated do
      let text ← pattern.render config []
      let filters ← pattern.renderFilters config
      return "MATCH " ++ text ++ whereText filters
    Scope.absorb fragment.bindings
    return SubqueryKind.exists.enclose fragment.text
  | .existsQuery clauses =>
    SubqueryKind.exists.renderNested clauses.isEmpty [] do
      validateAll clauses
      renderFrom config false 0 "" clauses
  | .literal value => return if value then "true" else "false"
  | .custom text bindings => Predicate.renderCustom config text bindings

/-- Writes the condition of a clause or a pattern, if it has one. -/
def renderFilter (config : Config) : Option Predicate → RenderM (List String)
  | none => return []
  | some predicate => return [← predicate.render config]

/-- Writes the inline properties of a node or an edge. -/
def renderProperties (config : Config) (head : Head) :
    List (String × Expr) → RenderM (List String)
  | [] => return []
  | (name, expr) :: properties => do
    let column := head.columnFor name
    let text ← renderInline column <| match expr.value? with
      | some v => bindInline config head.aliasName column v
      | none => expr.render config
    return text :: (← renderProperties config head properties)

/-- Writes a node, with further properties behind its own. -/
def NodePattern.render (config : Config) (further : List (String × Value)) :
    NodePattern → RenderM String
  | .mk head properties _ => do
    let text ← head.render
    let own ← renderProperties config head properties
    let further ← renderPairs config head further
    return "(" ++ text ++ inlineText (own ++ further) ++ ")"

/-- Writes the condition that is attached to a node. -/
def NodePattern.renderFilters (config : Config) : NodePattern → RenderM (List String)
  | .mk _ _ filter => renderFilter config filter

/-- Writes a pattern, with further properties behind those of its node or edge. -/
def Pattern.render (config : Config) (further : List (String × Value)) : Pattern → RenderM String
  | .node node => node.render config further
  | .edge source head direction properties _ target => do
    let source ← source.render config []
    let text ← head.render
    let own ← renderProperties config head properties
    let further ← renderPairs config head further
    let target ← target.render config []
    return source ++ direction.arrow (text ++ inlineText (own ++ further)) ++ target
  | .path aliasName source label direction hops target => do
    let range ← hops.render
    let source ← source.render config []
    let label ← Head.labelText label
    let target ← target.render config []
    let body := source ++ direction.arrow (label ++ range) ++ target
    if aliasName.isEmpty then return body
    else
      Name.checkAlias "path pattern" aliasName
      return aliasName ++ " = " ++ body

/-- Writes the conditions that are attached anywhere in a pattern. -/
def Pattern.renderFilters (config : Config) : Pattern → RenderM (List String)
  | .node node => node.renderFilters config
  | .edge source _ _ _ filter target => do
    let source ← source.renderFilters config
    let own ← renderFilter config filter
    return source ++ own ++ (← target.renderFilters config)
  | .path _ source _ _ _ target => do
    let source ← source.renderFilters config
    return source ++ (← target.renderFilters config)

/-- Writes the patterns of a match. -/
def renderPatterns (config : Config) : List Pattern → RenderM (List String)
  | [] => return []
  | pattern :: patterns => do
    let text ← pattern.render config []
    return text :: (← renderPatterns config patterns)

/-- Writes the conditions that are attached anywhere in the patterns of a match. -/
def renderAllFilters (config : Config) : List Pattern → RenderM (List String)
  | [] => return []
  | pattern :: patterns => do
    let texts ← pattern.renderFilters config
    return texts ++ (← renderAllFilters config patterns)

/-- Writes the patterns that are created. Each is checked right before it is written. -/
def renderCreated (config : Config) : List Pattern → RenderM (List String)
  | [] => return []
  | pattern :: patterns => do
    pattern.checkCreate
    let text ← pattern.render config []
    return text :: (← renderCreated config patterns)

/-- Writes the items of a projection. -/
def renderItems (config : Config) : List ReturnItem → RenderM (List String)
  | [] => return []
  | .mk expr name :: items => do
    let text ← expr.render config
    let naming ← ReturnItem.nameText name
    return (text ++ naming) :: (← renderItems config items)

/-- Writes the keys to sort by. -/
def renderKeys (config : Config) : List OrderKey → RenderM (List String)
  | [] => return []
  | .mk expr isDescending :: keys => do
    let text ← expr.render config
    return (text ++ if isDescending then " DESC" else " ASC") :: (← renderKeys config keys)

/-- Writes a projection behind its keyword. -/
def Projection.render (config : Config) (keyword : String) : Projection → RenderM String
  | .mk items isDistinct order skip limit => do
    if items.isEmpty then RenderM.fail "projection" (.noItem keyword)
    let items ← renderItems config items
    let keys ← renderKeys config order
    return keyword ++ (if isDistinct then " DISTINCT " else " ") ++ Text.commaJoin items ++
      orderText keys ++
      (match skip with
        | none => ""
        | some count => " SKIP " ++ toString count) ++
      (match limit with
        | none => ""
        | some count => " LIMIT " ++ toString count)

/-- Writes the options of a call. -/
def renderOptions (config : Config) : List (String × Expr) → RenderM (List String)
  | [] => return []
  | (name, expr) :: options => do
    if !Name.isIdentifier name then RenderM.fail "call" (.invalidOption name)
    let text ← expr.render config
    return (name ++ " := " ++ text) :: (← renderOptions config options)

/-- Writes a clause. -/
def Clause.render (config : Config) : Clause → RenderM String
  | .matching isOptional patterns filter => do
    if patterns.isEmpty then RenderM.fail "match" .noPattern
    let texts ← renderPatterns config patterns
    let attached ← renderAllFilters config patterns
    let own ← renderFilter config filter
    return (if isOptional then "OPTIONAL MATCH " else "MATCH ") ++ Text.commaJoin texts ++
      whereText (attached ++ own)
  | .create patterns => do
    if patterns.isEmpty then RenderM.fail "create" .noPattern
    return "CREATE " ++ Text.commaJoin (← renderCreated config patterns)
  | .merge pattern matchOn onCreate onMatch => do
    pattern.checkMerge
    let text ← pattern.render config matchOn
    let created ← pattern.renderBranch config "ON CREATE SET" onCreate
    let matched ← pattern.renderBranch config "ON MATCH SET" onMatch
    return "MERGE " ++ text ++ created ++ matched
  | .set assignments => do
    if assignments.isEmpty then RenderM.fail "set" .noAssignment
    return "SET " ++ Text.commaJoin (← assignments.mapM (Assignment.render config))
  | .delete isDetach aliases => do
    if aliases.isEmpty then RenderM.fail "delete" .noAlias
    aliases.forM fun (name : String) => (Name.checkAlias "delete" name : RenderM Unit)
    return (if isDetach then "DETACH DELETE " else "DELETE ") ++ Text.commaJoin aliases
  | .filter predicate => return "WHERE " ++ (← predicate.render config)
  | .returning projection => projection.render config "RETURN"
  | .passing projection filter => do
    let text ← projection.render config "WITH"
    return text ++ whereText (← renderFilter config filter)
  | .unwind source aliasName => do
    Name.checkAlias "unwind" aliasName
    let source ← source.render config
    return "UNWIND " ++ source ++ " AS " ++ aliasName
  | .call procedure arguments options yields filter => do
    Name.checkProcedure "call" procedure
    let positional ← renderExprs config arguments
    let named ← renderOptions config options
    yields.forM fun (column : String) => (Name.checkAlias "call" column : RenderM Unit)
    if filter.isSome && yields.isEmpty then RenderM.fail "call" .filterWithoutYield
    let conditions ← renderFilter config filter
    return "CALL " ++ procedure ++ "(" ++ Text.commaJoin (positional ++ named) ++ ")" ++
      yieldText yields ++ whereText conditions
  | .subquery kind clauses yields => do
    if kind != .call then RenderM.fail "subquery" .notACallBlock
    kind.renderNested clauses.isEmpty yields do
      validateAll clauses
      renderFrom config false 0 "" clauses
  | .vectorSearch search filter order => do
    let call ← search.renderCall config
    let conditions ← renderFilter config filter
    let keys ← renderKeys config order
    return call ++ whereText conditions ++ search.tail keys

/-- Writes the clauses that follow those of a text. At the top level an error is given the position
    of its clause, counted from `position`. -/
def renderFrom (config : Config) (isTop : Bool) (position : Nat) (text : String) :
    List Clause → RenderM String
  | [] => return text
  | clause :: clauses => do
    let next ← RenderM.located isTop position do
      let fragment ← Scope.isolated (clause.render config)
      Scope.absorb fragment.bindings
      return fragment.text
    renderFrom config isTop (position + 1) (Fragment.joinTexts text next) clauses

end

end GraphQuery
