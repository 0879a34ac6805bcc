import GraphQuery.Query.Pattern
import GraphQuery.Query.Placeholder
import GraphQuery.Query.Scope

namespace GraphQuery

/-- The operand of a comparison. A comparison with the absent value would never hold, and is
    refused. -/
def Operand.render (config : Config) (reference : Reference) (comparison : Comparison) :
    Operand → RenderM String
  | .value .null =>
    RenderM.fail "predicate" (.neverMatches reference.display comparison.symbol)
  | .value v => Scope.bindAnonymous config v
  | .reference other => other.render
  | .parameter name => Name.callerPlaceholder config "predicate" name

namespace Predicate

/-- A test whether a column is among the values of a list. -/
def renderIsIn (config : Config) (reference : Reference) (values : Value) : RenderM String := do
  if values.asList?.isNone then
    RenderM.fail "predicate" (.notAList reference.display values)
  let text ← reference.render
  return text ++ " IN " ++ (← Scope.bindAnonymous config values)

/-- A test of a column against a string, which has to be a regular expression where the test asks
    for one. -/
def renderStringMatch (config : Config) (reference : Reference) (kind : StringMatch)
    (value : Value) : RenderM String := do
  match value.asString? with
  | none => RenderM.fail "predicate" (.notAString reference.display kind.operator value)
  | some pattern =>
    if kind = .regex ∧ !config.acceptsRegex pattern then
      RenderM.fail "predicate" (.invalidRegex pattern)
    let text ← reference.render
    return text ++ " " ++ kind.operator ++ " " ++ (← Scope.bindAnonymous config value)

/-- Checks the names under which the caller supplies values for a condition of its own. -/
def checkSupplied (config : Config) (bindings : Bindings) : Except QueryError Unit :=
  bindings.table.names.forM fun name => do
    discard <| Name.callerPlaceholder config "predicate" name

/-- A condition in the caller's own words, with values for all placeholders in it. -/
def renderCustom (config : Config) (text : String) (bindings : Bindings) : RenderM String := do
  if Text.isBlank text then RenderM.fail "predicate" (.emptyText "custom")
  checkSupplied config bindings
  match (Placeholder.names text.toList).find? fun name => !bindings.contains name with
  | some name => RenderM.fail "predicate" (.unboundPlaceholder name)
  | none =>
    Scope.absorb bindings
    return "(" ++ text ++ ")"

end Predicate

/-- Binds a value that is an inline property: to the name of its alias and column if there is an
    alias, and to an anonymous name otherwise. -/
def bindInline (config : Config) (aliasName column : String) (value : Value) : RenderM String :=
  if aliasName.isEmpty then Scope.bindAnonymous config value
  else Scope.bindSemantic aliasName column value

/-- An inline property. The value is written before the name of the column is. -/
def renderInline (column : String) (value : RenderM String) : RenderM String := do
  let value ← value
  let column ← Name.write "pattern" column
  return column ++ ": " ++ value

/-- Inline properties that are all values. -/
def renderPairs (config : Config) (head : Head) (pairs : List (String × Value)) :
    RenderM (List String) :=
  pairs.mapM fun (name, value) =>
    let column := head.columnFor name
    renderInline column (bindInline config head.aliasName column value)

/-- Inline properties between their braces, and nothing without properties. -/
def inlineText (properties : List String) : String :=
  if properties.isEmpty then "" else " \x7b" ++ Text.commaJoin properties ++ "\x7d"

/-- The name under which an item is given out, if it has one. -/
def ReturnItem.nameText : Option String → Except QueryError String
  | none => .ok ""
  | some name => do
    Name.checkAlias "projection" name
    return " AS " ++ name

/-- The new value of a target, whose text is known. -/
def Update.render (config : Config) (target : String) (reference : Reference) :
    Update → RenderM String
  | .value v => Scope.bindAnonymous config v
  | .copy source => source.render
  | .increment delta => do
    if !delta.isNumeric then RenderM.fail "set" (.notNumeric reference.display delta)
    return target ++ " + " ++ (← Scope.bindAnonymous config delta)
  | .decrement delta => do
    if !delta.isNumeric then RenderM.fail "set" (.notNumeric reference.display delta)
    return target ++ " - " ++ (← Scope.bindAnonymous config delta)
  | .append suffix => do
    if suffix.asString?.isNone then RenderM.fail "set" (.notAppendable reference.display suffix)
    return target ++ " + " ++ (← Scope.bindAnonymous config suffix)

/-- An assignment. The target is checked before its new value. -/
def Assignment.render (config : Config) (assignment : Assignment) : RenderM String := do
  let target ← assignment.target.render
  let value ← assignment.update.render config target assignment.target
  return target ++ " = " ++ value

/-- The list that is turned into rows. -/
def UnwindSource.render (config : Config) : UnwindSource → RenderM String
  | .value v => do
    if v.asList?.isNone then RenderM.fail "unwind" (.notUnwindable v)
    Scope.bindAnonymous config v
  | .parameter name => Name.callerPlaceholder config "unwind" name

namespace Pattern

/-- One assignment to a column of a merged pattern. The value is bound before the name of the column
    is written. -/
def renderAssignment (config : Config) (pattern : Pattern) (name : String) (value : Value) :
    RenderM String := do
  let value ← Scope.bindAnonymous config value
  let column ← Name.write "merge" (pattern.columnFor name)
  return pattern.aliasName ++ "." ++ column ++ " = " ++ value

/-- The assignments of one branch of a merge behind its keyword, and nothing without assignments.
    They need the merged pattern to have an alias. -/
def renderBranch (config : Config) (pattern : Pattern) (keyword : String)
    (pairs : List (String × Value)) : RenderM String := do
  if pairs.isEmpty then return ""
  if !Name.isIdentifier pattern.aliasName then RenderM.fail "merge" (.aliasRequired keyword)
  let assignments ← pairs.mapM fun (name, value) => pattern.renderAssignment config name value
  return " " ++ keyword ++ " " ++ Text.commaJoin assignments

end Pattern

namespace SubqueryKind

/-- Writes a query within a query, by a way of writing its clauses. The parameters of the clauses
    are added to those of what is around them. -/
def renderNested (kind : SubqueryKind) (isEmpty : Bool) (yields : List String)
    (inner : RenderM String) : RenderM String := do
  if isEmpty then RenderM.fail "subquery" .emptySubquery
  if !yields.isEmpty && kind != .call then RenderM.fail "subquery" .yieldNotAllowed
  let fragment ← Scope.isolated inner
  Scope.absorb fragment.bindings
  yields.forM fun (column : String) => (Name.checkAlias "subquery" column : RenderM Unit)
  return kind.enclose fragment.text ++ yieldText yields

end SubqueryKind

end GraphQuery
