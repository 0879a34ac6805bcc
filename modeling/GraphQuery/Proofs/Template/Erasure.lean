import GraphQuery.Proofs.Erasure
import GraphQuery.Proofs.Template.Query

namespace GraphQuery

/-- A piece without its values. -/
@[simp]
def Piece.erased : Piece → Piece
  | text s => text s
  | value _ => value .null
  | shared aliasName column _ => shared aliasName column .null
  | caller name => caller name
  | verbatim s bindings => verbatim s bindings.erased

namespace Template

variable {stem : String}

/-- A template without its values. -/
def erased (template : Template) : Template :=
  template.map Piece.erased

@[simp]
theorem erased_nil : erased [] = [] :=
  rfl

@[simp]
theorem erased_cons (piece : Piece) (template : Template) :
    erased (piece :: template) = piece.erased :: erased template :=
  rfl

@[simp]
theorem erased_append (first second : Template) :
    erased (first ++ second) = erased first ++ erased second :=
  List.map_append

@[simp]
theorem erased_checked (text : Except QueryError String) :
    erased (checked text) = checked text := by
  cases text <;> rfl

@[simp]
theorem erased_separated (separator : String) (templates : List Template) :
    erased (separated separator templates) = separated separator (templates.map erased) := by
  induction templates with
  | nil => rfl
  | cons first rest ih =>
    cases rest with
    | nil => rfl
    | cons second rest =>
      rw [separated, erased_append, erased_cons, ih]
      rfl

@[simp]
theorem erased_enclosed (left right : String) (template : Template) :
    erased (enclosed left right template) = enclosed left right (erased template) := by
  simp [enclosed]

@[simp]
theorem erased_both (first second : Template) :
    erased (both first second) = both (erased first) (erased second) := by
  simp [both]

@[simp]
theorem erased_whereTemplate (templates : List Template) :
    erased (whereTemplate templates) = whereTemplate (templates.map erased) := by
  have hfold : ∀ (rest : List Template) (first : Template),
      erased (rest.foldl both first) = (rest.map erased).foldl both (erased first) := by
    intro rest
    induction rest with
    | nil => exact fun _ => rfl
    | cons next rest ih =>
      intro first
      rw [List.foldl_cons, ih, erased_both, List.map_cons, List.foldl_cons]
  cases templates with
  | nil => rfl
  | cons first rest => exact congrArg (Piece.text " WHERE " :: ·) (hfold rest first)

@[simp]
theorem erased_orderTemplate (keys : List Template) :
    erased (orderTemplate keys) = orderTemplate (keys.map erased) := by
  cases keys with
  | nil => rfl
  | cons first rest => exact congrArg (Piece.text " ORDER BY " :: ·) (erased_separated _ _)

@[simp]
theorem erased_inlineTemplate (properties : List Template) :
    erased (inlineTemplate properties) = inlineTemplate (properties.map erased) := by
  cases properties with
  | nil => rfl
  | cons first rest =>
    change erased (enclosed _ _ (separated ", " (first :: rest))) = _
    rw [erased_enclosed, erased_separated]
    rfl

@[simp]
theorem erased_inlineValue (aliasName column : String) (v : Value) :
    erased (inlineValue aliasName column v) = inlineValue aliasName column .null := by
  unfold inlineValue
  split <;> rfl

@[simp]
theorem erased_inlineProperty (column : String) (value : Template) :
    erased (inlineProperty column value) = inlineProperty column (erased value) :=
  rfl

end Template

open Template

@[simp]
theorem Operand.erased_template (operand : Operand) :
    operand.erased.template.erased = operand.template.erased := by
  cases operand <;> rfl

@[simp]
theorem Assignment.erased_template (assignment : Assignment) :
    assignment.erased.template.erased = assignment.template.erased := by
  obtain ⟨target, update⟩ := assignment
  cases update <;> simp [Assignment.erased, Update.erased, Assignment.template, Update.template]

@[simp]
theorem UnwindSource.erased_template (source : UnwindSource) :
    source.erased.template.erased = source.template.erased := by
  cases source <;> rfl

@[simp]
theorem Direction.erased_template (direction : Direction) (inner : Template) :
    (direction.template inner).erased = direction.template inner.erased := by
  cases direction <;> exact erased_enclosed _ _ _

@[simp]
theorem SubqueryKind.erased_template (kind : SubqueryKind) (yields : List String)
    (inner : Template) :
    (kind.template yields inner).erased = kind.template yields inner.erased := by
  cases kind <;> simp [SubqueryKind.template]

@[simp]
theorem erased_pairTemplates (head : Head) (pairs : List (String × Value)) :
    (pairTemplates head (erasedPairs pairs)).map Template.erased =
      (pairTemplates head pairs).map Template.erased := by
  simp [pairTemplates, erasedPairs, Function.comp_def]

@[simp]
theorem Pattern.erased_branchTemplate (pattern : Pattern) (keyword : String)
    (pairs : List (String × Value)) :
    (pattern.branchTemplate keyword (erasedPairs pairs)).erased =
      (pattern.branchTemplate keyword pairs).erased := by
  cases pairs with
  | nil => rfl
  | cons pair pairs =>
    simp [branchTemplate, erasedPairs, Function.comp_def]

@[simp]
theorem VectorSearch.erased_callTemplate (config : Config) (search : VectorSearch) :
    (search.erased.callTemplate config).erased = (search.callTemplate config).erased := by
  simp [VectorSearch.erased, callTemplate, VectorSearch.column]

theorem VectorSearch.tailTemplate_erased (search : VectorSearch) :
    search.erased.tailTemplate = search.tailTemplate :=
  rfl

theorem VectorSearch.erased_tailTemplate (search : VectorSearch) (keys : List Template) :
    (search.tailTemplate keys).erased = search.tailTemplate (keys.map Template.erased) := by
  cases keys with
  | nil => rfl
  | cons first rest =>
    simp [tailTemplate]

theorem Expr.value?_erased (expr : Expr) :
    expr.erased.value? = expr.value?.map fun _ => .null := by
  cases expr <;> simp [Expr.erased, Expr.value?]

theorem Pattern.branchTemplate_erased (pattern : Pattern) :
    pattern.erased.branchTemplate = pattern.branchTemplate := by
  have hhead : ∀ node : NodePattern, node.erased.head = node.head := by
    rintro ⟨head, properties, filter⟩
    simp [NodePattern.erased, NodePattern.head]
  have halias : pattern.erased.aliasName = pattern.aliasName := by
    cases pattern <;> simp [Pattern.erased, Pattern.aliasName, hhead]
  have hschema : pattern.erased.schema? = pattern.schema? := by
    cases pattern <;> simp [Pattern.erased, Pattern.schema?, hhead]
  funext keyword pairs
  simp only [branchTemplate, columnFor, halias, hschema]

variable {config : Config}

mutual

/-- What is written for an expression does not depend on its values. -/
theorem Expr.template_erased :
    (expr : Expr) → (expr.erased.template config).erased = (expr.template config).erased
  | .named _ => by simp [Expr.erased]
  | .property _ => by simp [Expr.erased]
  | .value _ => by simp [Expr.erased, Expr.template]
  | .parameter _ => by simp [Expr.erased]
  | .function name arguments => by
    simp [Expr.erased, Expr.template, exprTemplates_erased arguments]
  | .aggregate aggregate argument isDistinct => by
    simp [Expr.erased, Expr.template, argumentTemplate_erased argument]
  | .subquery kind clauses yields => by
    simp [Expr.erased, Expr.template, clauseTemplates_erased clauses]
  | .raw _ => by simp [Expr.erased]

theorem exprTemplates_erased : (exprs : List Expr) →
    (exprTemplates config (erasedExprs exprs)).map Template.erased =
      (exprTemplates config exprs).map Template.erased
  | [] => by simp [erasedExprs]
  | expr :: exprs => by
    simp [erasedExprs, exprTemplates, expr.template_erased, exprTemplates_erased exprs]

theorem argumentTemplate_erased : (argument : Option Expr) →
    (argumentTemplate config (erasedArgument argument)).erased =
      (argumentTemplate config argument).erased
  | none => by simp [erasedArgument]
  | some expr => by simp [erasedArgument, argumentTemplate, expr.template_erased]

theorem Predicate.template_erased : (predicate : Predicate) →
    (predicate.erased.template config).erased = (predicate.template config).erased
  | .compare reference comparison operand => by
    simp [Predicate.erased, Predicate.template]
  | .and first second => by
    simp [Predicate.erased, Predicate.template, first.template_erased, second.template_erased]
  | .or first second => by
    simp [Predicate.erased, Predicate.template, first.template_erased, second.template_erased]
  | .not inner => by simp [Predicate.erased, Predicate.template, inner.template_erased]
  | .isNull _ => by simp [Predicate.erased]
  | .isNotNull _ => by simp [Predicate.erased]
  | .isIn reference values => by simp [Predicate.erased, Predicate.template]
  | .stringMatch reference kind value => by
    simp [Predicate.erased, Predicate.template]
  | .existsPattern pattern => by
    have hpattern := pattern.template_erased []
    rw [erasedPairs_nil] at hpattern
    simp [Predicate.erased, Predicate.template, hpattern, pattern.filterTemplates_erased]
  | .existsQuery clauses => by
    simp [Predicate.erased, Predicate.template, clauseTemplates_erased clauses]
  | .literal _ => by simp [Predicate.erased]
  | .custom text bindings => by
    simp [Predicate.erased, Predicate.template, bindings.erased_erased]

theorem filterTemplates_erased : (filter : Option Predicate) →
    (filterTemplates config (erasedFilter filter)).map Template.erased =
      (filterTemplates config filter).map Template.erased
  | none => by simp [erasedFilter]
  | some predicate => by simp [erasedFilter, filterTemplates, predicate.template_erased]

/-- An inline property that is a value stays one without its value. -/
theorem propertyTemplates_erased (head : Head) : (properties : List (String × Expr)) →
    (propertyTemplates config head (erasedProperties properties)).map Template.erased =
      (propertyTemplates config head properties).map Template.erased
  | [] => by simp [erasedProperties]
  | (name, expr) :: properties => by
    have hrest := propertyTemplates_erased head properties
    have hexpr := expr.template_erased
    simp only [erasedProperties, propertyTemplates, expr.value?_erased, List.map_cons, hrest]
    cases expr.value? with
    | some v => simp
    | none => simp [hexpr]

theorem NodePattern.template_erased (further : List (String × Value)) : (node : NodePattern) →
    (node.erased.template config (erasedPairs further)).erased =
      (node.template config further).erased
  | .mk head properties filter => by
    simp [NodePattern.erased, NodePattern.template, propertyTemplates_erased head properties]

theorem NodePattern.filterTemplates_erased : (node : NodePattern) →
    (node.erased.filterTemplates config).map Template.erased =
      (node.filterTemplates config).map Template.erased
  | .mk head properties filter => by
    simp [NodePattern.erased, NodePattern.filterTemplates, filterTemplates_erased filter]

theorem Pattern.template_erased (further : List (String × Value)) : (pattern : Pattern) →
    (pattern.erased.template config (erasedPairs further)).erased =
      (pattern.template config further).erased
  | .node node => by simp [Pattern.erased, Pattern.template, node.template_erased further]
  | .edge source head direction properties filter target => by
    have hsource := source.template_erased []
    have htarget := target.template_erased []
    rw [erasedPairs_nil] at hsource htarget
    simp [Pattern.erased, Pattern.template, hsource, htarget,
      propertyTemplates_erased head properties]
  | .path aliasName source label direction hops target => by
    have hsource := source.template_erased []
    have htarget := target.template_erased []
    rw [erasedPairs_nil] at hsource htarget
    simp [Pattern.erased, Pattern.template, hsource, htarget]

theorem Pattern.filterTemplates_erased : (pattern : Pattern) →
    (pattern.erased.filterTemplates config).map Template.erased =
      (pattern.filterTemplates config).map Template.erased
  | .node node => by
    simp [Pattern.erased, Pattern.filterTemplates, node.filterTemplates_erased]
  | .edge source head direction properties filter target => by
    simp [Pattern.erased, Pattern.filterTemplates, source.filterTemplates_erased,
      filterTemplates_erased filter, target.filterTemplates_erased]
  | .path aliasName source label direction hops target => by
    simp [Pattern.erased, Pattern.filterTemplates, source.filterTemplates_erased,
      target.filterTemplates_erased]

theorem patternTemplates_erased : (patterns : List Pattern) →
    (patternTemplates config (erasedPatterns patterns)).map Template.erased =
      (patternTemplates config patterns).map Template.erased
  | [] => by simp [erasedPatterns]
  | pattern :: patterns => by
    have hpattern := pattern.template_erased []
    rw [erasedPairs_nil] at hpattern
    simp [erasedPatterns, patternTemplates, hpattern, patternTemplates_erased patterns]

theorem allFilterTemplates_erased : (patterns : List Pattern) →
    (allFilterTemplates config (erasedPatterns patterns)).map Template.erased =
      (allFilterTemplates config patterns).map Template.erased
  | [] => by simp [erasedPatterns]
  | pattern :: patterns => by
    simp [erasedPatterns, allFilterTemplates, pattern.filterTemplates_erased,
      allFilterTemplates_erased patterns]

theorem itemTemplates_erased : (items : List ReturnItem) →
    (itemTemplates config (erasedItems items)).map Template.erased =
      (itemTemplates config items).map Template.erased
  | [] => by simp [erasedItems]
  | .mk expr name :: items => by
    simp [erasedItems, itemTemplates, expr.template_erased, itemTemplates_erased items]

theorem keyTemplates_erased : (keys : List OrderKey) →
    (keyTemplates config (erasedKeys keys)).map Template.erased =
      (keyTemplates config keys).map Template.erased
  | [] => by simp [erasedKeys]
  | .mk expr isDescending :: keys => by
    simp [erasedKeys, keyTemplates, expr.template_erased, keyTemplates_erased keys]

theorem Projection.template_erased (keyword : String) : (projection : Projection) →
    (projection.erased.template config keyword).erased =
      (projection.template config keyword).erased
  | .mk items isDistinct order skip limit => by
    simp [Projection.erased, Projection.template, itemTemplates_erased items,
      keyTemplates_erased order]

theorem optionTemplates_erased : (options : List (String × Expr)) →
    (optionTemplates config (erasedProperties options)).map Template.erased =
      (optionTemplates config options).map Template.erased
  | [] => by simp [erasedProperties]
  | (name, expr) :: options => by
    simp [erasedProperties, optionTemplates, expr.template_erased, optionTemplates_erased options]

theorem Clause.template_erased : (clause : Clause) →
    (clause.erased.template config).erased = (clause.template config).erased
  | .matching isOptional patterns filter => by
    simp [Clause.erased, Clause.template, patternTemplates_erased patterns,
      allFilterTemplates_erased patterns, filterTemplates_erased filter]
  | .create patterns => by
    simp [Clause.erased, Clause.template, patternTemplates_erased patterns,
      allFilterTemplates_erased patterns]
  | .merge pattern matchOn onCreate onMatch => by
    simp [Clause.erased, Clause.template, pattern.template_erased matchOn,
      pattern.branchTemplate_erased, pattern.filterTemplates_erased]
  | .set assignments => by
    simp [Clause.erased, Clause.template, Function.comp_def]
  | .delete _ _ => by simp [Clause.erased]
  | .filter predicate => by simp [Clause.erased, Clause.template, predicate.template_erased]
  | .returning projection => by
    simp [Clause.erased, Clause.template, projection.template_erased "RETURN"]
  | .passing projection filter => by
    simp [Clause.erased, Clause.template, projection.template_erased "WITH",
      filterTemplates_erased filter]
  | .unwind source aliasName => by simp [Clause.erased, Clause.template]
  | .call procedure arguments options yields filter => by
    simp [Clause.erased, Clause.template, exprTemplates_erased arguments,
      optionTemplates_erased options, filterTemplates_erased filter]
  | .subquery kind clauses yields => by
    simp [Clause.erased, Clause.template, clauseTemplates_erased clauses]
  | .vectorSearch search filter order => by
    simp [Clause.erased, Clause.template, filterTemplates_erased filter,
      keyTemplates_erased order, search.tailTemplate_erased, VectorSearch.erased_tailTemplate]

theorem clauseTemplates_erased : (clauses : List Clause) →
    (clauseTemplates config (erasedClauses clauses)).map Template.erased =
      (clauseTemplates config clauses).map Template.erased
  | [] => by simp [erasedClauses]
  | clause :: clauses => by
    simp [erasedClauses, clauseTemplates, clause.template_erased, clauseTemplates_erased clauses]

end

/-- What is written for a query does not depend on its values. -/
theorem Query.template_erased (query : Query) :
    (query.erased.template config).erased = (query.template config).erased := by
  simp [Query.erased, Query.template, clauseTemplates_erased]

namespace Template

theorem fill_erased (n : Nat) (template : Template) :
    template.erased.fill stem n = template.fill stem n := by
  induction template generalizing n with
  | nil => rfl
  | cons piece template ih =>
    rw [erased_cons, fill_cons, ih, fill_cons]
    cases piece <;> rfl

theorem names_entries_erased (n : Nat) (template : Template) :
    Fields.names (template.erased.entries stem n) = Fields.names (template.entries stem n) := by
  induction template generalizing n with
  | nil => rfl
  | cons piece template ih =>
    have hrest := ih (n + count [piece])
    unfold Fields.names at hrest ⊢
    rw [erased_cons, entries_cons, entries_cons, List.map_append, List.map_append, ← hrest]
    cases piece with
    | verbatim s bindings =>
      simp [Piece.entries, Bindings.erased, erasedPairs, Function.comp_def]
      rfl
    | _ => rfl

end Template

end GraphQuery
