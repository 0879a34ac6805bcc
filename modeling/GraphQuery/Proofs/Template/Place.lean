import GraphQuery.Proofs.Template.Query

namespace GraphQuery

/-- Whether a piece is text that takes no parameter. -/
def Piece.isText : Piece → Bool
  | text _ => true
  | _ => false

namespace Template

/-- The pieces of a template that are more than text. -/
def places (template : Template) : Template :=
  template.filter fun piece => !piece.isText

theorem values_places (template : Template) : template.places.values = template.values := by
  unfold values places
  rw [List.filterMap_filter]
  congr 1
  funext piece
  cases piece <;> rfl

theorem callers_places (template : Template) : template.places.callers = template.callers := by
  unfold callers places
  rw [List.filterMap_filter]
  congr 1
  funext piece
  cases piece <;> rfl

theorem hasVerbatim_places (template : Template) :
    template.places.hasVerbatim = template.hasVerbatim := by
  unfold hasVerbatim places
  rw [List.any_filter]
  congr 1
  funext piece
  cases piece <;> rfl

/-- Text takes no parameters. -/
theorem entries_places (stem : String) (n : Nat) (template : Template) :
    template.places.entries stem n = template.entries stem n := by
  induction template generalizing n with
  | nil => rfl
  | cons piece template ih =>
    cases piece with
    | text s => exact ih n
    | value | shared | caller | verbatim => exact congrArg (_ ++ ·) (ih _)

@[simp]
theorem places_nil : places [] = [] :=
  rfl

@[simp]
theorem places_append (first second : Template) :
    places (first ++ second) = places first ++ places second :=
  List.filter_append ..

@[simp]
theorem places_text (s : String) (template : Template) :
    places (.text s :: template) = places template :=
  rfl

@[simp]
theorem places_value (v : Value) (template : Template) :
    places (.value v :: template) = .value v :: places template :=
  rfl

@[simp]
theorem places_caller (name : String) (template : Template) :
    places (.caller name :: template) = .caller name :: places template :=
  rfl

@[simp]
theorem places_verbatim (s : String) (bindings : Bindings) (template : Template) :
    places (.verbatim s bindings :: template) = .verbatim s bindings :: places template :=
  rfl

@[simp]
theorem places_checked (text : Except QueryError String) : places (checked text) = [] := by
  cases text <;> rfl

@[simp]
theorem places_separated (separator : String) (templates : List Template) :
    places (separated separator templates) = templates.flatMap places := by
  induction templates with
  | nil => rfl
  | cons first rest ih =>
    cases rest with
    | nil => simp [separated]
    | cons second rest =>
      rw [separated, places_append, places_text, ih]
      exact List.flatMap_cons.symm

@[simp]
theorem places_enclosed (left right : String) (template : Template) :
    places (enclosed left right template) = places template := by
  simp [enclosed]

@[simp]
theorem places_both (first second : Template) :
    places (both first second) = places first ++ places second := by
  simp [both]

@[simp]
theorem places_whereTemplate (templates : List Template) :
    places (whereTemplate templates) = templates.flatMap places := by
  have hfold : ∀ (rest : List Template) (first : Template),
      places (rest.foldl both first) = places first ++ rest.flatMap places := by
    intro rest
    induction rest with
    | nil => simp
    | cons next rest ih =>
      intro first
      rw [List.foldl_cons, ih, places_both, List.append_assoc, List.flatMap_cons]
  cases templates with
  | nil => rfl
  | cons first rest => exact hfold rest first

@[simp]
theorem places_orderTemplate (keys : List Template) :
    places (orderTemplate keys) = keys.flatMap places := by
  cases keys with
  | nil => rfl
  | cons first rest => exact places_separated ", " (first :: rest)

@[simp]
theorem places_inlineTemplate (properties : List Template) :
    places (inlineTemplate properties) = properties.flatMap places := by
  cases properties with
  | nil => rfl
  | cons first rest =>
    change places (enclosed _ _ (separated ", " (first :: rest))) = _
    rw [places_enclosed, places_separated]

@[simp]
theorem places_inlineValue (aliasName column : String) (v : Value) :
    places (inlineValue aliasName column v) = inlineValue aliasName column v := by
  unfold inlineValue
  split <;> rfl

@[simp]
theorem places_inlineProperty (column : String) (value : Template) :
    places (inlineProperty column value) = places value :=
  rfl

end Template

open Template

@[simp]
theorem Operand.places_template (operand : Operand) : operand.template.places = operand.places := by
  cases operand with
  | reference => exact places_checked _
  | _ => rfl

@[simp]
theorem Assignment.places_template (assignment : Assignment) :
    assignment.template.places = assignment.update.places := by
  obtain ⟨target, update⟩ := assignment
  cases update <;> simp [Assignment.template, Update.template, Update.places]

@[simp]
theorem UnwindSource.places_template (source : UnwindSource) :
    source.template.places = source.places := by
  cases source <;> rfl

@[simp]
theorem Direction.places_template (direction : Direction) (inner : Template) :
    (direction.template inner).places = inner.places := by
  cases direction <;> exact places_enclosed _ _ _

@[simp]
theorem SubqueryKind.places_template (kind : SubqueryKind) (yields : List String)
    (inner : Template) : (kind.template yields inner).places = inner.places := by
  cases kind <;> simp [SubqueryKind.template]

@[simp]
theorem places_pairTemplates (head : Head) (pairs : List (String × Value)) :
    (pairTemplates head pairs).flatMap Template.places = pairPlaces head pairs := by
  simp [pairTemplates, pairPlaces, List.flatMap_map]

@[simp]
theorem Pattern.places_branchTemplate (pattern : Pattern) (keyword : String)
    (pairs : List (String × Value)) :
    (pattern.branchTemplate keyword pairs).places = branchPlaces pairs := by
  cases pairs with
  | nil => rfl
  | cons pair pairs =>
    simp [branchTemplate, branchPlaces, List.flatMap_map, ← List.map_eq_flatMap]

@[simp]
theorem VectorSearch.places_callTemplate (config : Config) (search : VectorSearch) :
    (search.callTemplate config).places = [.value search.countValue] := by
  simp [callTemplate]

@[simp]
theorem VectorSearch.places_tailTemplate (search : VectorSearch) (keys : List Template) :
    (search.tailTemplate keys).places = keys.flatMap Template.places := by
  cases keys <;> simp [tailTemplate]

variable {config : Config}

mutual

/-- An expression is written with just its places. -/
theorem Expr.places_template : (expr : Expr) → (expr.template config).places = expr.places
  | .named _ => by simp [Expr.template, Expr.places]
  | .property _ => by simp [Expr.template, Expr.places]
  | .value _ => by simp [Expr.template, Expr.places]
  | .parameter _ => by simp [Expr.template, Expr.places]
  | .function name arguments => by
    simp [Expr.template, Expr.places, places_exprTemplates arguments]
  | .aggregate aggregate argument isDistinct => by
    simp [Expr.template, Expr.places, places_argumentTemplate argument]
  | .subquery kind clauses yields => by
    simp [Expr.template, Expr.places, places_clauseTemplates clauses]
  | .raw _ => by simp [Expr.template, Expr.places]

theorem places_exprTemplates : (exprs : List Expr) →
    (exprTemplates config exprs).flatMap Template.places = exprPlaces exprs
  | [] => by simp [exprTemplates, exprPlaces]
  | expr :: exprs => by
    simp [exprTemplates, exprPlaces, expr.places_template, places_exprTemplates exprs]

theorem places_argumentTemplate : (argument : Option Expr) →
    (argumentTemplate config argument).places = argumentPlaces argument
  | none => by simp [argumentTemplate, argumentPlaces]
  | some expr => by simp [argumentTemplate, argumentPlaces, expr.places_template]

theorem Predicate.places_template : (predicate : Predicate) →
    (predicate.template config).places = predicate.places
  | .compare reference comparison operand => by simp [Predicate.template, Predicate.places]
  | .and first second => by
    simp [Predicate.template, Predicate.places, first.places_template, second.places_template]
  | .or first second => by
    simp [Predicate.template, Predicate.places, first.places_template, second.places_template]
  | .not inner => by simp [Predicate.template, Predicate.places, inner.places_template]
  | .isNull _ => by simp [Predicate.template, Predicate.places]
  | .isNotNull _ => by simp [Predicate.template, Predicate.places]
  | .isIn reference values => by simp [Predicate.template, Predicate.places]
  | .stringMatch reference kind value => by simp [Predicate.template, Predicate.places]
  | .existsPattern pattern => by
    simp [Predicate.template, Predicate.places, pattern.places_template [],
      pattern.places_filterTemplates]
  | .existsQuery clauses => by
    simp [Predicate.template, Predicate.places, places_clauseTemplates clauses]
  | .literal _ => by simp [Predicate.template, Predicate.places]
  | .custom text bindings => by simp [Predicate.template, Predicate.places]

theorem places_filterTemplates : (filter : Option Predicate) →
    (filterTemplates config filter).flatMap Template.places = filterPlaces filter
  | none => by simp [filterTemplates, filterPlaces]
  | some predicate => by simp [filterTemplates, filterPlaces, predicate.places_template]

theorem places_propertyTemplates (head : Head) : (properties : List (String × Expr)) →
    (propertyTemplates config head properties).flatMap Template.places =
      propertyPlaces head properties
  | [] => by simp [propertyTemplates, propertyPlaces]
  | (name, expr) :: properties => by
    have hrest := places_propertyTemplates head properties
    have hexpr := expr.places_template
    simp only [propertyTemplates, propertyPlaces, List.flatMap_cons, hrest]
    cases expr.value? with
    | some v => simp
    | none => simp [hexpr]

theorem NodePattern.places_template (further : List (String × Value)) : (node : NodePattern) →
    (node.template config further).places = node.places further
  | .mk head properties filter => by
    simp [NodePattern.template, NodePattern.places, places_propertyTemplates head properties]

theorem NodePattern.places_filterTemplates : (node : NodePattern) →
    (node.filterTemplates config).flatMap Template.places = node.filterPlaces
  | .mk head properties filter => by
    simp [NodePattern.filterTemplates, NodePattern.filterPlaces, places_filterTemplates filter]

theorem Pattern.places_template (further : List (String × Value)) : (pattern : Pattern) →
    (pattern.template config further).places = pattern.places further
  | .node node => by simp [Pattern.template, Pattern.places, node.places_template further]
  | .edge source head direction properties filter target => by
    simp [Pattern.template, Pattern.places, source.places_template [], target.places_template [],
      places_propertyTemplates head properties]
  | .path aliasName source label direction hops target => by
    have hsource := source.places_template []
    have htarget := target.places_template []
    by_cases hanonymous : aliasName = ""
    · simp [Pattern.template, Pattern.places, hsource, htarget, hanonymous]
    · simp [Pattern.template, Pattern.places, hsource, htarget, hanonymous]

theorem Pattern.places_filterTemplates : (pattern : Pattern) →
    (pattern.filterTemplates config).flatMap Template.places = pattern.filterPlaces
  | .node node => by
    simp [Pattern.filterTemplates, Pattern.filterPlaces, node.places_filterTemplates]
  | .edge source head direction properties filter target => by
    simp [Pattern.filterTemplates, Pattern.filterPlaces, source.places_filterTemplates,
      places_filterTemplates filter, target.places_filterTemplates]
  | .path aliasName source label direction hops target => by
    simp [Pattern.filterTemplates, Pattern.filterPlaces, source.places_filterTemplates,
      target.places_filterTemplates]

theorem places_patternTemplates : (patterns : List Pattern) →
    (patternTemplates config patterns).flatMap Template.places = patternPlaces patterns
  | [] => by simp [patternTemplates, patternPlaces]
  | pattern :: patterns => by
    simp [patternTemplates, patternPlaces, pattern.places_template [],
      places_patternTemplates patterns]

theorem places_allFilterTemplates : (patterns : List Pattern) →
    (allFilterTemplates config patterns).flatMap Template.places = allFilterPlaces patterns
  | [] => by simp [allFilterTemplates, allFilterPlaces]
  | pattern :: patterns => by
    simp [allFilterTemplates, allFilterPlaces, pattern.places_filterTemplates,
      places_allFilterTemplates patterns]

theorem places_itemTemplates : (items : List ReturnItem) →
    (itemTemplates config items).flatMap Template.places = itemPlaces items
  | [] => by simp [itemTemplates, itemPlaces]
  | .mk expr name :: items => by
    simp [itemTemplates, itemPlaces, expr.places_template, places_itemTemplates items]

theorem places_keyTemplates : (keys : List OrderKey) →
    (keyTemplates config keys).flatMap Template.places = keyPlaces keys
  | [] => by simp [keyTemplates, keyPlaces]
  | .mk expr isDescending :: keys => by
    simp [keyTemplates, keyPlaces, expr.places_template, places_keyTemplates keys]

theorem Projection.places_template (keyword : String) : (projection : Projection) →
    (projection.template config keyword).places = projection.places
  | .mk items isDistinct order skip limit => by
    simp [Projection.template, Projection.places, places_itemTemplates items,
      places_keyTemplates order]

theorem places_optionTemplates : (options : List (String × Expr)) →
    (optionTemplates config options).flatMap Template.places = optionPlaces options
  | [] => by simp [optionTemplates, optionPlaces]
  | (name, expr) :: options => by
    simp [optionTemplates, optionPlaces, expr.places_template, places_optionTemplates options]

theorem Clause.places_template : (clause : Clause) →
    (clause.template config).places = clause.places
  | .matching isOptional patterns filter => by
    simp [Clause.template, Clause.places, places_patternTemplates patterns,
      places_allFilterTemplates patterns, places_filterTemplates filter]
  | .create patterns => by
    simp [Clause.template, Clause.places, places_patternTemplates patterns,
      places_allFilterTemplates patterns]
  | .merge pattern matchOn onCreate onMatch => by
    simp [Clause.template, Clause.places, pattern.places_template matchOn,
      pattern.places_filterTemplates]
  | .set assignments => by simp [Clause.template, Clause.places, List.flatMap_map]
  | .delete _ _ => by simp [Clause.template, Clause.places]
  | .filter predicate => by simp [Clause.template, Clause.places, predicate.places_template]
  | .returning projection => by
    simp [Clause.template, Clause.places, projection.places_template "RETURN"]
  | .passing projection filter => by
    simp [Clause.template, Clause.places, projection.places_template "WITH",
      places_filterTemplates filter]
  | .unwind source aliasName => by simp [Clause.template, Clause.places]
  | .call procedure arguments options yields filter => by
    simp [Clause.template, Clause.places, places_exprTemplates arguments,
      places_optionTemplates options, places_filterTemplates filter]
  | .subquery kind clauses yields => by
    simp [Clause.template, Clause.places, places_clauseTemplates clauses]
  | .vectorSearch search filter order => by
    simp [Clause.template, Clause.places, places_filterTemplates filter,
      places_keyTemplates order]

theorem places_clauseTemplates : (clauses : List Clause) →
    (clauseTemplates config clauses).flatMap Template.places = clausePlaces clauses
  | [] => by simp [clauseTemplates, clausePlaces]
  | clause :: clauses => by
    simp [clauseTemplates, clausePlaces, clause.places_template, places_clauseTemplates clauses]

end

namespace Query

variable (config : Config) (query : Query)

/-- A query is written with just its places. -/
theorem places_template : (query.template config).places = query.places := by
  rw [template, places_separated, places_clauseTemplates, places]

theorem hasVerbatim_template : (query.template config).hasVerbatim = query.hasVerbatim := by
  rw [hasVerbatim, ← query.places_template config, hasVerbatim_places]

theorem callers_template : (query.template config).callers = query.callers := by
  rw [callers, ← query.places_template config, callers_places]

theorem values_template : (query.template config).values = query.sites := by
  rw [sites, ← query.places_template config, values_places]

end Query

end GraphQuery
