import GraphQuery.Proofs.Conflict.Leaf
import GraphQuery.Proofs.Template.Clause
import GraphQuery.Proofs.Template.Place

namespace GraphQuery

variable {config : Config}

namespace Pattern

theorem filterPlaces_eq_nil {pattern : Pattern} (hfilters : pattern.filters = []) :
    pattern.filterPlaces = [] := by
  -- What the conditions bind is the same under any settings.
  rw [← @places_filterTemplates (.plain {}) pattern, filterTemplates_eq_nil hfilters,
    List.flatMap_nil]

theorem filterPlaces_eq_nil_of_checkCreate {pattern : Pattern}
    (hcheck : pattern.checkCreate = .ok ()) : pattern.filterPlaces = [] :=
  filterPlaces_eq_nil (filters_eq_nil_of_checkCreate hcheck)

theorem filterPlaces_eq_nil_of_checkMerge {pattern : Pattern}
    (hcheck : pattern.checkMerge = .ok ()) : pattern.filterPlaces = [] :=
  filterPlaces_eq_nil (filters_eq_nil_of_checkMerge hcheck)

end Pattern

/-- Assigned values are all bound to anonymous names. -/
@[simp]
theorem named_branchPlaces (pairs : List (String × Value)) : (branchPlaces pairs).named = [] := by
  rw [branchPlaces, Template.named, List.flatMap_map]
  exact List.flatMap_eq_nil_iff.mpr fun _ _ => rfl

theorem Update.named_places (update : Update) : update.places.named = [] := by
  cases update <;> rfl

theorem UnwindSource.named_places (source : UnwindSource) : source.places.named = [] := by
  cases source <;> rfl

theorem named_assignmentPlaces (assignments : List Assignment) :
    Template.named (assignments.flatMap (·.update.places)) = [] := by
  rw [Template.named, List.flatMap_assoc]
  exact List.flatMap_eq_nil_iff.mpr fun assignment _ => assignment.update.named_places

/-- The clauses of a query within a query are checked before any of them is written. -/
theorem Binds.nested {clauses : List Clause} {named : Fields Value}
    (hclauses : Binds config (renderFrom config false 0 "" clauses) named) :
    Binds config
      (do
        validateAll clauses
        renderFrom config false 0 "" clauses) named :=
  .check (guarded_validateAll clauses) fun _ _ => hclauses

mutual

theorem Expr.binds (hstem : Name.IsStem config.parameterStem) :
    (expr : Expr) → Binds config (expr.render config) expr.places.named
  | .named name => .map (.lift (Name.guarded_checkAlias ..)) _
  | .property reference => .lift reference.guarded_render
  | .value v => .bindAnonymous v
  | .parameter name => .lift (Name.guarded_callerPlaceholder ..)
  | .function name arguments => by
    rw [Expr.render, Expr.places]
    exact .check (Name.guarded_checkProcedure ..) fun _ _ =>
      .map (binds_exprs hstem arguments) _
  | .aggregate aggregate argument isDistinct => by
    rw [Expr.render, Expr.places]
    refine (binds_argument hstem argument).followed fun text? => ?_
    cases text? with
    | some text => exact .map (.pure text) _
    | none =>
      dsimp only
      split
      · exact .map (.pure "*") _
      · exact .map (.fail ..) _
  | .subquery kind clauses yields => by
    rw [Expr.render, Expr.places]
    exact kind.binds_nested _ _ (bindsFrom hstem clauses 0 "").nested
  | .raw text => by
    rw [Expr.render, Expr.places]
    exact .unless_fail fun _ => .pure text

theorem binds_exprs (hstem : Name.IsStem config.parameterStem) :
    (exprs : List Expr) → Binds config (renderExprs config exprs) (exprPlaces exprs).named
  | [] => .pure []
  | expr :: exprs => by
    rw [renderExprs, exprPlaces, Template.named_append]
    exact (expr.binds hstem).bind fun _ => .map (binds_exprs hstem exprs) _

theorem binds_argument (hstem : Name.IsStem config.parameterStem) : (argument : Option Expr) →
    Binds config (renderArgument config argument) (argumentPlaces argument).named
  | none => .pure none
  | some expr => .map (expr.binds hstem) _

theorem Predicate.binds (hstem : Name.IsStem config.parameterStem) :
    (predicate : Predicate) → Binds config (predicate.render config) predicate.places.named
  | .compare reference comparison operand =>
    .check reference.guarded_render fun _ _ => .map (operand.binds ..) _
  | .and first second => by
    rw [Predicate.render, Predicate.places, Template.named_append]
    exact (first.binds hstem).bind fun _ => .map (second.binds hstem) _
  | .or first second => by
    rw [Predicate.render, Predicate.places, Template.named_append]
    exact (first.binds hstem).bind fun _ => .map (second.binds hstem) _
  | .not inner => .map (inner.binds hstem) _
  | .isNull reference => .map (.lift reference.guarded_render) _
  | .isNotNull reference => .map (.lift reference.guarded_render) _
  | .isIn reference values => Predicate.binds_isIn reference values
  | .stringMatch reference kind value => Predicate.binds_stringMatch reference kind value
  | .existsPattern pattern => by
    rw [Predicate.render, Predicate.places, Template.named_append]
    rw [← List.append_nil (_ ++ _)]
    exact .isolated ((pattern.binds hstem []).bind fun _ => .map (pattern.binds_filters hstem) _)
      fun _ => .pure _
  | .existsQuery clauses => by
    rw [Predicate.render, Predicate.places]
    exact SubqueryKind.exists.binds_nested _ _ (bindsFrom hstem clauses 0 "").nested
  | .literal value => .pure _
  | .custom text bindings => by
    rw [Predicate.render, Predicate.places, Template.named, List.flatMap_singleton]
    exact Predicate.binds_custom text bindings

theorem binds_filter (hstem : Name.IsStem config.parameterStem) : (filter : Option Predicate) →
    Binds config (renderFilter config filter) (filterPlaces filter).named
  | none => .pure []
  | some predicate => .map (predicate.binds hstem) _

theorem binds_properties (hstem : Name.IsStem config.parameterStem) (head : Head) :
    (properties : List (String × Expr)) →
      Binds config (renderProperties config head properties)
        (propertyPlaces head properties).named
  | [] => .pure []
  | (name, expr) :: properties => by
    rw [renderProperties, propertyPlaces, Template.named_append]
    refine Binds.bind (.inlineProperty ?_ _) fun _ =>
      .map (binds_properties hstem head properties) _
    cases expr.value? with
    | some v => exact binds_inline hstem _ _ v
    | none => exact expr.binds hstem

theorem NodePattern.binds (hstem : Name.IsStem config.parameterStem)
    (further : List (String × Value)) : (node : NodePattern) →
      Binds config (node.render config further) (node.places further).named
  | .mk head properties filter => by
    rw [NodePattern.render, NodePattern.places, Template.named_append]
    exact .check head.guarded_render fun _ _ =>
      (binds_properties hstem head properties).bind fun _ => .map (binds_pairs hstem head further) _

theorem NodePattern.binds_filters (hstem : Name.IsStem config.parameterStem) :
    (node : NodePattern) → Binds config (node.renderFilters config) node.filterPlaces.named
  | .mk _ _ filter => binds_filter hstem filter

theorem Pattern.binds (hstem : Name.IsStem config.parameterStem)
    (further : List (String × Value)) : (pattern : Pattern) →
      Binds config (pattern.render config further) (pattern.places further).named
  | .node node => node.binds hstem further
  | .edge source head direction properties filter target => by
    rw [Pattern.render, Pattern.places]
    simp only [Template.named_append, List.append_assoc]
    exact (source.binds hstem []).bind fun _ => .check head.guarded_render fun _ _ =>
      (binds_properties hstem head properties).bind fun _ =>
        (binds_pairs hstem head further).bind fun _ => .map (target.binds hstem []) _
  | .path aliasName source label direction hops target => by
    rw [Pattern.render, Pattern.places, Template.named_append]
    refine .check hops.guarded_render fun _ _ => (source.binds hstem []).bind fun _ =>
      .check (Head.guarded_labelText label) fun _ _ =>
        (target.binds hstem []).followed fun _ => ?_
    split
    · exact .pure _
    · exact .map (.lift (Name.guarded_checkAlias ..)) _

theorem Pattern.binds_filters (hstem : Name.IsStem config.parameterStem) :
    (pattern : Pattern) → Binds config (pattern.renderFilters config) pattern.filterPlaces.named
  | .node node => node.binds_filters hstem
  | .edge source head direction properties filter target => by
    rw [Pattern.renderFilters, Pattern.filterPlaces]
    simp only [Template.named_append, List.append_assoc]
    exact (source.binds_filters hstem).bind fun _ => (binds_filter hstem filter).bind fun _ =>
      .map (target.binds_filters hstem) _
  | .path aliasName source label direction hops target => by
    rw [Pattern.renderFilters, Pattern.filterPlaces, Template.named_append]
    exact (source.binds_filters hstem).bind fun _ => .map (target.binds_filters hstem) _

theorem binds_patterns (hstem : Name.IsStem config.parameterStem) : (patterns : List Pattern) →
    Binds config (renderPatterns config patterns) (patternPlaces patterns).named
  | [] => .pure []
  | pattern :: patterns => by
    rw [renderPatterns, patternPlaces, Template.named_append]
    exact (pattern.binds hstem []).bind fun _ => .map (binds_patterns hstem patterns) _

theorem binds_allFilters (hstem : Name.IsStem config.parameterStem) : (patterns : List Pattern) →
    Binds config (renderAllFilters config patterns) (allFilterPlaces patterns).named
  | [] => .pure []
  | pattern :: patterns => by
    rw [renderAllFilters, allFilterPlaces, Template.named_append]
    exact (pattern.binds_filters hstem).bind fun _ => .map (binds_allFilters hstem patterns) _

/-- What is created has no conditions, or is refused. -/
theorem binds_created (hstem : Name.IsStem config.parameterStem) : (patterns : List Pattern) →
    Binds config (renderCreated config patterns)
      (patternPlaces patterns ++ allFilterPlaces patterns).named
  | [] => .pure []
  | pattern :: patterns => by
    rw [renderCreated, patternPlaces, allFilterPlaces]
    refine .check pattern.guarded_checkCreate fun _ hcheck => ?_
    rw [Pattern.filterPlaces_eq_nil_of_checkCreate hcheck, List.nil_append, List.append_assoc,
      Template.named_append]
    exact (pattern.binds hstem []).bind fun _ => .map (binds_created hstem patterns) _

theorem binds_items (hstem : Name.IsStem config.parameterStem) : (items : List ReturnItem) →
    Binds config (renderItems config items) (itemPlaces items).named
  | [] => .pure []
  | .mk expr name :: items => by
    rw [renderItems, itemPlaces, Template.named_append]
    exact (expr.binds hstem).bind fun _ =>
      .check (ReturnItem.guarded_nameText name) fun _ _ => .map (binds_items hstem items) _

theorem binds_keys (hstem : Name.IsStem config.parameterStem) : (keys : List OrderKey) →
    Binds config (renderKeys config keys) (keyPlaces keys).named
  | [] => .pure []
  | .mk expr _ :: keys => by
    rw [renderKeys, keyPlaces, Template.named_append]
    exact (expr.binds hstem).bind fun _ => .map (binds_keys hstem keys) _

theorem Projection.binds (hstem : Name.IsStem config.parameterStem) (keyword : String) :
    (projection : Projection) →
      Binds config (projection.render config keyword) projection.places.named
  | .mk items isDistinct order skip limit => by
    rw [Projection.places, Template.named_append]
    unfold Projection.render
    exact .unless_fail fun _ => (binds_items hstem items).bind fun _ =>
      .map (binds_keys hstem order) _

theorem binds_options (hstem : Name.IsStem config.parameterStem) :
    (options : List (String × Expr)) →
      Binds config (renderOptions config options) (optionPlaces options).named
  | [] => .pure []
  | (name, expr) :: options => by
    rw [renderOptions, optionPlaces, Template.named_append]
    exact .unless_fail fun _ => (expr.binds hstem).bind fun _ =>
      .map (binds_options hstem options) _

theorem Clause.binds (hstem : Name.IsStem config.parameterStem) :
    (clause : Clause) → Binds config (clause.render config) clause.places.named
  | .matching isOptional patterns filter => by
    rw [Clause.render, Clause.places, Template.named_append, Template.named_append]
    exact .unless_fail fun _ => (binds_patterns hstem patterns).bind fun _ =>
      (binds_allFilters hstem patterns).bind fun _ => .map (binds_filter hstem filter) _
  | .create patterns => by
    rw [Clause.render, Clause.places]
    exact .unless_fail fun _ => .map (binds_created hstem patterns) _
  | .merge pattern matchOn onCreate onMatch => by
    rw [Clause.render, Clause.places]
    refine .check pattern.guarded_checkMerge fun _ hcheck => ?_
    simp only [Pattern.filterPlaces_eq_nil_of_checkMerge hcheck, Template.named_append,
      named_branchPlaces, List.append_nil]
    exact (pattern.binds hstem matchOn).followed fun _ =>
      (pattern.binds_branch ..).followed fun _ => .map (pattern.binds_branch ..) _
  | .set assignments => by
    rw [Clause.render, Clause.places, named_assignmentPlaces]
    exact .unless_fail fun _ => .map (.mapM_nil assignments Assignment.binds) _
  | .delete isDetach aliases => by
    rw [Clause.render, Clause.places]
    exact .unless_fail fun _ => .map (.forM aliases fun _ => Name.guarded_checkAlias ..) _
  | .filter predicate => .map (predicate.binds hstem) _
  | .returning projection => projection.binds hstem "RETURN"
  | .passing projection filter => by
    rw [Clause.render, Clause.places, Template.named_append]
    exact (projection.binds hstem "WITH").bind fun _ => .map (binds_filter hstem filter) _
  | .unwind source aliasName => by
    rw [Clause.render, Clause.places, source.named_places]
    exact .check (Name.guarded_checkAlias ..) fun _ _ => .map source.binds _
  | .call procedure arguments options yields filter => by
    rw [Clause.render, Clause.places]
    simp only [Template.named_append, List.append_assoc]
    refine .check (Name.guarded_checkProcedure ..) fun _ _ =>
      (binds_exprs hstem arguments).bind fun _ => (binds_options hstem options).bind fun _ => ?_
    rw [← List.nil_append (filterPlaces filter).named]
    exact (Binds.forM yields fun _ => Name.guarded_checkAlias ..).bind fun _ =>
      .unless_fail fun _ => .map (binds_filter hstem filter) _
  | .subquery kind clauses yields => by
    rw [Clause.render, Clause.places]
    exact .unless_fail fun _ => kind.binds_nested _ _ (bindsFrom hstem clauses 0 "").nested
  | .vectorSearch search filter order => by
    rw [Clause.render, Clause.places]
    change Binds config _ (Template.named (_ ++ _))
    rw [Template.named_append]
    exact search.binds_call.bind fun _ => (binds_filter hstem filter).bind fun _ =>
      .map (binds_keys hstem order) _

/-- The clauses of a query within a query bind what each of them does. -/
theorem bindsFrom (hstem : Name.IsStem config.parameterStem) :
    (clauses : List Clause) → (position : Nat) → (text : String) →
      Binds config (renderFrom config false position text clauses) (clausePlaces clauses).named
  | [], _, text => .pure text
  | clause :: clauses, position, text => by
    rw [renderFrom, clausePlaces, Template.named_append]
    exact (clause.binds hstem).isolated_text.bind fun next =>
      bindsFrom hstem clauses (position + 1) (Fragment.joinTexts text next)

end

end GraphQuery
