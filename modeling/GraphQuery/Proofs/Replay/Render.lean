import GraphQuery.Proofs.Replay.Leaf

namespace GraphQuery

variable {config : Config} {stem : String}

/-- The clauses of a query within a query are checked before any of them is written. -/
theorem Replays.nested {clauses : List Clause} {places : Template}
    (hclauses : Replays stem (renderFrom config false 0 "" clauses)
      (renderFrom (config.withStem stem) false 0 "" clauses) places) :
    Replays stem
      (do
        validateAll clauses
        renderFrom config false 0 "" clauses)
      (do
        validateAll clauses
        renderFrom (config.withStem stem) false 0 "" clauses) places :=
  .check fun _ _ => hclauses

-- By recursion on the syntax: a case puts together the replays of its parts in the order in which
-- they are written, so that the places come out in the order of the text.
mutual

/-- An expression that can be written can be written wherever its places allow it. -/
theorem Expr.replays : (expr : Expr) →
    Replays stem (expr.render config) (expr.render (config.withStem stem)) expr.places
  | .named name => .map (.lift _) _ _
  | .property reference => .lift _
  | .value v => .bindAnonymous v
  | .parameter name => .caller ..
  | .function name arguments => by
    rw [Expr.render, Expr.render, Expr.places]
    exact .check fun _ _ => .map (replays_exprs arguments) _ _
  | .aggregate aggregate argument isDistinct => by
    rw [Expr.render, Expr.render, Expr.places]
    -- Whether there is a text to be written is known from the argument alone.
    cases argument with
    | some expr =>
      simp only [renderArgument, bind_assoc, pure_bind]
      exact .map expr.replays _ _
    | none =>
      simp only [renderArgument, pure_bind]
      split
      · exact .pure _ _
      · exact .map (.fail ..) _ _
  | .subquery kind clauses yields => by
    rw [Expr.render, Expr.render, Expr.places]
    exact kind.replays_nested _ _ (replaysFrom clauses 0 "" "").nested
  | .raw text => by
    rw [Expr.render, Expr.render, Expr.places]
    exact .unless_fail fun _ => .raw text

theorem replays_exprs : (exprs : List Expr) →
    Replays stem (renderExprs config exprs) (renderExprs (config.withStem stem) exprs)
      (exprPlaces exprs)
  | [] => .pure [] []
  | expr :: exprs => by
    rw [renderExprs, renderExprs, exprPlaces]
    exact expr.replays.bind fun _ _ => .map (replays_exprs exprs) _ _

theorem Predicate.replays : (predicate : Predicate) →
    Replays stem (predicate.render config) (predicate.render (config.withStem stem))
      predicate.places
  | .compare reference comparison operand => .check fun _ _ => .map (operand.replays ..) _ _
  | .and first second => by
    rw [Predicate.render, Predicate.render, Predicate.places]
    exact first.replays.bind fun _ _ => .map second.replays _ _
  | .or first second => by
    rw [Predicate.render, Predicate.render, Predicate.places]
    exact first.replays.bind fun _ _ => .map second.replays _ _
  | .not inner => .map inner.replays _ _
  | .isNull reference => .map (.lift _) _ _
  | .isNotNull reference => .map (.lift _) _ _
  | .isIn reference values => Predicate.replays_isIn reference values
  | .stringMatch reference kind value => Predicate.replays_stringMatch reference kind value
  | .existsPattern pattern => by
    rw [Predicate.render, Predicate.render, Predicate.places, ← List.append_nil (_ ++ _)]
    exact .isolated ((pattern.replays []).bind fun _ _ => .map pattern.replays_filters _ _)
      fun _ _ => .pure _ _
  | .existsQuery clauses => by
    rw [Predicate.render, Predicate.render, Predicate.places]
    exact SubqueryKind.exists.replays_nested _ _ (replaysFrom clauses 0 "" "").nested
  | .literal value => .pure _ _
  | .custom text bindings => Predicate.replays_custom text bindings

theorem replays_filter : (filter : Option Predicate) →
    Replays stem (renderFilter config filter) (renderFilter (config.withStem stem) filter)
      (filterPlaces filter)
  | none => .pure [] []
  | some predicate => .map predicate.replays _ _

theorem replays_properties (head : Head) : (properties : List (String × Expr)) →
    Replays stem (renderProperties config head properties)
      (renderProperties (config.withStem stem) head properties) (propertyPlaces head properties)
  | [] => .pure [] []
  | (name, expr) :: properties => by
    rw [renderProperties, renderProperties, propertyPlaces]
    refine Replays.bind (.inlineProperty ?_ _) fun _ _ =>
      .map (replays_properties head properties) _ _
    cases expr.value? with
    | some v => exact replays_inline _ _ v
    | none => exact expr.replays

theorem NodePattern.replays (further : List (String × Value)) : (node : NodePattern) →
    Replays stem (node.render config further) (node.render (config.withStem stem) further)
      (node.places further)
  | .mk head properties filter => by
    rw [NodePattern.render, NodePattern.render, NodePattern.places]
    exact .check fun _ _ => (replays_properties head properties).bind fun _ _ =>
      .map (replays_pairs head further) _ _

theorem NodePattern.replays_filters : (node : NodePattern) →
    Replays stem (node.renderFilters config) (node.renderFilters (config.withStem stem))
      node.filterPlaces
  | .mk _ _ filter => replays_filter filter

theorem Pattern.replays (further : List (String × Value)) : (pattern : Pattern) →
    Replays stem (pattern.render config further) (pattern.render (config.withStem stem) further)
      (pattern.places further)
  | .node node => node.replays further
  | .edge source head direction properties filter target => by
    rw [Pattern.render, Pattern.render, Pattern.places]
    simp only [List.append_assoc]
    exact (source.replays []).bind fun _ _ => .check fun _ _ =>
      (replays_properties head properties).bind fun _ _ =>
        (replays_pairs head further).bind fun _ _ => .map (target.replays []) _ _
  | .path aliasName source label direction hops target => by
    rw [Pattern.render, Pattern.render, Pattern.places]
    refine .check fun _ _ => (source.replays []).bind fun _ _ => .check fun _ _ =>
      (target.replays []).followed fun _ _ => ?_
    split
    · exact .pure _ _
    · exact .map (.lift _) _ _

theorem Pattern.replays_filters : (pattern : Pattern) →
    Replays stem (pattern.renderFilters config) (pattern.renderFilters (config.withStem stem))
      pattern.filterPlaces
  | .node node => node.replays_filters
  | .edge source head direction properties filter target => by
    rw [Pattern.renderFilters, Pattern.renderFilters, Pattern.filterPlaces]
    simp only [List.append_assoc]
    exact source.replays_filters.bind fun _ _ => (replays_filter filter).bind fun _ _ =>
      .map target.replays_filters _ _
  | .path aliasName source label direction hops target => by
    rw [Pattern.renderFilters, Pattern.renderFilters, Pattern.filterPlaces]
    exact source.replays_filters.bind fun _ _ => .map target.replays_filters _ _

theorem replays_patterns : (patterns : List Pattern) →
    Replays stem (renderPatterns config patterns) (renderPatterns (config.withStem stem) patterns)
      (patternPlaces patterns)
  | [] => .pure [] []
  | pattern :: patterns => by
    rw [renderPatterns, renderPatterns, patternPlaces]
    exact (pattern.replays []).bind fun _ _ => .map (replays_patterns patterns) _ _

theorem replays_allFilters : (patterns : List Pattern) →
    Replays stem (renderAllFilters config patterns)
      (renderAllFilters (config.withStem stem) patterns) (allFilterPlaces patterns)
  | [] => .pure [] []
  | pattern :: patterns => by
    rw [renderAllFilters, renderAllFilters, allFilterPlaces]
    exact pattern.replays_filters.bind fun _ _ => .map (replays_allFilters patterns) _ _

/-- What is created has no conditions, or is refused. -/
theorem replays_created : (patterns : List Pattern) →
    Replays stem (renderCreated config patterns) (renderCreated (config.withStem stem) patterns)
      (patternPlaces patterns ++ allFilterPlaces patterns)
  | [] => .pure [] []
  | pattern :: patterns => by
    rw [renderCreated, renderCreated, patternPlaces, allFilterPlaces]
    refine .check fun _ hcheck => ?_
    rw [Pattern.filterPlaces_eq_nil_of_checkCreate hcheck, List.nil_append, List.append_assoc]
    exact (pattern.replays []).bind fun _ _ => .map (replays_created patterns) _ _

theorem replays_items : (items : List ReturnItem) →
    Replays stem (renderItems config items) (renderItems (config.withStem stem) items)
      (itemPlaces items)
  | [] => .pure [] []
  | .mk expr name :: items => by
    rw [renderItems, renderItems, itemPlaces]
    exact expr.replays.bind fun _ _ => .check fun _ _ => .map (replays_items items) _ _

theorem replays_keys : (keys : List OrderKey) →
    Replays stem (renderKeys config keys) (renderKeys (config.withStem stem) keys) (keyPlaces keys)
  | [] => .pure [] []
  | .mk expr _ :: keys => by
    rw [renderKeys, renderKeys, keyPlaces]
    exact expr.replays.bind fun _ _ => .map (replays_keys keys) _ _

theorem Projection.replays (keyword : String) : (projection : Projection) →
    Replays stem (projection.render config keyword)
      (projection.render (config.withStem stem) keyword) projection.places
  | .mk items isDistinct order skip limit => by
    rw [Projection.places]
    unfold Projection.render
    exact .unless_fail fun _ => (replays_items items).bind fun _ _ => .map (replays_keys order) _ _

theorem replays_options : (options : List (String × Expr)) →
    Replays stem (renderOptions config options) (renderOptions (config.withStem stem) options)
      (optionPlaces options)
  | [] => .pure [] []
  | (name, expr) :: options => by
    rw [renderOptions, renderOptions, optionPlaces]
    exact .unless_fail fun _ => expr.replays.bind fun _ _ => .map (replays_options options) _ _

/-- A clause that can be written can be written wherever its places allow it. -/
theorem Clause.replays : (clause : Clause) →
    Replays stem (clause.render config) (clause.render (config.withStem stem)) clause.places
  | .matching isOptional patterns filter => by
    rw [Clause.render, Clause.render, Clause.places]
    exact .unless_fail fun _ => (replays_patterns patterns).bind fun _ _ =>
      (replays_allFilters patterns).bind fun _ _ => .map (replays_filter filter) _ _
  | .create patterns => by
    rw [Clause.render, Clause.render, Clause.places]
    exact .unless_fail fun _ => .map (replays_created patterns) _ _
  | .merge pattern matchOn onCreate onMatch => by
    rw [Clause.render, Clause.render, Clause.places]
    refine .check fun _ hcheck => ?_
    rw [Pattern.filterPlaces_eq_nil_of_checkMerge hcheck, List.append_nil, List.append_assoc]
    exact (pattern.replays matchOn).bind fun _ _ => (pattern.replays_branch ..).bind fun _ _ =>
      .map (pattern.replays_branch ..) _ _
  | .set assignments => by
    rw [Clause.render, Clause.render, Clause.places]
    exact .unless_fail fun _ => .map (.mapM assignments Assignment.replays) _ _
  | .delete isDetach aliases => by
    rw [Clause.render, Clause.render, Clause.places]
    exact .unless_fail fun _ => .map (.forM aliases) _ _
  | .filter predicate => .map predicate.replays _ _
  | .returning projection => projection.replays "RETURN"
  | .passing projection filter => by
    rw [Clause.render, Clause.render, Clause.places]
    exact (projection.replays "WITH").bind fun _ _ => .map (replays_filter filter) _ _
  | .unwind source aliasName => by
    rw [Clause.render, Clause.render, Clause.places]
    exact .check fun _ _ => .map source.replays _ _
  | .call procedure arguments options yields filter => by
    rw [Clause.render, Clause.render, Clause.places]
    simp only [List.append_assoc]
    refine .check fun _ _ => (replays_exprs arguments).bind fun _ _ =>
      (replays_options options).bind fun _ _ => ?_
    rw [← List.nil_append (GraphQuery.filterPlaces filter)]
    exact (Replays.forM yields).bind fun _ _ => .unless_fail fun _ =>
      .map (replays_filter filter) _ _
  | .subquery kind clauses yields => by
    rw [Clause.render, Clause.render, Clause.places]
    exact .unless_fail fun _ => kind.replays_nested _ _ (replaysFrom clauses 0 "" "").nested
  | .vectorSearch search filter order => by
    rw [Clause.render, Clause.render, Clause.places]
    change Replays stem _ _ ([_] ++ _)
    exact search.replays_call.bind fun _ _ => (replays_filter filter).bind fun _ _ =>
      .map (replays_keys order) _ _

/-- The texts that clauses are written behind may differ. -/
theorem replaysFrom : (clauses : List Clause) → (position : Nat) → (text text' : String) →
    Replays stem (renderFrom config false position text clauses)
      (renderFrom (config.withStem stem) false position text' clauses) (clausePlaces clauses)
  | [], _, text, text' => .pure text text'
  | clause :: clauses, position, text, text' => by
    rw [renderFrom, renderFrom, clausePlaces]
    exact clause.replays.isolated_text.bind fun next next' =>
      replaysFrom clauses (position + 1) (Fragment.joinTexts text next)
        (Fragment.joinTexts text' next')

end

end GraphQuery
