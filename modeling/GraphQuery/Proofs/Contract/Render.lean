import GraphQuery.Proofs.Contract.Part

namespace GraphQuery

variable {config : Config}

/-- The clauses of a query within a query are checked before any of them is written. -/
theorem Ensures.nested {p : Prop} {clauses : List Clause}
    (hclauses : Ensures (renderFrom config false 0 "" clauses) p) :
    Ensures
      (do
        validateAll clauses
        renderFrom config false 0 "" clauses) p :=
  (Ensures.lift (guarded_validateAll clauses)).skip fun _ => hclauses

theorem NodePattern.forall_filters {head : Head} {properties : List (String × Expr)}
    {filter : Option Predicate} {holds : Predicate → Prop} :
    (∀ predicate ∈ (NodePattern.mk head properties filter).filters, holds predicate) ↔
      ∀ predicate ∈ filter, holds predicate := by
  simp [filters]

-- Each case goes through the steps of its do block: a check is lifted, a part is bound, and what is
-- of no consequence for the property is skipped.
mutual

theorem Expr.ensures : (expr : Expr) →
    Ensures (expr.render config) (expr.WellFormed config.acceptsRegex)
  | .named name => (Ensures.map (.lift (Name.guarded_checkAlias ..)) _).imp fun _ => .named name
  | .property reference => .lift (reference.guarded_render.imp fun _ => .property reference)
  | .value v => (Ensures.bindAnonymous v).imp fun _ => .value v
  | .parameter name =>
    .lift ((Name.guarded_callerPlaceholder ..).imp fun _ => .parameter name)
  | .function name arguments => by
    rw [Expr.render]
    exact ((Ensures.lift (Name.guarded_checkProcedure ..)).skip fun _ =>
      .map (ensures_exprs arguments) _).imp (.function name)
  | .aggregate aggregate argument isDistinct => by
    rw [Expr.render]
    refine ((ensures_argument argument).followed fun text? => ?_).imp
      (.aggregate aggregate isDistinct)
    cases text? with
    | some text => exact .map (.pure text trivial) _
    | none =>
      dsimp only
      split
      · exact .map (.pure "*" trivial) _
      · exact .map (.fail ..) _
  | .subquery kind clauses yields => by
    rw [Expr.render]
    refine (kind.ensures_nested clauses yields (ensuresFrom clauses 0 "").nested).imp ?_
    rintro ⟨hne, hyields, hclauses⟩
    exact .subquery hne hyields hclauses
  | .raw text => by
    rw [Expr.render]
    exact Ensures.imp (.unless_fail (.pure text trivial)) fun _ => .raw text

theorem ensures_exprs : (exprs : List Expr) →
    Ensures (renderExprs config exprs) (∀ expr ∈ exprs, expr.WellFormed config.acceptsRegex)
  | [] => .pure [] (List.forall_mem_nil _)
  | expr :: exprs => by
    rw [renderExprs]
    exact .cons expr.ensures fun _ => .map (ensures_exprs exprs) _

theorem ensures_argument : (argument : Option Expr) →
    Ensures (renderArgument config argument)
      (∀ expr ∈ argument, expr.WellFormed config.acceptsRegex)
  | none => .pure none fun _ hmem => by cases hmem
  | some expr => (Ensures.map expr.ensures _).imp fun hexpr _ hmem => by cases hmem; exact hexpr

theorem Predicate.ensures : (predicate : Predicate) →
    Ensures (predicate.render config) (predicate.WellFormed config.acceptsRegex)
  | .compare reference comparison operand =>
    ((Ensures.lift reference.guarded_render).skip fun _ => .map (operand.ensures ..) _).imp
      (.compare reference comparison)
  | .and first second => by
    rw [Predicate.render]
    exact (first.ensures.bind fun _ => .map second.ensures _).imp fun h => .and h.1 h.2
  | .or first second => by
    rw [Predicate.render]
    exact (first.ensures.bind fun _ => .map second.ensures _).imp fun h => .or h.1 h.2
  | .not inner => (Ensures.map inner.ensures _).imp .not
  | .isNull reference =>
    (Ensures.map (.lift reference.guarded_render) _).imp fun _ => .isNull reference
  | .isNotNull reference =>
    (Ensures.map (.lift reference.guarded_render) _).imp fun _ => .isNotNull reference
  | .isIn reference values => Predicate.ensures_isIn reference values
  | .stringMatch reference kind v =>
    (Predicate.ensures_stringMatch reference kind v).imp (.stringMatch reference)
  | .existsPattern pattern => by
    rw [Predicate.render]
    refine (Ensures.absorbed ((pattern.ensures []).bind fun _ =>
      .map pattern.ensures_filters _) fun _ => .pure _ trivial).imp ?_
    rintro ⟨hpattern, hfilters⟩
    exact .existsPattern (hpattern hfilters)
  | .existsQuery clauses => by
    rw [Predicate.render]
    refine (SubqueryKind.exists.ensures_nested clauses []
      (ensuresFrom clauses 0 "").nested).imp ?_
    rintro ⟨hne, _, hclauses⟩
    exact .existsQuery hne hclauses
  | .literal value => .pure _ (.literal value)
  | .custom text bindings =>
    (Predicate.ensures_custom text bindings).imp fun _ => .custom text bindings

theorem ensures_filter : (filter : Option Predicate) →
    Ensures (renderFilter config filter)
      (∀ predicate ∈ filter, predicate.WellFormed config.acceptsRegex)
  | none => .pure [] fun _ hmem => by cases hmem
  | some predicate =>
    (Ensures.map predicate.ensures _).imp fun hpredicate _ hmem => by cases hmem; exact hpredicate

theorem ensures_properties (head : Head) : (properties : List (String × Expr)) →
    Ensures (renderProperties config head properties)
      (∀ property ∈ properties, property.2.WellFormed config.acceptsRegex)
  | [] => .pure [] (List.forall_mem_nil _)
  | (name, expr) :: properties => by
    have hvalue : Ensures (match expr.value? with
        | some v => bindInline config head.aliasName (head.columnFor name) v
        | none => expr.render config) (expr.WellFormed config.acceptsRegex) := by
      cases expr with
      | value v => exact (ensures_inline ..).imp fun _ => .value v
      | _ => exact Expr.ensures _
    rw [renderProperties]
    exact .cons (hvalue.inlineProperty _) fun _ => .map (ensures_properties head properties) _

/-- The condition that is attached to a node is not written with it. -/
theorem NodePattern.ensures (further : List (String × Value)) : (node : NodePattern) →
    Ensures (node.render config further)
      ((∀ predicate ∈ node.filters, predicate.WellFormed config.acceptsRegex) →
        node.WellFormed config.acceptsRegex)
  | .mk head properties filter => by
    rw [NodePattern.render]
    refine ((Ensures.lift head.guarded_render).bind fun _ =>
      (ensures_properties head properties).followed fun _ =>
        .map (ensures_pairs head further) _).imp ?_
    rintro ⟨halias, hproperties⟩ hfilters
    exact .mk halias hproperties (NodePattern.forall_filters.mp hfilters)

theorem NodePattern.ensures_filters : (node : NodePattern) →
    Ensures (node.renderFilters config)
      (∀ predicate ∈ node.filters, predicate.WellFormed config.acceptsRegex)
  | .mk _ _ filter => (ensures_filter filter).imp NodePattern.forall_filters.mpr

/-- The conditions in a pattern are written behind all patterns of a clause. Without them a pattern
    is well-formed only if they are. -/
theorem Pattern.ensures (further : List (String × Value)) : (pattern : Pattern) →
    Ensures (pattern.render config further)
      ((∀ predicate ∈ pattern.filters, predicate.WellFormed config.acceptsRegex) →
        pattern.WellFormed config.acceptsRegex)
  | .node node => (node.ensures further).imp fun hnode hfilters => .node (hnode hfilters)
  | .edge source head direction properties filter target => by
    rw [Pattern.render]
    refine ((source.ensures []).bind fun _ => (Ensures.lift head.guarded_render).bind fun _ =>
      (ensures_properties head properties).bind fun _ => (ensures_pairs head further).skip fun _ =>
        .map (target.ensures []) _).imp ?_
    rintro ⟨hsource, halias, hproperties, htarget⟩ hfilters
    simp only [Pattern.filters, List.forall_mem_append, Option.mem_toList] at hfilters
    obtain ⟨⟨hbefore, hfilter⟩, hafter⟩ := hfilters
    exact .edge direction (hsource hbefore) halias hproperties hfilter (htarget hafter)
  | .path aliasName source label direction hops target => by
    rw [Pattern.render]
    refine ((Ensures.lift hops.guarded_render).bind fun _ => (source.ensures []).bind fun _ =>
      (Ensures.lift (Head.guarded_labelText label)).skip fun _ =>
        (target.ensures []).bind (q := Name.IsAlias aliasName) fun _ => ?_).imp ?_
    -- The alias of a path is written last, and only if there is one.
    · split
      · rename_i hempty
        exact .pure _ (.inl (by simpa using hempty))
      · exact (Ensures.map (.lift (Name.guarded_checkAlias ..)) _).imp .inr
    · rintro ⟨hhops, hsource, htarget, halias⟩ hfilters
      simp only [Pattern.filters, List.forall_mem_append] at hfilters
      obtain ⟨hbefore, hafter⟩ := hfilters
      exact .path label direction halias (hsource hbefore) hhops (htarget hafter)

theorem Pattern.ensures_filters : (pattern : Pattern) →
    Ensures (pattern.renderFilters config)
      (∀ predicate ∈ pattern.filters, predicate.WellFormed config.acceptsRegex)
  | .node node => node.ensures_filters
  | .edge source head direction properties filter target => by
    rw [Pattern.renderFilters]
    refine (source.ensures_filters.bind fun _ => (ensures_filter filter).bind fun _ =>
      .map target.ensures_filters _).imp ?_
    rintro ⟨hbefore, hfilter, hafter⟩
    simp only [Pattern.filters, List.forall_mem_append, Option.mem_toList]
    exact ⟨⟨hbefore, hfilter⟩, hafter⟩
  | .path aliasName source label direction hops target => by
    rw [Pattern.renderFilters]
    exact (source.ensures_filters.bind fun _ => .map target.ensures_filters _).imp
      List.forall_mem_append.mpr

theorem ensures_patterns : (patterns : List Pattern) →
    Ensures (renderPatterns config patterns) (∀ pattern ∈ patterns,
      (∀ predicate ∈ pattern.filters, predicate.WellFormed config.acceptsRegex) →
        pattern.WellFormed config.acceptsRegex)
  | [] => .pure [] (List.forall_mem_nil _)
  | pattern :: patterns => by
    rw [renderPatterns]
    exact .cons (pattern.ensures []) fun _ => .map (ensures_patterns patterns) _

theorem ensures_allFilters : (patterns : List Pattern) →
    Ensures (renderAllFilters config patterns)
      (∀ pattern ∈ patterns, ∀ predicate ∈ pattern.filters,
        predicate.WellFormed config.acceptsRegex)
  | [] => .pure [] (List.forall_mem_nil _)
  | pattern :: patterns => by
    rw [renderAllFilters]
    exact .cons pattern.ensures_filters fun _ => .map (ensures_allFilters patterns) _

theorem ensures_created : (patterns : List Pattern) →
    Ensures (renderCreated config patterns)
      (∀ pattern ∈ patterns,
        (pattern.IsPlain ∧ pattern.HasEnds) ∧ pattern.WellFormed config.acceptsRegex)
  | [] => .pure [] (List.forall_mem_nil _)
  | pattern :: patterns => by
    rw [renderCreated]
    refine ((Ensures.lift pattern.guarded_checkCreate).bind fun _ =>
      (pattern.ensures []).bind fun _ => .map (ensures_created patterns) _).imp ?_
    rintro ⟨hcreated, hpattern, hpatterns⟩
    exact List.forall_mem_cons.mpr ⟨⟨hcreated, hcreated.1.wellFormed hpattern⟩, hpatterns⟩

theorem ensures_items : (items : List ReturnItem) →
    Ensures (renderItems config items)
      (∀ item ∈ items, item.expr.WellFormed config.acceptsRegex)
  | [] => .pure [] (List.forall_mem_nil _)
  | .mk expr name :: items => by
    rw [renderItems]
    exact .cons expr.ensures fun _ => (Ensures.lift (ReturnItem.guarded_nameText name)).skip
      fun _ => .map (ensures_items items) _

theorem ensures_keys : (keys : List OrderKey) →
    Ensures (renderKeys config keys) (∀ key ∈ keys, key.expr.WellFormed config.acceptsRegex)
  | [] => .pure [] (List.forall_mem_nil _)
  | .mk expr isDescending :: keys => by
    rw [renderKeys]
    exact .cons expr.ensures fun _ => .map (ensures_keys keys) _

theorem Projection.ensures (keyword : String) : (projection : Projection) →
    Ensures (projection.render config keyword)
      (∀ expr ∈ projection.exprs, expr.WellFormed config.acceptsRegex)
  | .mk items isDistinct order skip limit => by
    unfold Projection.render
    refine Ensures.imp (.unless_fail ((ensures_items items).bind fun _ =>
      .map (ensures_keys order) _)) ?_
    rintro ⟨_, hitems, hkeys⟩
    simp only [Projection.exprs, List.forall_mem_append, List.forall_mem_map]
    exact ⟨hitems, hkeys⟩

theorem ensures_options : (options : List (String × Expr)) →
    Ensures (renderOptions config options)
      (∀ option ∈ options, option.2.WellFormed config.acceptsRegex)
  | [] => .pure [] (List.forall_mem_nil _)
  | (name, expr) :: options => by
    rw [renderOptions]
    refine Ensures.imp (.unless_fail (expr.ensures.bind fun _ =>
      .map (ensures_options options) _)) ?_
    rintro ⟨_, hexpr, hoptions⟩
    exact List.forall_mem_cons.mpr ⟨hexpr, hoptions⟩

theorem Clause.ensures : (clause : Clause) →
    Ensures (clause.render config) (clause.WellFormed config.acceptsRegex)
  | .matching isOptional patterns filter => by
    rw [Clause.render]
    refine Ensures.imp (.unless_fail ((ensures_patterns patterns).bind fun _ =>
      (ensures_allFilters patterns).bind fun _ => .map (ensures_filter filter) _)) ?_
    rintro ⟨_, hpatterns, hattached, hfilter⟩
    exact .matching isOptional (fun pattern hmem =>
      hpatterns pattern hmem (hattached pattern hmem)) hfilter
  | .create patterns => by
    rw [Clause.render]
    refine Ensures.imp (.unless_fail (.map (ensures_created patterns) _)) ?_
    rintro ⟨_, hcreated⟩
    exact .create (fun pattern hmem => (hcreated pattern hmem).1)
      fun pattern hmem => (hcreated pattern hmem).2
  | .merge pattern matchOn onCreate onMatch => by
    rw [Clause.render]
    refine ((Ensures.lift pattern.guarded_checkMerge).bind fun _ =>
      (pattern.ensures matchOn).followed fun _ => (pattern.ensures_branch ..).skip fun _ =>
        .map (pattern.ensures_branch ..) _).imp ?_
    rintro ⟨hplain, hpattern⟩
    exact .merge matchOn onCreate onMatch hplain (hplain.wellFormed hpattern)
  | .set assignments => by
    rw [Clause.render]
    exact Ensures.imp (.unless_fail (.map (.mapM assignments Assignment.ensures) _))
      fun _ => .set assignments
  | .delete isDetach aliases => by
    rw [Clause.render]
    exact Ensures.imp (.unless_fail (.map (.forM aliases fun _ => Name.guarded_checkAlias ..) _))
      fun _ => .delete isDetach aliases
  | .filter predicate => (Ensures.map predicate.ensures _).imp .filter
  | .returning projection => (projection.ensures "RETURN").imp .returning
  | .passing projection filter => by
    rw [Clause.render]
    refine ((projection.ensures "WITH").bind fun _ => .map (ensures_filter filter) _).imp ?_
    rintro ⟨hexprs, hfilter⟩
    exact .passing hexprs hfilter
  | .unwind source aliasName => by
    rw [Clause.render]
    exact ((Ensures.lift (Name.guarded_checkAlias ..)).skip fun _ => .map source.ensures _).imp
      fun _ => .unwind source aliasName
  | .call procedure arguments options yields filter => by
    rw [Clause.render]
    refine ((Ensures.lift (Name.guarded_checkProcedure ..)).skip fun _ =>
      (ensures_exprs arguments).bind fun _ => (ensures_options options).bind fun _ =>
        (Ensures.forM yields fun _ => Name.guarded_checkAlias ..).skip fun _ =>
          .unless_fail (.map (ensures_filter filter) _)).imp ?_
    rintro ⟨harguments, hoptions, _, hfilter⟩
    exact .call procedure yields harguments hoptions hfilter
  | .subquery kind clauses yields => by
    rw [Clause.render]
    refine Ensures.imp (.unless_fail
      (kind.ensures_nested clauses yields (ensuresFrom clauses 0 "").nested)) ?_
    rintro ⟨hkind, hne, _, hclauses⟩
    obtain rfl : kind = .call := by simpa using hkind
    exact .subquery yields hne hclauses
  | .vectorSearch search filter order => by
    rw [Clause.render]
    refine (search.ensures_call.bind fun _ => (ensures_filter filter).bind fun _ =>
      .map (ensures_keys order) _).imp ?_
    rintro ⟨hsearch, hfilter, horder⟩
    exact .vectorSearch hsearch hfilter horder

theorem ensuresFrom : (clauses : List Clause) → (position : Nat) → (text : String) →
    Ensures (renderFrom config false position text clauses)
      (∀ clause ∈ clauses, clause.WellFormed config.acceptsRegex)
  | [], _, text => .pure text (List.forall_mem_nil _)
  | clause :: clauses, position, text => by
    rw [renderFrom]
    exact .cons (clause.ensures.absorbed fun _ => .pure _ trivial) fun next =>
      ensuresFrom clauses (position + 1) (Fragment.joinTexts text next)

end

end GraphQuery
