import GraphQuery.Proofs.Template.Clause

namespace GraphQuery

open Template Statement

variable {config : Config} {before after : Scope}

/-- What is written for clauses behind a text: every clause is written for its own template, and
    joined to the text of those before it. -/
def WritesFrom (config : Config) (clauses : List Clause) : Prop :=
  ∀ isTop position front before text after,
    renderFrom config isTop position front clauses before = .ok text after →
      ∃ texts, WrittenAll config (clauseTemplates config clauses) before texts after ∧
        text = texts.foldl Fragment.joinTexts front

theorem foldl_joinTexts {texts : List String} {front : String} (hfront : front ≠ "")
    (hne : ∀ text ∈ texts, text ≠ "") :
    texts.foldl Fragment.joinTexts front = " ".intercalate (front :: texts) := by
  induction texts generalizing front with
  | nil => rw [List.foldl_nil, String.intercalate_singleton]
  | cons text texts ih =>
    have htext := hne text List.mem_cons_self
    have hjoin : Fragment.joinTexts front text = front ++ " " ++ text := by
      rw [Fragment.joinTexts, if_neg (by simpa using htext), if_neg (by simpa using hfront)]
    have hboth : front ++ " " ++ text ≠ "" := append_ne_empty _ (append_ne_empty _ hfront)
    rw [List.foldl_cons, hjoin,
      ih hboth fun other hmem => hne other (List.mem_cons_of_mem text hmem)]
    cases texts with
    | nil => simp
    | cons => simp [String.intercalate_cons_cons, String.append_assoc]

/-- The texts of clauses are joined by single spaces, because none of them is empty. -/
theorem WrittenAll.clauses {clauses : List Clause} {texts : List String}
    (hwritten : WrittenAll config (clauseTemplates config clauses) before texts after) :
    Written config (Template.separated " " (clauseTemplates config clauses)) before
      (texts.foldl Fragment.joinTexts "") after := by
  have hne : ∀ text ∈ texts, text ≠ "" := by
    generalize htemplates : clauseTemplates config clauses = templates at hwritten
    induction hwritten generalizing clauses with
    | nil => simp
    | cons hfirst hrest ih =>
      cases clauses with
      | nil => cases htemplates
      | cons clause clauses =>
        rw [clauseTemplates] at htemplates
        cases htemplates
        intro text hmem
        rcases List.mem_cons.mp hmem with rfl | hmem
        · rw [hfirst.text_eq]
          exact clause.fill_template_ne_empty config _ _
        · exact ih rfl text hmem
  have hjoin : texts.foldl Fragment.joinTexts "" = " ".intercalate texts := by
    cases texts with
    | nil => simp
    | cons text texts =>
      have htext := hne text List.mem_cons_self
      rw [List.foldl_cons, Fragment.joinTexts, if_neg (by simpa using htext), if_pos (by decide)]
      exact foldl_joinTexts htext fun other hmem => hne other (List.mem_cons_of_mem text hmem)
  rw [hjoin]
  exact hwritten.separated (silent_of_bare " " rfl) rfl

/-- The clauses of a query within a query are checked before any of them is written. -/
theorem WritesFrom.nested {clauses : List Clause} (hclauses : WritesFrom config clauses) :
    Writes config
      (do
        validateAll clauses
        renderFrom config false 0 "" clauses)
      (separated " " (clauseTemplates config clauses)) := by
  intro before text after hrender
  simp only [RenderM.bind_eq_ok, RenderM.lift_eq_ok] at hrender
  obtain ⟨_, _, ⟨_, rfl⟩, hrender⟩ := hrender
  obtain ⟨texts, hwritten, rfl⟩ := hclauses _ _ _ _ _ _ hrender
  exact hwritten.clauses

/-- A condition in braces behind EXISTS is a part with parameters of its own. -/
theorem Written.existsPattern {template : Template} {part : RenderM String} {fragment : Fragment}
    {middle : Scope} (hpart : Writes config part template)
    (hisolated : Scope.isolated part before = .ok fragment middle)
    (habsorb : Scope.absorb fragment.bindings middle = .ok () after) :
    Written config (SubqueryKind.exists.template [] template) before
      (SubqueryKind.exists.enclose fragment.text) after := by
  have hyields : ∀ name ∈ ([] : List String), Name.isIdentifier name = true := by simp
  have hwritten := SubqueryKind.exists.writes_enclose
    (Written.isolated hpart hisolated habsorb) hyields
  simpa [GraphQuery.yieldText] using hwritten

/-- The alias and the label of a node or an edge, and its inline properties. -/
theorem Written.head {head : Head} {text : String} {templates : List Template}
    {texts : List String} (hhead : head.render = .ok text)
    (hproperties : WrittenAll config templates before texts after) :
    Written config (Template.checked head.render ++ inlineTemplate templates) before
      (text ++ inlineText texts) after :=
  (Written.checked hhead (Head.of_render hhead).1).append hproperties.inlineText
    (detached_inlineTemplate _)

theorem NodePattern.detached_template (further : List (String × Value)) (node : NodePattern) :
    Detached (node.template config further) := by
  cases node
  exact detached_text _ rfl

mutual

theorem Expr.writes : (expr : Expr) → Writes config (expr.render config) (expr.template config)
  | .named name => by
    intro before text after hrender
    simp only [Expr.render, RenderM.bind_eq_ok, RenderM.lift_eq_ok, RenderM.pure_eq_ok] at hrender
    obtain ⟨_, _, ⟨hname, rfl⟩, rfl, rfl⟩ := hrender
    exact Written.text (silent_of_isIdentifier (Name.isIdentifier_of_checkAlias hname))
  | .property reference => by
    intro before text after hrender
    obtain ⟨hreference, rfl⟩ := RenderM.lift_eq_ok.mp hrender
    exact Written.reference hreference
  | .value v => fun _ _ _ hrender => Written.value hrender
  | .parameter name => by
    intro before text after hrender
    obtain ⟨hname, rfl⟩ := RenderM.lift_eq_ok.mp hrender
    exact Written.caller hname
  | .function name arguments => by
    intro before text after hrender
    simp only [Expr.render, RenderM.bind_eq_ok, RenderM.lift_eq_ok, RenderM.pure_eq_ok] at hrender
    obtain ⟨_, _, ⟨hname, rfl⟩, texts, _, harguments, rfl, rfl⟩ := hrender
    have hinner := (writesAll_exprs arguments _ _ _ harguments).commaJoin
    have hcall := (hinner.enclosed (silent_of_bare "(" rfl) (silent_of_bare ")" rfl) rfl).text_cons
      (silent_of_isProcedure (Name.isProcedure_of_checkProcedure hname))
    simpa only [Expr.template, String.append_assoc] using hcall
  | .aggregate aggregate argument isDistinct => by
    intro before text after hrender
    simp only [Expr.render, RenderM.bind_eq_ok] at hrender
    obtain ⟨text?, _, hargument, hrender⟩ := hrender
    have hfront : Silent (aggregate.name ++ "(" ++ if isDistinct then "DISTINCT " else "") := by
      refine silent_of_bare _ ?_
      cases aggregate <;> cases isDistinct <;> decide
    have hwritten := (written_argument argument hargument).enclosed hfront
      (silent_of_bare ")" rfl) rfl
    rw [Expr.template]
    cases text? with
    | none =>
      by_cases hcount : aggregate = .count
      · simp only [hcount, if_true, RenderM.bind_eq_ok, RenderM.pure_eq_ok] at hrender hwritten ⊢
        obtain ⟨_, _, ⟨rfl, rfl⟩, rfl, rfl⟩ := hrender
        exact hwritten
      · simp only [hcount, if_false, RenderM.bind_eq_ok] at hrender
        obtain ⟨_, _, hfail, _⟩ := hrender
        exact absurd hfail RenderM.fail_ne_ok
    | some argument =>
      simp only [RenderM.bind_eq_ok, RenderM.pure_eq_ok] at hrender
      obtain ⟨_, _, ⟨rfl, rfl⟩, rfl, rfl⟩ := hrender
      exact hwritten
  | .subquery kind clauses yields => by
    rw [Expr.render, Expr.template]
    exact SubqueryKind.writes_nested (writesFrom clauses).nested
  | .raw text => by
    intro before written after hrender
    simp only [Expr.render, RenderM.unless_fail_eq_ok, RenderM.pure_eq_ok] at hrender
    obtain ⟨_, rfl, rfl⟩ := hrender
    exact Written.verbatim rfl (Bindings.Extends.refl _)

theorem writesAll_exprs :
    (exprs : List Expr) → WritesAll config (renderExprs config exprs) (exprTemplates config exprs)
  | [] => WritesAll.nil
  | expr :: exprs => by
    rw [renderExprs, exprTemplates]
    exact WritesAll.cons expr.writes (writesAll_exprs exprs)

theorem written_argument : (argument : Option Expr) → ∀ {before text? after},
    renderArgument config argument before = .ok text? after →
      Written config (argumentTemplate config argument) before (text?.getD "*") after
  | none => by
    intro hrender
    obtain ⟨rfl, rfl⟩ := RenderM.pure_eq_ok.mp hrender
    exact Written.text (silent_of_bare _ rfl)
  | some expr => by
    intro hrender
    simp only [renderArgument, RenderM.bind_eq_ok, RenderM.pure_eq_ok] at hrender
    obtain ⟨text, _, hexpr, rfl, rfl⟩ := hrender
    exact expr.writes _ _ _ hexpr

theorem Predicate.writes :
    (predicate : Predicate) → Writes config (predicate.render config) (predicate.template config)
  | .compare reference comparison operand => by
    intro before text after hrender
    simp only [Predicate.render, RenderM.bind_eq_ok, RenderM.lift_eq_ok, RenderM.pure_eq_ok]
      at hrender
    obtain ⟨left, _, ⟨hleft, rfl⟩, right, _, hright, rfl, rfl⟩ := hrender
    have hoperator : Silent (" " ++ comparison.symbol ++ " ") := by
      refine silent_of_bare _ ?_
      cases comparison <;> decide
    have hbreaks : breaksOff (" " ++ comparison.symbol ++ " ") = true := by
      cases comparison <;> decide
    have hreference : Written config (checked reference.render) before left before :=
      Written.reference hleft
    have hwritten := hreference.append ((Operand.written hright).text_cons hoperator)
      (detached_text _ hbreaks)
    simpa only [Predicate.template, String.append_assoc] using hwritten
  | .and first second => by
    intro before text after hrender
    simp only [Predicate.render, RenderM.bind_eq_ok, RenderM.pure_eq_ok] at hrender
    obtain ⟨left, _, hleft, right, _, hright, rfl, rfl⟩ := hrender
    rw [Predicate.template]
    exact Written.joined (first.writes _ _ _ hleft) (second.writes _ _ _ hright)
      (silent_of_bare ") AND (" rfl) rfl
  | .or first second => by
    intro before text after hrender
    simp only [Predicate.render, RenderM.bind_eq_ok, RenderM.pure_eq_ok] at hrender
    obtain ⟨left, _, hleft, right, _, hright, rfl, rfl⟩ := hrender
    rw [Predicate.template]
    exact Written.joined (first.writes _ _ _ hleft) (second.writes _ _ _ hright)
      (silent_of_bare ") OR (" rfl) rfl
  | .not inner => by
    intro before text after hrender
    simp only [Predicate.render, RenderM.bind_eq_ok, RenderM.pure_eq_ok] at hrender
    obtain ⟨condition, _, hinner, rfl, rfl⟩ := hrender
    rw [Predicate.template]
    exact (inner.writes _ _ _ hinner).enclosed (silent_of_bare "NOT (" rfl)
      (silent_of_bare ")" rfl) rfl
  | .isNull reference => by
    intro before text after hrender
    simp only [Predicate.render, RenderM.bind_eq_ok, RenderM.lift_eq_ok, RenderM.pure_eq_ok]
      at hrender
    obtain ⟨column, _, ⟨hcolumn, rfl⟩, rfl, rfl⟩ := hrender
    rw [Predicate.template]
    exact (Written.reference hcolumn).append_text (silent_of_bare _ rfl) rfl
  | .isNotNull reference => by
    intro before text after hrender
    simp only [Predicate.render, RenderM.bind_eq_ok, RenderM.lift_eq_ok, RenderM.pure_eq_ok]
      at hrender
    obtain ⟨column, _, ⟨hcolumn, rfl⟩, rfl, rfl⟩ := hrender
    rw [Predicate.template]
    exact (Written.reference hcolumn).append_text (silent_of_bare _ rfl) rfl
  | .isIn reference values => by
    rw [Predicate.render, Predicate.template]
    exact Predicate.writes_isIn reference values
  | .stringMatch reference kind value => by
    rw [Predicate.render, Predicate.template]
    exact Predicate.writes_stringMatch reference kind value
  | .existsPattern pattern => by
    intro before text after hrender
    simp only [Predicate.render, RenderM.bind_eq_ok, RenderM.pure_eq_ok] at hrender
    obtain ⟨fragment, _, hisolated, _, _, habsorb, rfl, rfl⟩ := hrender
    rw [Predicate.template]
    refine Written.existsPattern (fun before text after hpart => ?_) hisolated habsorb
    simp only [RenderM.bind_eq_ok, RenderM.pure_eq_ok] at hpart
    obtain ⟨body, _, hbody, filters, _, hfilters, rfl, rfl⟩ := hpart
    rw [String.append_assoc]
    exact ((pattern.writes [] _ _ _ hbody).append
      (pattern.writesAll_filters _ _ _ hfilters).whereText
        (detached_whereTemplate _)).text_cons (silent_of_bare _ rfl)
  | .existsQuery clauses => by
    rw [Predicate.render, Predicate.template]
    exact SubqueryKind.writes_nested (writesFrom clauses).nested
  | .literal value => by
    intro before text after hrender
    simp only [Predicate.render, RenderM.pure_eq_ok] at hrender
    obtain ⟨rfl, rfl⟩ := hrender
    rw [Predicate.template]
    refine Written.text (silent_of_bare _ ?_)
    cases value <;> decide
  | .custom text bindings => by
    rw [Predicate.render, Predicate.template]
    exact Predicate.writes_custom text bindings

theorem writesAll_filter : (filter : Option Predicate) →
    WritesAll config (renderFilter config filter) (filterTemplates config filter)
  | none => WritesAll.nil
  | some predicate => by
    intro before texts after hrender
    simp only [renderFilter, RenderM.bind_eq_ok, RenderM.pure_eq_ok] at hrender
    obtain ⟨text, _, hpredicate, rfl, rfl⟩ := hrender
    exact .cons (predicate.writes _ _ _ hpredicate) .nil

/-- An inline property that is a value is bound to the name of its alias and column, which needs
    the alias to be checked before. -/
theorem writesAll_properties {head : Head}
    (halias : head.aliasName.isEmpty = false → Name.isIdentifier head.aliasName = true) :
    (properties : List (String × Expr)) →
      WritesAll config (renderProperties config head properties)
        (propertyTemplates config head properties)
  | [] => WritesAll.nil
  | (name, expr) :: properties => by
    rw [renderProperties, propertyTemplates]
    refine WritesAll.cons (fun before text after hrender => ?_)
      (writesAll_properties halias properties)
    refine Written.inlineProperty (fun before text after hvalue => ?_) hrender
    cases hexpr : expr.value? with
    | some v =>
      rw [hexpr] at hvalue
      exact Written.inlineValue halias hvalue
    | none =>
      rw [hexpr] at hvalue
      exact expr.writes _ _ _ hvalue

theorem NodePattern.writes (further : List (String × Value)) : (node : NodePattern) →
    Writes config (node.render config further) (node.template config further)
  | .mk head properties filter => by
    intro before text after hrender
    simp only [NodePattern.render, RenderM.bind_eq_ok, RenderM.lift_eq_ok, RenderM.pure_eq_ok]
      at hrender
    obtain ⟨front, _, ⟨hhead, rfl⟩, own, _, hown, more, _, hmore, rfl, rfl⟩ := hrender
    have halias := (Head.of_render hhead).2
    have hproperties := (writesAll_properties halias properties _ _ _ hown).append
      (writesAll_pairs halias further _ _ _ hmore)
    have hnode := (Written.head hhead hproperties).enclosed (silent_of_bare "(" rfl)
      (silent_of_bare ")" rfl) rfl
    simpa only [NodePattern.template, String.append_assoc] using hnode

theorem NodePattern.writesAll_filters : (node : NodePattern) →
    WritesAll config (node.renderFilters config) (node.filterTemplates config)
  | .mk head properties filter => by
    rw [NodePattern.renderFilters, NodePattern.filterTemplates]
    exact writesAll_filter filter

theorem Pattern.writes (further : List (String × Value)) : (pattern : Pattern) →
    Writes config (pattern.render config further) (pattern.template config further)
  | .node node => by
    rw [Pattern.render, Pattern.template]
    exact node.writes further
  | .edge source head direction properties filter target => by
    intro before text after hrender
    simp only [Pattern.render, RenderM.bind_eq_ok, RenderM.lift_eq_ok, RenderM.pure_eq_ok]
      at hrender
    obtain ⟨first, _, hsource, front, _, ⟨hhead, rfl⟩, own, _, hown, more, _, hmore, last, _,
      htarget, rfl, rfl⟩ := hrender
    have halias := (Head.of_render hhead).2
    have hproperties := (writesAll_properties halias properties _ _ _ hown).append
      (writesAll_pairs halias further _ _ _ hmore)
    have hdetached : Detached (target.template config []) := target.detached_template []
    have hedge := (direction.written (Written.head hhead hproperties)).append
      (target.writes [] _ _ _ htarget) hdetached
    rw [Pattern.template, String.append_assoc]
    exact (source.writes [] _ _ _ hsource).append hedge
      ((direction.detached_template _).append hdetached)
  | .path aliasName source label direction hops target => by
    intro before text after hrender
    simp only [Pattern.render, RenderM.bind_eq_ok, RenderM.lift_eq_ok] at hrender
    obtain ⟨range, _, ⟨hrange, rfl⟩, first, _, hsource, front, _, ⟨hlabel, rfl⟩, last, _, htarget,
      hrender⟩ := hrender
    have hinner : ∀ before, Written config
        (checked (Head.labelText label) ++ checked hops.render) before (front ++ range) before := by
      intro before
      refine (Written.checked hlabel (Head.silent_of_labelText hlabel)).append
        (Written.checked hrange (Hops.silent_of_render hrange)) ?_
      rw [hrange]
      exact detached_text [] (Hops.breaksOff_of_render hrange)
    have hdetached : Detached (target.template config []) := target.detached_template []
    have hbody := (source.writes [] _ _ _ hsource).append
      ((direction.written (hinner _)).append (target.writes [] _ _ _ htarget) hdetached)
        ((direction.detached_template _).append hdetached)
    rw [← String.append_assoc] at hbody
    rw [Pattern.template]
    by_cases hempty : aliasName.isEmpty = true
    · rw [if_pos hempty] at hrender ⊢
      obtain ⟨rfl, rfl⟩ := RenderM.pure_eq_ok.mp hrender
      exact hbody
    · rw [if_neg hempty] at hrender ⊢
      simp only [RenderM.bind_eq_ok, RenderM.lift_eq_ok, RenderM.pure_eq_ok] at hrender
      obtain ⟨_, _, ⟨halias, rfl⟩, rfl, rfl⟩ := hrender
      exact hbody.text_cons ((silent_of_isIdentifier
        (Name.isIdentifier_of_checkAlias halias)).append (silent_of_bare _ rfl))

theorem Pattern.writesAll_filters : (pattern : Pattern) →
    WritesAll config (pattern.renderFilters config) (pattern.filterTemplates config)
  | .node node => by
    rw [Pattern.renderFilters, Pattern.filterTemplates]
    exact node.writesAll_filters
  | .edge source head direction properties filter target => by
    intro before texts after hrender
    simp only [Pattern.renderFilters, RenderM.bind_eq_ok, RenderM.pure_eq_ok] at hrender
    obtain ⟨first, _, hsource, own, _, hown, last, _, htarget, rfl, rfl⟩ := hrender
    rw [Pattern.filterTemplates]
    exact ((source.writesAll_filters _ _ _ hsource).append
      (writesAll_filter filter _ _ _ hown)).append (target.writesAll_filters _ _ _ htarget)
  | .path aliasName source label direction hops target => by
    rw [Pattern.renderFilters, Pattern.filterTemplates]
    exact source.writesAll_filters.append target.writesAll_filters

theorem writesAll_patterns : (patterns : List Pattern) →
    WritesAll config (renderPatterns config patterns) (patternTemplates config patterns)
  | [] => WritesAll.nil
  | pattern :: patterns => by
    rw [renderPatterns, patternTemplates]
    exact WritesAll.cons (pattern.writes []) (writesAll_patterns patterns)

theorem writesAll_allFilters : (patterns : List Pattern) →
    WritesAll config (renderAllFilters config patterns) (allFilterTemplates config patterns)
  | [] => WritesAll.nil
  | pattern :: patterns => by
    rw [renderAllFilters, allFilterTemplates]
    exact pattern.writesAll_filters.append (writesAll_allFilters patterns)

theorem writesAll_created : (patterns : List Pattern) →
    WritesAll config (renderCreated config patterns) (patternTemplates config patterns)
  | [] => WritesAll.nil
  | pattern :: patterns => by
    intro before texts after hrender
    simp only [renderCreated, RenderM.bind_eq_ok, RenderM.lift_eq_ok, RenderM.pure_eq_ok]
      at hrender
    obtain ⟨_, _, ⟨_, rfl⟩, text, _, hpattern, rest, _, hrest, rfl, rfl⟩ := hrender
    exact .cons (pattern.writes [] _ _ _ hpattern) (writesAll_created patterns _ _ _ hrest)

theorem writesAll_items : (items : List ReturnItem) →
    WritesAll config (renderItems config items) (itemTemplates config items)
  | [] => WritesAll.nil
  | .mk expr name :: items => by
    intro before texts after hrender
    simp only [renderItems, RenderM.bind_eq_ok, RenderM.lift_eq_ok, RenderM.pure_eq_ok] at hrender
    obtain ⟨text, _, hexpr, naming, _, ⟨hname, rfl⟩, rest, _, hrest, rfl, rfl⟩ := hrender
    exact .cons ((expr.writes _ _ _ hexpr).append_nameText hname)
      (writesAll_items items _ _ _ hrest)

theorem writesAll_keys : (keys : List OrderKey) →
    WritesAll config (renderKeys config keys) (keyTemplates config keys)
  | [] => WritesAll.nil
  | .mk expr isDescending :: keys => by
    intro before texts after hrender
    simp only [renderKeys, RenderM.bind_eq_ok, RenderM.pure_eq_ok] at hrender
    obtain ⟨text, _, hexpr, rest, _, hrest, rfl, rfl⟩ := hrender
    have hsilent : Silent (if isDescending then " DESC" else " ASC") := by
      refine silent_of_bare _ ?_
      cases isDescending <;> decide
    have hbreaks : breaksOff (if isDescending then " DESC" else " ASC") = true := by
      cases isDescending <;> decide
    exact .cons ((expr.writes _ _ _ hexpr).append_text hsilent hbreaks)
      (writesAll_keys keys _ _ _ hrest)

theorem Projection.writes {keyword : String} (hkeyword : Silent keyword) :
    (projection : Projection) →
      Writes config (projection.render config keyword) (projection.template config keyword)
  | .mk items isDistinct order skip limit => by
    intro before text after hrender
    simp only [Projection.render, RenderM.unless_fail_eq_ok, RenderM.bind_eq_ok,
      RenderM.pure_eq_ok] at hrender
    obtain ⟨_, texts, _, hitems, keys, _, hkeys, rfl, rfl⟩ := hrender
    have hfront : Silent (keyword ++ if isDistinct then " DISTINCT " else " ") := by
      refine hkeyword.append (silent_of_bare _ ?_)
      cases isDistinct <;> decide
    have hrows := (writesAll_items items _ _ _ hitems).commaJoin.append
      (writesAll_keys order _ _ _ hkeys).orderText (detached_orderTemplate _)
    have hprojection := (hrows.append_limits skip limit).text_cons hfront
    simp only [Projection.template, String.append_assoc, List.append_assoc] at hprojection ⊢
    exact hprojection

theorem writesAll_options : (options : List (String × Expr)) →
    WritesAll config (renderOptions config options) (optionTemplates config options)
  | [] => WritesAll.nil
  | (name, expr) :: options => by
    intro before texts after hrender
    simp only [renderOptions, RenderM.unless_fail_eq_ok, RenderM.bind_eq_ok, RenderM.pure_eq_ok]
      at hrender
    obtain ⟨hname, text, _, hexpr, rest, _, hrest, rfl, rfl⟩ := hrender
    have hname : Name.isIdentifier name = true := by simpa using hname
    exact .cons ((expr.writes _ _ _ hexpr).text_cons
      ((silent_of_isIdentifier hname).append (silent_of_bare _ rfl)))
      (writesAll_options options _ _ _ hrest)

theorem Clause.writes :
    (clause : Clause) → Writes config (clause.render config) (clause.template config)
  | .matching isOptional patterns filter => by
    intro before text after hrender
    simp only [Clause.render, RenderM.unless_fail_eq_ok, RenderM.bind_eq_ok, RenderM.pure_eq_ok]
      at hrender
    obtain ⟨_, texts, _, hpatterns, attached, _, hattached, own, _, hown, rfl, rfl⟩ := hrender
    have hfront : Silent (if isOptional then "OPTIONAL MATCH " else "MATCH ") := by
      refine silent_of_bare _ ?_
      cases isOptional <;> decide
    have hconditions := (writesAll_allFilters patterns _ _ _ hattached).append
      (writesAll_filter filter _ _ _ hown)
    rw [Clause.template, String.append_assoc]
    exact ((writesAll_patterns patterns _ _ _ hpatterns).commaJoin.append hconditions.whereText
      (detached_whereTemplate _)).text_cons hfront
  | .create patterns => by
    intro before text after hrender
    simp only [Clause.render, RenderM.unless_fail_eq_ok, RenderM.bind_eq_ok, RenderM.pure_eq_ok]
      at hrender
    obtain ⟨_, texts, _, hpatterns, rfl, rfl⟩ := hrender
    rw [Clause.template, allFilterTemplates_eq_nil_of_renderCreated hpatterns, whereTemplate,
      List.append_nil]
    exact (writesAll_created patterns _ _ _ hpatterns).commaJoin.text_cons
      (silent_of_bare _ rfl)
  | .merge pattern matchOn onCreate onMatch => by
    intro before text after hrender
    simp only [Clause.render, RenderM.bind_eq_ok, RenderM.lift_eq_ok, RenderM.pure_eq_ok]
      at hrender
    obtain ⟨_, _, ⟨hcheck, rfl⟩, body, _, hbody, created, _, hcreated, matched, _, hmatched, rfl,
      rfl⟩ := hrender
    have hbranches := (pattern.writes_branch (silent_of_bare _ rfl) onCreate _ _ _
      hcreated).append (pattern.writes_branch (silent_of_bare _ rfl) onMatch _ _ _ hmatched)
        (pattern.detached_branchTemplate _ _)
    have hdetached := (pattern.detached_branchTemplate "ON CREATE SET" onCreate).append
      (pattern.detached_branchTemplate "ON MATCH SET" onMatch)
    have hmerge := ((pattern.writes matchOn _ _ _ hbody).append hbranches hdetached).text_cons
      (silent_of_bare "MERGE " rfl)
    rw [Clause.template,
      Pattern.filterTemplates_eq_nil (Pattern.filters_eq_nil_of_checkMerge hcheck), whereTemplate,
      List.append_nil]
    simpa only [String.append_assoc] using hmerge
  | .set assignments => by
    intro before text after hrender
    simp only [Clause.render, RenderM.unless_fail_eq_ok, RenderM.bind_eq_ok, RenderM.pure_eq_ok]
      at hrender
    obtain ⟨_, texts, _, hassignments, rfl, rfl⟩ := hrender
    rw [Clause.template]
    exact (writesAll_mapM (fun assignment _ => assignment.writes) _ _ _
      hassignments).commaJoin.text_cons (silent_of_bare _ rfl)
  | .delete isDetach aliases => by
    intro before text after hrender
    simp only [Clause.render, RenderM.unless_fail_eq_ok, RenderM.bind_eq_ok, RenderM.pure_eq_ok]
      at hrender
    obtain ⟨_, _, _, hcheck, rfl, rfl⟩ := hrender
    obtain ⟨rfl, haliases⟩ := Name.isIdentifier_of_forM hcheck
    have hfront : Silent (if isDetach then "DETACH DELETE " else "DELETE ") := by
      refine silent_of_bare _ ?_
      cases isDetach <;> decide
    exact Written.text (hfront.append
      (silent_commaJoin fun name hmem => silent_of_isIdentifier (haliases name hmem)))
  | .filter predicate => by
    intro before text after hrender
    simp only [Clause.render, RenderM.bind_eq_ok, RenderM.pure_eq_ok] at hrender
    obtain ⟨condition, _, hpredicate, rfl, rfl⟩ := hrender
    exact (predicate.writes _ _ _ hpredicate).text_cons (silent_of_bare _ rfl)
  | .returning projection => by
    rw [Clause.render, Clause.template]
    exact projection.writes (silent_of_bare _ rfl)
  | .passing projection filter => by
    intro before text after hrender
    simp only [Clause.render, RenderM.bind_eq_ok, RenderM.pure_eq_ok] at hrender
    obtain ⟨rows, _, hprojection, conditions, _, hconditions, rfl, rfl⟩ := hrender
    rw [Clause.template]
    exact (projection.writes (silent_of_bare _ rfl) _ _ _ hprojection).append
      (writesAll_filter filter _ _ _ hconditions).whereText (detached_whereTemplate _)
  | .unwind source aliasName => by
    intro before text after hrender
    simp only [Clause.render, RenderM.bind_eq_ok, RenderM.lift_eq_ok, RenderM.pure_eq_ok]
      at hrender
    obtain ⟨_, _, ⟨halias, rfl⟩, list, _, hsource, rfl, rfl⟩ := hrender
    have hback := (silent_of_bare " AS " rfl).append
      (silent_of_isIdentifier (Name.isIdentifier_of_checkAlias halias))
    have hunwind := ((source.writes _ _ _ hsource).append_text hback
      (breaksOff_append _ rfl)).text_cons (silent_of_bare "UNWIND " rfl)
    simpa only [Clause.template, String.append_assoc] using hunwind
  | .call procedure arguments options yields filter => by
    intro before text after hrender
    simp only [Clause.render, RenderM.unless_fail_eq_ok, RenderM.bind_eq_ok, RenderM.lift_eq_ok,
      RenderM.pure_eq_ok] at hrender
    obtain ⟨_, _, ⟨hprocedure, rfl⟩, positional, _, hpositional, named, _, hnamed, _, _, hcheck, _,
      conditions, _, hconditions, rfl, rfl⟩ := hrender
    obtain ⟨rfl, hyields⟩ := Name.isIdentifier_of_forM hcheck
    have hfront := ((silent_of_bare "CALL " rfl).append (silent_of_isProcedure
      (Name.isProcedure_of_checkProcedure hprocedure))).append
        (silent_of_bare "(" rfl)
    have hback := (silent_of_bare ")" rfl).append (silent_yieldText hyields)
    have harguments := ((writesAll_exprs arguments _ _ _ hpositional).append
      (writesAll_options options _ _ _ hnamed)).commaJoin
    have hconditions := (writesAll_filter filter _ _ _ hconditions).whereText
    have hcall := (harguments.append (hconditions.text_cons hback)
      (detached_text _ (breaksOff_append _ rfl))).text_cons hfront
    simpa only [Clause.template, String.append_assoc] using hcall
  | .subquery kind clauses yields => by
    rw [Clause.template]
    intro before text after hrender
    simp only [Clause.render, RenderM.unless_fail_eq_ok] at hrender
    exact SubqueryKind.writes_nested (writesFrom clauses).nested _ _ _ hrender.2
  | .vectorSearch search filter order => by
    intro before text after hrender
    simp only [Clause.render, RenderM.bind_eq_ok, RenderM.pure_eq_ok] at hrender
    obtain ⟨call, _, hcall, conditions, _, hconditions, keys, _, hkeys, rfl, rfl⟩ := hrender
    obtain ⟨hcall, halias⟩ := VectorSearch.written_call hcall
    rw [Clause.template, String.append_assoc]
    exact hcall.append ((writesAll_filter filter _ _ _ hconditions).whereText.append
      (VectorSearch.written_tail halias (writesAll_keys order _ _ _ hkeys))
        (VectorSearch.detached_tailTemplate _))
      ((detached_whereTemplate _).append (VectorSearch.detached_tailTemplate _))

theorem writesFrom : (clauses : List Clause) → WritesFrom config clauses
  | [] => by
    intro isTop position front before text after hrender
    obtain ⟨rfl, rfl⟩ := RenderM.pure_eq_ok.mp hrender
    exact ⟨[], .nil, rfl⟩
  | clause :: clauses => by
    intro isTop position front before text after hrender
    simp only [renderFrom, RenderM.bind_eq_ok, RenderM.located_eq_ok, RenderM.pure_eq_ok] at hrender
    obtain ⟨next, _, ⟨fragment, _, hisolated, _, _, habsorb, rfl, rfl⟩, hrest⟩ := hrender
    obtain ⟨texts, hwritten, rfl⟩ := writesFrom clauses _ _ _ _ _ _ hrest
    have hclause := Written.isolated clause.writes hisolated habsorb
    rw [clauseTemplates]
    exact ⟨fragment.text :: texts, .cons hclause hwritten, rfl⟩

end

end GraphQuery
