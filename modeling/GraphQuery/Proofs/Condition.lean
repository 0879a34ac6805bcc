import GraphQuery.Proofs.Conflict.Render

namespace GraphQuery

variable {config : Config}

theorem renderFilter_eq (filter : Option Predicate) :
    renderFilter config filter = filter.toList.mapM (Predicate.render config) := by
  cases filter with
  | none => rfl
  | some predicate =>
    rw [renderFilter]
    simp

theorem NodePattern.renderFilters_eq (node : NodePattern) :
    node.renderFilters config = node.filters.mapM (Predicate.render config) := by
  cases node
  exact renderFilter_eq _

theorem Pattern.renderFilters_eq (pattern : Pattern) :
    pattern.renderFilters config = pattern.filters.mapM (Predicate.render config) := by
  cases pattern with
  | node node => exact node.renderFilters_eq
  | edge source head direction properties filter target =>
    simp [Pattern.renderFilters, Pattern.filters, NodePattern.renderFilters_eq, renderFilter_eq,
      List.mapM_append]
  | path aliasName source label direction hops target =>
    simp [Pattern.renderFilters, Pattern.filters, NodePattern.renderFilters_eq, List.mapM_append]

theorem renderAllFilters_eq (patterns : List Pattern) :
    renderAllFilters config patterns =
      (patterns.flatMap Pattern.filters).mapM (Predicate.render config) := by
  induction patterns with
  | nil => rfl
  | cons pattern patterns ih =>
    rw [renderAllFilters, ih, pattern.renderFilters_eq, List.flatMap_cons, List.mapM_append]

theorem renderPatterns_eq (patterns : List Pattern) :
    renderPatterns config patterns = patterns.mapM (Pattern.render config []) := by
  induction patterns with
  | nil => rfl
  | cons pattern patterns ih => rw [renderPatterns, ih, List.mapM_cons]

/-- A conjunction that is grouped from the left is written as its parts are, one after the other,
    and the texts are joined from the left. -/
theorem Predicate.render_foldl_and (first : Predicate) (rest : List Predicate) :
    (rest.foldl Predicate.and first).render config = (do
      let text ← first.render config
      let texts ← rest.mapM (Predicate.render config)
      return texts.foldl (fun all next => "(" ++ all ++ ") AND (" ++ next ++ ")") text) := by
  induction rest generalizing first with
  | nil => simp
  | cons next rest ih =>
    rw [List.foldl_cons, ih, Predicate.render]
    simp

/-- What a match writes: the patterns behind its keyword, and behind all of them the conjunction of
    the conditions as a single one, if there are any. -/
inductive Hoisted (config : Config) (keyword : String) (patterns : List Pattern)
    (conditions : List Predicate) (before : Scope) : String → Scope → Prop
  | plain {texts : List String} {after : Scope}
      (hpatterns : patterns.mapM (Pattern.render config []) before = .ok texts after)
      (hall : Predicate.all? conditions = none) :
      Hoisted config keyword patterns conditions before (keyword ++ " " ++ Text.commaJoin texts)
        after
  | conditioned {texts : List String} {middle after : Scope} {condition : Predicate}
      {written : String}
      (hpatterns : patterns.mapM (Pattern.render config []) before = .ok texts middle)
      (hall : Predicate.all? conditions = some condition)
      (hcondition : condition.render config middle = .ok written after) :
      Hoisted config keyword patterns conditions before
        (keyword ++ " " ++ Text.commaJoin texts ++ " WHERE " ++ written) after

variable {keyword text : String} {patterns : List Pattern} {conditions : List Predicate}
  {before after : Scope}

/-- To write the conditions one after the other and join the texts is to write their conjunction. -/
theorem hoisted_iff :
    Hoisted config keyword patterns conditions before text after ↔
      ∃ texts middle written,
        patterns.mapM (Pattern.render config []) before = .ok texts middle ∧
        conditions.mapM (Predicate.render config) middle = .ok written after ∧
        text = keyword ++ " " ++ Text.commaJoin texts ++ whereText written := by
  cases conditions with
  | nil =>
    constructor
    · rintro (⟨hpatterns, _⟩ | ⟨_, hall, _⟩)
      · exact ⟨_, _, [], hpatterns, rfl, (String.append_empty).symm⟩
      · cases hall
    · rintro ⟨texts, middle, written, hpatterns, hconditions, rfl⟩
      obtain ⟨rfl, rfl⟩ := RenderM.pure_eq_ok.mp hconditions
      simpa [whereText, conjunction] using Hoisted.plain hpatterns rfl
  | cons first rest =>
    simp only [List.mapM_cons, RenderM.bind_eq_ok, RenderM.pure_eq_ok]
    constructor
    · rintro (⟨_, hall⟩ | ⟨hpatterns, hall, hcondition⟩)
      · cases hall
      · cases hall
        simp only [Predicate.render_foldl_and, RenderM.bind_eq_ok, RenderM.pure_eq_ok]
          at hcondition
        obtain ⟨head, _, hhead, tail, _, htail, rfl, rfl⟩ := hcondition
        refine ⟨_, _, head :: tail, hpatterns, ⟨head, _, hhead, tail, _, htail, rfl, rfl⟩, ?_⟩
        simp [whereText, conjunction, String.append_assoc]
    · rintro ⟨texts, middle, _, hpatterns, ⟨head, _, hhead, tail, last, htail, rfl, rfl⟩, rfl⟩
      have hcondition : (rest.foldl Predicate.and first).render config middle =
          .ok (tail.foldl (fun all next => "(" ++ all ++ ") AND (" ++ next ++ ")") head) last := by
        simp only [Predicate.render_foldl_and, RenderM.bind_eq_ok, RenderM.pure_eq_ok]
        exact ⟨head, _, hhead, tail, _, htail, rfl, rfl⟩
      have hwritten : Hoisted config keyword patterns (first :: rest) before _ last :=
        .conditioned hpatterns rfl hcondition
      simpa [whereText, conjunction, String.append_assoc] using hwritten

theorem Clause.render_matching_eq_ok_iff {isOptional : Bool} {filter : Option Predicate} :
    (Clause.matching isOptional patterns filter).render config before = .ok text after ↔
      patterns ≠ [] ∧ Hoisted config (Clause.matching isOptional patterns filter).keyword patterns
        (patterns.flatMap Pattern.filters ++ filter.toList) before text after := by
  have hkeyword : (if isOptional then "OPTIONAL MATCH " else "MATCH ") =
      (Clause.matching isOptional patterns filter).keyword ++ " " := by
    cases isOptional <;> rfl
  rw [hoisted_iff, Clause.render, RenderM.unless_fail_eq_ok, List.isEmpty_iff, hkeyword,
    renderPatterns_eq, renderAllFilters_eq, renderFilter_eq]
  simp only [List.mapM_append, RenderM.bind_eq_ok, RenderM.pure_eq_ok]
  refine and_congr_right fun _ => ?_
  constructor
  · rintro ⟨texts, middle, hpatterns, attached, _, hattached, own, _, hown, rfl, rfl⟩
    exact ⟨texts, middle, attached ++ own, hpatterns,
      ⟨attached, _, hattached, own, _, hown, rfl, rfl⟩, rfl⟩
  · rintro ⟨texts, middle, _, hpatterns, ⟨attached, _, hattached, own, _, hown, rfl, rfl⟩, rfl⟩
    exact ⟨texts, middle, hpatterns, attached, _, hattached, own, _, hown, rfl, rfl⟩

/-- A pattern that is written on its own keeps its conditions, too. -/
theorem Pattern.renderAlone_eq_ok_iff {pattern : Pattern} :
    pattern.renderAlone config keyword before = .ok text after ↔
      Hoisted config keyword [pattern] pattern.filters before text after := by
  rw [hoisted_iff, renderAlone, Pattern.renderFilters_eq]
  simp only [List.mapM_cons, List.mapM_nil, RenderM.bind_eq_ok, RenderM.pure_eq_ok]
  constructor
  · rintro ⟨front, middle, hpattern, written, _, hconditions, rfl, rfl⟩
    refine ⟨[front], middle, written, ⟨front, _, hpattern, [], _, ⟨rfl, rfl⟩, rfl, rfl⟩,
      hconditions, ?_⟩
    rw [Text.commaJoin, String.intercalate_singleton]
  · rintro ⟨_, _, written, ⟨front, middle, hpattern, _, _, ⟨rfl, rfl⟩, rfl, rfl⟩, hconditions, rfl⟩
    refine ⟨front, middle, hpattern, written, _, hconditions, ?_, rfl⟩
    rw [Text.commaJoin, String.intercalate_singleton]

/-- A test whether a pattern occurs writes the pattern as a match would, with parameters of its own
    that are then added to those around the test. -/
theorem Predicate.render_existsPattern_eq_ok_iff {pattern : Pattern} :
    (Predicate.existsPattern pattern).render config before = .ok text after ↔
      ∃ body inner,
        Hoisted config "MATCH" [pattern] pattern.filters ⟨before.count, .empty⟩ body inner ∧
        text = SubqueryKind.exists.enclose body ∧
        Scope.absorb inner.bindings ⟨inner.count, before.bindings⟩ = .ok () after := by
  have hrender : (Predicate.existsPattern pattern).render config = (do
      let fragment ← Scope.isolated (pattern.renderAlone config "MATCH")
      Scope.absorb fragment.bindings
      return SubqueryKind.exists.enclose fragment.text) := by
    rw [Predicate.render]
    rfl
  rw [hrender]
  simp only [← Pattern.renderAlone_eq_ok_iff, RenderM.bind_eq_ok, RenderM.pure_eq_ok]
  constructor
  · rintro ⟨fragment, _, hisolated, _, _, habsorb, rfl, rfl⟩
    obtain ⟨inner, hinner, hbindings, rfl⟩ := Scope.isolated_eq_ok hisolated
    exact ⟨fragment.text, inner, hinner, rfl, hbindings ▸ habsorb⟩
  · rintro ⟨body, inner, hinner, rfl, habsorb⟩
    exact ⟨_, _, Scope.isolated_of_eq_ok hinner, (), _, habsorb, rfl, rfl⟩

/-- A part of a conjunction stands in its text. -/
theorem isInfix_foldl_conjunction {first t : String} {rest : List String}
    (hmem : t ∈ first :: rest) :
    t.toList <:+:
      (rest.foldl (fun all next => "(" ++ all ++ ") AND (" ++ next ++ ")") first).toList := by
  induction rest generalizing first t with
  | nil =>
    rw [List.mem_singleton.mp hmem]
    exact List.infix_rfl
  | cons next rest ih =>
    have hboth : (("(" ++ first ++ ") AND (" ++ next ++ ")").toList) =
        "(".toList ++ first.toList ++ (") AND (" ++ next ++ ")").toList := by
      simp [String.toList_append]
    have hrest := ih (List.mem_cons_self (a := "(" ++ first ++ ") AND (" ++ next ++ ")"))
    rcases List.mem_cons.mp hmem with rfl | hmem
    · refine List.IsInfix.trans ?_ hrest
      rw [hboth]
      exact List.infix_append _ _ _
    · rcases List.mem_cons.mp hmem with rfl | hmem
      · refine List.IsInfix.trans ?_ hrest
        rw [String.toList_append, String.toList_append]
        exact List.infix_append _ _ _
      · exact ih (List.mem_cons_of_mem _ hmem)

theorem isInfix_whereText {t : String} {texts : List String} (hmem : t ∈ texts) :
    t.toList <:+: (whereText texts).toList := by
  cases texts with
  | nil => cases hmem
  | cons first rest =>
    refine (isInfix_foldl_conjunction hmem).trans ?_
    rw [whereText, conjunction, String.toList_append]
    exact List.infix_append_right

theorem RenderM.exists_of_mapM_eq_ok {α β : Type} {part : α → RenderM β} {items : List α}
    {results : List β} (hmap : items.mapM part before = .ok results after) :
    ∀ item ∈ items, ∃ result ∈ results, ∃ start stop, part item start = .ok result stop := by
  induction items generalizing before results with
  | nil => exact List.forall_mem_nil _
  | cons item items ih =>
    simp only [List.mapM_cons, RenderM.bind_eq_ok, RenderM.pure_eq_ok] at hmap
    obtain ⟨result, _, hitem, rest, _, hrest, rfl, rfl⟩ := hmap
    intro other hother
    rcases List.mem_cons.mp hother with rfl | hother
    · exact ⟨result, List.mem_cons_self, _, _, hitem⟩
    · obtain ⟨found, hfound, hpart⟩ := ih hrest other hother
      exact ⟨found, List.mem_cons_of_mem _ hfound, hpart⟩

/-- A name that is bound behind a part but not before it is one of those that the part adds. -/
theorem Adds.mem_names {stem name : String} {entries : Fields Value}
    (hadds : Adds stem before entries after) (hbound : after.bindings.contains name = true)
    (hnew : before.bindings.contains name = false) : name ∈ entries.names := by
  rw [← Fields.isSome_get?_iff]
  rw [Bindings.contains, Option.isSome_eq_false_iff, Option.isNone_iff_eq_none] at hnew
  rwa [Bindings.contains, hadds.bindings, hnew, Option.none_or] at hbound

/-- What is written later has anonymous names of greater numbers. -/
theorem Adds.lt_of_contains {stem : String} {middle : Scope} {first second : Fields Value}
    (hfirst : Adds stem before first middle) (hsecond : Adds stem middle second after) (i j : Nat)
    (hi : middle.bindings.contains (Name.anonymous stem i) = true)
    (hnew : before.bindings.contains (Name.anonymous stem i) = false)
    (hj : after.bindings.contains (Name.anonymous stem j) = true)
    (hlater : middle.bindings.contains (Name.anonymous stem j) = false) : i < j := by
  obtain ⟨entry, hentry, hname⟩ := List.mem_map.mp (hfirst.mem_names hi hnew)
  obtain ⟨other, hother, hname'⟩ := List.mem_map.mp (hsecond.mem_names hj hlater)
  obtain ⟨k, _, hk, heq⟩ :=
    hfirst.numbered entry hentry (hname ▸ Name.isAnonymous_anonymous stem i)
  obtain ⟨l, hl, _, heq'⟩ :=
    hsecond.numbered other hother (hname' ▸ Name.isAnonymous_anonymous stem j)
  have hik : i = k := Name.anonymous_injective (hname.symm.trans heq)
  have hjl : j = l := Name.anonymous_injective (hname'.symm.trans heq')
  omega

namespace Hoisted

/-- No condition is left out of the text. -/
theorem isInfix_of_mem (hhoisted : Hoisted config keyword patterns conditions before text after)
    {condition : Predicate} (hmem : condition ∈ conditions) :
    ∃ start written stop, condition.render config start = .ok written stop ∧
      written.toList <:+: text.toList := by
  obtain ⟨texts, middle, written, _, hconditions, rfl⟩ := hoisted_iff.mp hhoisted
  obtain ⟨t, ht, start, stop, hrender⟩ :=
    RenderM.exists_of_mapM_eq_ok hconditions condition hmem
  refine ⟨start, t, stop, hrender, (isInfix_whereText ht).trans ?_⟩
  rw [String.toList_append]
  exact List.infix_append_right

/-- The anonymous parameters of the conditions are numbered after those of the patterns. -/
theorem numbered_after_patterns (hstem : Name.IsStem config.parameterStem)
    (hhoisted : Hoisted config keyword patterns conditions before text after) :
    ∃ texts middle, patterns.mapM (Pattern.render config []) before = .ok texts middle ∧
      ∀ i j,
        middle.bindings.contains (Name.anonymous config.parameterStem i) = true →
        before.bindings.contains (Name.anonymous config.parameterStem i) = false →
        after.bindings.contains (Name.anonymous config.parameterStem j) = true →
        middle.bindings.contains (Name.anonymous config.parameterStem j) = false → i < j := by
  have hpart : ∀ {texts : List String} {middle : Scope},
      patterns.mapM (Pattern.render config []) before = .ok texts middle →
      ∃ inline, Adds config.parameterStem before inline middle := by
    intro texts middle hpatterns
    rw [← renderPatterns_eq] at hpatterns
    obtain ⟨inline, hadds, _⟩ := (binds_patterns hstem patterns).ok _ _ _ hpatterns
    exact ⟨inline, hadds⟩
  cases hhoisted with
  | plain hpatterns _ =>
    obtain ⟨inline, hinline⟩ := hpart hpatterns
    exact ⟨_, _, hpatterns, hinline.lt_of_contains (.nil _ _)⟩
  | conditioned hpatterns _ hcondition =>
    obtain ⟨inline, hinline⟩ := hpart hpatterns
    obtain ⟨attached, hattached, _⟩ := (Predicate.binds hstem _).ok _ _ _ hcondition
    exact ⟨_, _, hpatterns, hinline.lt_of_contains hattached⟩

end Hoisted

/-- What is created has no conditions. -/
theorem filters_eq_nil_of_renderCreated {texts : List String}
    (hrender : renderCreated config patterns before = .ok texts after) :
    ∀ pattern ∈ patterns, pattern.filters = [] := by
  induction patterns generalizing before texts after with
  | nil => exact List.forall_mem_nil _
  | cons pattern patterns ih =>
    rw [renderCreated] at hrender
    simp only [RenderM.bind_eq_ok, RenderM.lift_eq_ok, RenderM.pure_eq_ok] at hrender
    obtain ⟨_, _, ⟨hcheck, rfl⟩, _, _, _, _, _, hrest, _⟩ := hrender
    exact List.forall_mem_cons.mpr
      ⟨Pattern.filters_eq_nil_of_checkCreate hcheck, ih hrest⟩

theorem Clause.render_create_eq_error {pattern : Pattern} (hmem : pattern ∈ patterns)
    (hfilters : pattern.filters ≠ []) :
    ∃ error after, (Clause.create patterns).render config before = .error error after := by
  cases hrender : (Clause.create patterns).render config before with
  | error error after => exact ⟨error, after, rfl⟩
  | ok text after =>
    rw [Clause.render, RenderM.unless_fail_eq_ok] at hrender
    simp only [RenderM.bind_eq_ok] at hrender
    obtain ⟨_, _, _, hcreated, _⟩ := hrender
    exact absurd (filters_eq_nil_of_renderCreated hcreated pattern hmem) hfilters

theorem Clause.render_merge_eq_error {pattern : Pattern}
    {matchOn onCreate onMatch : List (String × Value)} (hfilters : pattern.filters ≠ []) :
    ∃ error after,
      (Clause.merge pattern matchOn onCreate onMatch).render config before =
        .error error after := by
  cases hrender : (Clause.merge pattern matchOn onCreate onMatch).render config before with
  | error error after => exact ⟨error, after, rfl⟩
  | ok text after =>
    rw [Clause.render] at hrender
    simp only [RenderM.bind_eq_ok, RenderM.lift_eq_ok] at hrender
    obtain ⟨_, _, ⟨hcheck, _⟩, _⟩ := hrender
    exact absurd (Pattern.filters_eq_nil_of_checkMerge hcheck) hfilters

/-- Every condition that is attached to a pattern takes effect. A match that is written, and a test
    whether a pattern occurs, holds the conjunction of all conditions behind its patterns, with
    anonymous parameters of greater numbers than those of the patterns. A pattern with a condition
    is neither created nor merged. -/
theorem conditions_take_effect (config : Config) :
    (∀ (isOptional : Bool) (patterns : List Pattern) (filter : Option Predicate)
        (before : Scope) (text : String) (after : Scope),
      (Clause.matching isOptional patterns filter).render config before = .ok text after ↔
        patterns ≠ [] ∧ Hoisted config (if isOptional then "OPTIONAL MATCH" else "MATCH") patterns
          (patterns.flatMap Pattern.filters ++ filter.toList) before text after) ∧
    (∀ (pattern : Pattern) (before : Scope) (text : String) (after : Scope),
      (Predicate.existsPattern pattern).render config before = .ok text after ↔
        ∃ body inner,
          Hoisted config "MATCH" [pattern] pattern.filters ⟨before.count, .empty⟩ body inner ∧
            text = "EXISTS \x7b " ++ body ++ " \x7d" ∧
              Scope.absorb inner.bindings ⟨inner.count, before.bindings⟩ = .ok () after) ∧
    (∀ (keyword : String) (patterns : List Pattern) (conditions : List Predicate)
        (before : Scope) (text : String) (after : Scope),
      Hoisted config keyword patterns conditions before text after →
        (∀ condition ∈ conditions, ∃ start written stop,
          condition.render config start = .ok written stop ∧ written.toList <:+: text.toList) ∧
        (config.validate = .ok () →
          ∃ texts middle, patterns.mapM (Pattern.render config []) before = .ok texts middle ∧
            ∀ i j,
              middle.bindings.contains (Name.anonymous config.parameterStem i) = true →
              before.bindings.contains (Name.anonymous config.parameterStem i) = false →
              after.bindings.contains (Name.anonymous config.parameterStem j) = true →
              middle.bindings.contains (Name.anonymous config.parameterStem j) = false →
              i < j)) ∧
    (∀ (patterns : List Pattern) (before : Scope),
      (∃ pattern ∈ patterns, pattern.filters ≠ []) →
        ∃ error after, (Clause.create patterns).render config before = .error error after) ∧
    (∀ (pattern : Pattern) (matchOn onCreate onMatch : List (String × Value)) (before : Scope),
      pattern.filters ≠ [] →
        ∃ error after, (Clause.merge pattern matchOn onCreate onMatch).render config before =
          .error error after) := by
  refine ⟨?_, ?_, ?_, ?_, ?_⟩
  · intro isOptional patterns filter before text after
    exact Clause.render_matching_eq_ok_iff
  · intro pattern before text after
    exact Predicate.render_existsPattern_eq_ok_iff
  · intro keyword patterns conditions before text after hhoisted
    exact ⟨fun condition hmem => hhoisted.isInfix_of_mem hmem,
      fun hvalid => hhoisted.numbered_after_patterns (Name.isStem_of_validate hvalid)⟩
  · rintro patterns before ⟨pattern, hmem, hfilters⟩
    exact Clause.render_create_eq_error hmem hfilters
  · intro pattern matchOn onCreate onMatch before hfilters
    exact Clause.render_merge_eq_error hfilters

/-- Two people of an age who have known each other for some years, with a condition at each of the
    three places of the pattern. -/
def oldFriends (years : SizedInt) : Pattern :=
  .edge
    (.mk { aliasName := "p", label := some "Person" } [("name", .value (.string "Ada"))]
      (some (.isNotNull ⟨"p", "age"⟩)))
    { aliasName := "k", label := some "KNOWS" } .outgoing []
    (some (.compare ⟨"k", "years"⟩ .ge (.value (.int years))))
    (.mk { aliasName := "q" } [("born", .value (.int years))]
      (some (.compare ⟨"p", "age"⟩ .eq (.reference ⟨"q", "age"⟩))))

theorem oldFriends_conditions_take_effect :
    let years : SizedInt := ⟨.int64, 9, by decide⟩
    (∃ text after,
      (Clause.matching true [oldFriends years] (some (.literal true))).render (.plain {}) {} =
        .ok text after ∧
      Hoisted (.plain {}) "OPTIONAL MATCH" [oldFriends years]
        ((oldFriends years).filters ++ [.literal true]) {} text after ∧
      ∀ condition ∈ (oldFriends years).filters, ∃ start written stop,
        condition.render (.plain {}) start = .ok written stop) ∧
    (∃ error after, (Clause.create [oldFriends years]).render (.plain {}) {} = .error error after) ∧
    ∃ error after,
      (Clause.merge (oldFriends years) [] [] []).render (.plain {}) {} = .error error after := by
  intro years
  obtain ⟨hmatching, _, hhoisted, hcreate, hmerge⟩ := conditions_take_effect (.plain {})
  obtain ⟨text, after, hrender, _⟩ := RenderM.exists_of_countAfter?
    (show RenderM.countAfter? ((Clause.matching true [oldFriends years]
      (some (.literal true))).render (.plain {})) {} = some 1 by decide +kernel)
  obtain ⟨_, hwritten⟩ := (hmatching _ _ _ _ _ _).mp hrender
  refine ⟨⟨text, after, hrender, hwritten, fun condition hmem => ?_⟩, ?_, ?_⟩
  · obtain ⟨start, written, stop, hcondition, _⟩ := (hhoisted _ _ _ _ _ _ hwritten).1 condition
      (List.mem_append_left _ hmem)
    exact ⟨start, written, stop, hcondition⟩
  · exact hcreate _ _ ⟨_, List.mem_cons_self, by simp [oldFriends, Pattern.filters]⟩
  · exact hmerge _ _ _ _ _ (by simp [oldFriends, Pattern.filters])

end GraphQuery
