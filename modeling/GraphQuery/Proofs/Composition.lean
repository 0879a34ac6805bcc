import GraphQuery.Proofs.Bindings.Merge
import GraphQuery.Proofs.Conflict

namespace GraphQuery

variable {config : Config} {before after : Scope} {front text : String}

namespace Fragment

theorem joinTexts_empty_left (second : String) : joinTexts "" second = second := by
  unfold joinTexts
  split
  · rename_i hempty
    exact (String.isEmpty_iff.mp hempty).symm
  · exact if_pos rfl

theorem joinTexts_of_ne {first second : String} (hfirst : first ≠ "") (hsecond : second ≠ "") :
    joinTexts first second = first ++ " " ++ second := by
  rw [joinTexts, if_neg (by simpa using hsecond), if_neg (by simpa using hfirst)]

theorem joinTexts_ne_empty {first second : String} (hfirst : first ≠ "") :
    joinTexts first second ≠ "" := by
  by_cases hsecond : second = ""
  · rwa [joinTexts, if_pos (String.isEmpty_iff.mpr hsecond)]
  · rw [joinTexts_of_ne hfirst hsecond]
    exact append_ne_empty _ (append_ne_empty _ hfirst)

theorem joinTexts_assoc (first second third : String) :
    joinTexts (joinTexts first second) third = joinTexts first (joinTexts second third) := by
  by_cases hthird : third = ""
  · simp [joinTexts, hthird]
  by_cases hsecond : second = ""
  · rw [hsecond, joinTexts_empty_left]
    rfl
  by_cases hfirst : first = ""
  · rw [hfirst, joinTexts_empty_left, joinTexts_empty_left]
  rw [joinTexts_of_ne (joinTexts_ne_empty hfirst) hthird, joinTexts_of_ne hfirst hsecond,
    joinTexts_of_ne hfirst (joinTexts_ne_empty hsecond), joinTexts_of_ne hsecond hthird]
  simp only [String.append_assoc]

end Fragment

theorem Scope.absorb_eq_ok_iff {bindings : Bindings} {u : Unit} :
    absorb bindings before = .ok u after ↔
      ∃ merged, before.bindings.merge bindings = (merged, none) ∧
        after = ⟨before.count, merged⟩ := by
  unfold absorb
  rcases before.bindings.merge bindings with ⟨result, _ | conflict⟩
  · simp [eq_comm]
  · simp

/-- The first clause is written on its own, and its parameters are added to those that are there. -/
theorem renderFrom_cons_eq_ok_iff {clause : Clause} {clauses : List Clause} {position : Nat} :
    renderFrom config false position front (clause :: clauses) before = .ok text after ↔
      ∃ next inner merged,
        clause.render config ⟨before.count, .empty⟩ = .ok next inner ∧
        before.bindings.merge inner.bindings = (merged, none) ∧
        renderFrom config false (position + 1) (Fragment.joinTexts front next) clauses
          ⟨inner.count, merged⟩ = .ok text after := by
  simp only [renderFrom, RenderM.bind_eq_ok, RenderM.located_eq_ok, RenderM.pure_eq_ok]
  constructor
  · rintro ⟨_, _, ⟨fragment, _, hisolated, _, _, habsorb, rfl, rfl⟩, hrest⟩
    obtain ⟨inner, hinner, hbindings, rfl⟩ := Scope.isolated_eq_ok hisolated
    obtain ⟨merged, hmerge, rfl⟩ := Scope.absorb_eq_ok_iff.mp habsorb
    exact ⟨_, inner, merged, hinner, hbindings ▸ hmerge, hrest⟩
  · rintro ⟨next, inner, merged, hinner, hmerge, hrest⟩
    have habsorb : Scope.absorb inner.bindings ⟨inner.count, before.bindings⟩ =
        .ok () ⟨inner.count, merged⟩ := Scope.absorb_eq_ok_iff.mpr ⟨merged, hmerge, rfl⟩
    exact ⟨next, _, ⟨_, _, Scope.isolated_of_eq_ok hinner, (), _, habsorb, rfl, rfl⟩, hrest⟩

/-- Clauses that follow others are written as they would be on their own, with the anonymous names
    numbered on: a space is put in front of them, and their parameters are added to those that are
    there. -/
theorem renderFrom_eq_ok_iff {clauses : List Clause} {position : Nat} :
    renderFrom config false position front clauses before = .ok text after ↔
      ∃ alone inner merged,
        renderFrom config false 0 "" clauses ⟨before.count, .empty⟩ = .ok alone inner ∧
        before.bindings.merge inner.bindings = (merged, none) ∧
        text = Fragment.joinTexts front alone ∧ after = ⟨inner.count, merged⟩ := by
  induction clauses generalizing position front text before after with
  | nil =>
    simp only [renderFrom, RenderM.pure_eq_ok]
    constructor
    · rintro ⟨rfl, rfl⟩
      exact ⟨"", _, before.bindings, ⟨rfl, rfl⟩, rfl, rfl, rfl⟩
    · rintro ⟨_, _, merged, ⟨rfl, rfl⟩, hmerge, rfl, rfl⟩
      cases hmerge
      exact ⟨rfl, rfl⟩
  | cons clause clauses ih =>
    simp only [renderFrom_cons_eq_ok_iff]
    constructor
    · rintro ⟨next, first, middle, hfirst, hmiddle, hrest⟩
      obtain ⟨rest, inner, merged, hinner, hmerge, rfl, rfl⟩ := ih.mp hrest
      obtain ⟨both, hboth, hmerge⟩ := Bindings.merge_assoc.mp ⟨middle, hmiddle, hmerge⟩
      refine ⟨Fragment.joinTexts next rest, ⟨inner.count, both⟩, merged,
        ⟨next, first, first.bindings, hfirst, Bindings.merge_empty_left _, ?_⟩, hmerge, ?_, rfl⟩
      · apply ih.mpr
        exact ⟨rest, inner, both, hinner, hboth, by rw [Fragment.joinTexts_empty_left], rfl⟩
      · exact Fragment.joinTexts_assoc front next rest
    · rintro ⟨_, _, merged, ⟨next, first, _, hfirst, hempty, hrest⟩, hmerge, rfl, rfl⟩
      rw [Bindings.merge_empty_left] at hempty
      cases hempty
      obtain ⟨rest, inner, both, hinner, hboth, rfl, rfl⟩ := ih.mp hrest
      obtain ⟨middle, hmiddle, hmerge⟩ := Bindings.merge_assoc.mpr ⟨both, hboth, hmerge⟩
      refine ⟨next, first, middle, hfirst, hmiddle, ?_⟩
      apply ih.mpr
      refine ⟨rest, inner, merged, hinner, hmerge, ?_, rfl⟩
      rw [Fragment.joinTexts_empty_left, Fragment.joinTexts_assoc]

theorem renderFrom_singleton {clause : Clause}
    (hrender : clause.render config {} = .ok text after) :
    renderFrom config false 0 "" [clause] {} = .ok text after := by
  rw [renderFrom_cons_eq_ok_iff]
  refine ⟨text, after, after.bindings, hrender, Bindings.merge_empty_left _, ?_⟩
  rw [Fragment.joinTexts_empty_left, renderFrom]
  rfl

/-- Clauses that pass their checks and can be written make up a statement. -/
theorem compile_of_renderFrom {query : Query} (hvalid : config.validate = .ok ())
    (hne : query ≠ []) (hchecks : ∀ clause ∈ query, clause.validate = .ok ())
    (hrender : renderFrom config false 0 "" query {} = .ok text after) :
    compile config query = .ok ⟨text, after.bindings⟩ := by
  have hquery : query.render config {} = .ok text after := by
    rw [Query.render_of_ne_nil hne]
    simp only [RenderM.bind_eq_ok, RenderM.lift_eq_ok]
    exact ⟨(), {}, ⟨Query.checkFrom_eq_ok_iff.mpr hchecks, rfl⟩, renderFrom_eq_ok.mpr hrender⟩
  rw [compile, hvalid]
  simp only [hquery]

/-- A clause that can be written is a statement of its own. -/
theorem compile_of_render {clause : Clause} (hvalid : config.validate = .ok ())
    (hcheck : clause.validate = .ok ()) (hrender : clause.render config {} = .ok text after) :
    compile config [clause] = .ok ⟨text, after.bindings⟩ :=
  compile_of_renderFrom hvalid (List.cons_ne_nil _ _) (by simpa using hcheck)
    (renderFrom_singleton hrender)

theorem renderFrom_append_eq_ok_iff {first second : List Clause} {position : Nat} :
    renderFrom config false position front (first ++ second) before = .ok text after ↔
      ∃ middleText middle,
        renderFrom config false position front first before = .ok middleText middle ∧
        renderFrom config false (position + first.length) middleText second middle =
          .ok text after := by
  induction first generalizing position front before with
  | nil =>
    simp only [List.nil_append, renderFrom, RenderM.pure_eq_ok, List.length_nil, Nat.add_zero]
    constructor
    · exact fun hrender => ⟨front, before, ⟨rfl, rfl⟩, hrender⟩
    · rintro ⟨_, _, ⟨rfl, rfl⟩, hrender⟩
      exact hrender
  | cons clause first ih =>
    have hposition : position + (clause :: first).length = position + 1 + first.length := by
      rw [List.length_cons]
      omega
    simp only [List.cons_append, renderFrom_cons_eq_ok_iff, ih, hposition]
    constructor
    · rintro ⟨next, inner, merged, hclause, hmerge, middleText, middle, hfirst, hsecond⟩
      exact ⟨middleText, middle, ⟨next, inner, merged, hclause, hmerge, hfirst⟩, hsecond⟩
    · rintro ⟨middleText, middle, ⟨next, inner, merged, hclause, hmerge, hfirst⟩, hsecond⟩
      exact ⟨next, inner, merged, hclause, hmerge, middleText, middle, hfirst, hsecond⟩

/-- No clause is written as nothing. -/
theorem ne_empty_of_renderFrom {clauses : List Clause} (hne : clauses ≠ [])
    (hrender : renderFrom config false 0 "" clauses before = .ok text after) : text ≠ "" := by
  cases clauses with
  | nil => exact absurd rfl hne
  | cons clause clauses =>
    obtain ⟨next, inner, _, hclause, _, hrest⟩ := renderFrom_cons_eq_ok_iff.mp hrender
    obtain ⟨rest, _, _, _, _, rfl, _⟩ := renderFrom_eq_ok_iff.mp hrest
    rw [Fragment.joinTexts_empty_left, (clause.writes _ _ _ hclause).text_eq]
    apply Fragment.joinTexts_ne_empty
    exact clause.fill_template_ne_empty config _ _

theorem validateAll_eq_ok_iff {clauses : List Clause} {u : Unit} :
    validateAll clauses = .ok u ↔ ∀ clause ∈ clauses, clause.validate = .ok () := by
  induction clauses with
  | nil => simp [validateAll]
  | cons clause clauses ih =>
    rw [validateAll, Except.bind_eq_ok, List.forall_mem_cons, ih]
    constructor
    · rintro ⟨_, hclause, hclauses⟩
      exact ⟨hclause, hclauses⟩
    · rintro ⟨hclause, hclauses⟩
      exact ⟨(), hclause, hclauses⟩

namespace Query

/-- The clauses of a query as they are written at the top level, or within another query, where a
    query without clauses is not even checked. -/
def renderAs (config : Config) (isTop : Bool) (query : Query) : RenderM String :=
  if isTop then query.render config
  else do
    validateAll query
    renderFrom config false 0 "" query

/-- A query is written the same at the top level and within another one. -/
theorem renderAs_eq_ok_iff {isTop : Bool} {query : Query} (hne : query ≠ []) :
    query.renderAs config isTop before = .ok text after ↔
      (∀ clause ∈ query, clause.validate = .ok ()) ∧
        renderFrom config false 0 "" query before = .ok text after := by
  cases isTop with
  | true =>
    simp only [renderAs, if_true, render, RenderM.unless_fail_eq_ok, RenderM.bind_eq_ok,
      RenderM.lift_eq_ok, checkFrom_eq_ok_iff, renderFrom_eq_ok]
    constructor
    · rintro ⟨_, _, _, ⟨hvalid, rfl⟩, hrender⟩
      exact ⟨hvalid, hrender⟩
    · rintro ⟨hvalid, hrender⟩
      exact ⟨by simpa using hne, (), before, ⟨hvalid, rfl⟩, hrender⟩
  | false =>
    simp only [renderAs, Bool.false_eq_true, if_false, RenderM.bind_eq_ok, RenderM.lift_eq_ok,
      validateAll_eq_ok_iff]
    constructor
    · rintro ⟨_, _, ⟨hvalid, rfl⟩, hrender⟩
      exact ⟨hvalid, hrender⟩
    · rintro ⟨hvalid, hrender⟩
      exact ⟨(), before, ⟨hvalid, rfl⟩, hrender⟩

end Query

/-- Writing clauses is compositional: one list after another is written exactly if each of them can
    be written on its own, the second with the numbering that the first one leaves, and their
    parameters agree. Text, parameters and numbering are then put together from both. -/
theorem render_append_iff {first second : Query} (hfirst : first ≠ []) (hsecond : second ≠ [])
    (isTop : Bool) (n : Nat) :
    Query.renderAs config isTop (first ++ second) ⟨n, .empty⟩ = .ok text after ↔
      ∃ front middle back last bindings,
        first.renderAs config isTop ⟨n, .empty⟩ = .ok front middle ∧
        second.renderAs config isTop ⟨middle.count, .empty⟩ = .ok back last ∧
        middle.bindings.merge last.bindings = (bindings, none) ∧
        text = front ++ " " ++ back ∧ after = ⟨last.count, bindings⟩ := by
  rw [Query.renderAs_eq_ok_iff (List.append_ne_nil_of_left_ne_nil hfirst _)]
  simp only [Query.renderAs_eq_ok_iff hfirst, Query.renderAs_eq_ok_iff hsecond,
    List.forall_mem_append, renderFrom_append_eq_ok_iff]
  constructor
  · rintro ⟨⟨hvalid, hvalid'⟩, front, middle, hfront, hrest⟩
    obtain ⟨back, last, merged, hback, hmerge, rfl, rfl⟩ := renderFrom_eq_ok_iff.mp hrest
    refine ⟨front, middle, back, last, merged, ⟨hvalid, hfront⟩, ⟨hvalid', hback⟩, hmerge, ?_, rfl⟩
    exact Fragment.joinTexts_of_ne (ne_empty_of_renderFrom hfirst hfront)
      (ne_empty_of_renderFrom hsecond hback)
  · rintro ⟨front, middle, back, last, merged, ⟨hvalid, hfront⟩, ⟨hvalid', hback⟩, hmerge, rfl,
      rfl⟩
    refine ⟨⟨hvalid, hvalid'⟩, front, middle, hfront, ?_⟩
    apply renderFrom_eq_ok_iff.mpr
    refine ⟨back, last, merged, hback, hmerge, ?_, rfl⟩
    rw [Fragment.joinTexts_of_ne (ne_empty_of_renderFrom hfirst hfront)
      (ne_empty_of_renderFrom hsecond hback)]

/-- The friends of Ada, asked for twice behind four other values: the second time the numbering goes
    on, and the name that both share is bound once. -/
theorem friendsOfAda_append :
    ∃ front middle back last bindings,
      friendsOfAda.renderAs (.plain {}) false ⟨4, .empty⟩ = .ok front middle ∧
      friendsOfAda.renderAs (.plain {}) false ⟨middle.count, .empty⟩ = .ok back last ∧
      middle.bindings.merge last.bindings = (bindings, none) ∧ last.count = 8 := by
  have hcount : RenderM.countAfter?
      (Query.renderAs (.plain {}) false (friendsOfAda ++ friendsOfAda)) ⟨4, .empty⟩ = some 8 := by
    decide +kernel
  obtain ⟨text, after, hrender, hlast⟩ := RenderM.exists_of_countAfter? hcount
  obtain ⟨front, middle, back, last, bindings, hfirst, hsecond, hmerge, _, rfl⟩ :=
    (render_append_iff (by decide) (by decide) false 4).mp hrender
  exact ⟨front, middle, back, last, bindings, hfirst, hsecond, hmerge, hlast⟩

end GraphQuery
