import GraphQuery.Proofs.Composition
import GraphQuery.Proofs.Contract.Render

namespace GraphQuery

variable {config : Config} {before middle after : Scope} {front text : String} {error : QueryError}

namespace QueryError

/-- How an error of the clause at a position is reported: a conflict and a failure are given the
    position, and any other error is passed on as it is. -/
inductive ReportedAt (position : Nat) : QueryError → QueryError → Prop where
  | conflict (name : String) (existing incoming : Value) :
      ReportedAt position (.conflict none name existing incoming)
        (.conflict (some position) name existing incoming)
  | failure (component : String) (cause : Failure) :
      ReportedAt position (.failure none component cause)
        (.failure (some position) component cause)
  | dimensionMismatch (schema column : String) (expected actual : Nat) :
      ReportedAt position (.dimensionMismatch schema column expected actual)
        (.dimensionMismatch schema column expected actual)
  | undeclaredProperty (schema property : String) :
      ReportedAt position (.undeclaredProperty schema property)
        (.undeclaredProperty schema property)

theorem reportedAt_atClause {inner : QueryError} (hclause : inner.clause? = none)
    (position : Nat) : ReportedAt position inner (inner.atClause position) := by
  cases inner with
  | conflict clause name existing incoming =>
    cases hclause
    exact .conflict name existing incoming
  | failure clause component cause =>
    cases hclause
    exact .failure component cause
  | dimensionMismatch schema column expected actual => exact .dimensionMismatch ..
  | undeclaredProperty schema property => exact .undeclaredProperty ..

end QueryError

/-- Writes a clause with parameters of its own, and adds these to the ones that are there. -/
def Clause.renderAbsorbed (config : Config) (clause : Clause) : RenderM String := do
  let fragment ← Scope.isolated (clause.render config)
  Scope.absorb fragment.bindings
  return fragment.text

/-- An error that is raised for a clause, at whatever depth, does not know any position. -/
theorem Clause.ensures_renderAbsorbed (clause : Clause) :
    Ensures (clause.renderAbsorbed config) (clause.WellFormed config.acceptsRegex) :=
  clause.ensures.absorbed fun fragment => .pure fragment.text trivial

theorem renderFrom_cons (isTop : Bool) (clause : Clause) (clauses : List Clause)
    (position : Nat) :
    renderFrom config isTop position front (clause :: clauses) = (do
      let next ← RenderM.located isTop position (clause.renderAbsorbed config)
      renderFrom config isTop (position + 1) (Fragment.joinTexts front next) clauses) := by
  rw [renderFrom]
  rfl

/-- Clauses are written in order, and the error is that of the first one that cannot be added. -/
theorem renderFrom_eq_error_iff {clauses : List Clause} {position : Nat} :
    renderFrom config true position front clauses before = .error error after ↔
      ∃ earlier clause later text middle inner, clauses = earlier ++ clause :: later ∧
        renderFrom config false position front earlier before = .ok text middle ∧
        clause.renderAbsorbed config middle = .error inner after ∧
        inner.atClause (position + earlier.length) = error := by
  induction clauses generalizing position front before with
  | nil =>
    constructor
    · intro hrender
      cases hrender
    · rintro ⟨earlier, clause, later, _, _, _, heq, _⟩
      cases earlier <;> cases heq
  | cons clause clauses ih =>
    have hposition : ∀ length, position + (length + 1) = position + 1 + length := by omega
    rw [renderFrom_cons, RenderM.bind_eq_error]
    simp only [RenderM.located_eq_error, RenderM.located_eq_ok, ih]
    -- The clause to blame is the first one, or the one that the others are split at.
    constructor
    · rintro (⟨inner, hinner, herror⟩ | ⟨next, first, hnext, earlier, other, later, text, middle,
        inner, rfl, hearlier, hinner, herror⟩)
      · exact ⟨[], clause, clauses, front, before, inner, rfl, rfl, hinner, herror⟩
      · refine ⟨clause :: earlier, other, later, text, middle, inner, rfl, ?_, hinner, ?_⟩
        · rw [renderFrom_cons, RenderM.bind_eq_ok]
          exact ⟨next, first, hnext, hearlier⟩
        · rwa [List.length_cons, hposition]
    · rintro ⟨_ | ⟨first, earlier⟩, other, later, text, middle, inner, heq, hearlier, hinner,
        herror⟩
      · cases heq
        cases hearlier
        exact .inl ⟨inner, hinner, herror⟩
      · cases heq
        rw [renderFrom_cons, RenderM.bind_eq_ok] at hearlier
        obtain ⟨next, scope, hnext, hearlier⟩ := hearlier
        rw [List.length_cons, hposition] at herror
        exact .inr ⟨next, scope, hnext, earlier, other, later, text, middle, inner, rfl, hearlier,
          hinner, herror⟩

/-- A clause that cannot be written is reported as the only one of its query. -/
theorem compile_eq_error_of_render {clause : Clause} (hvalid : config.validate = .ok ())
    (hcheck : clause.validate = .ok ()) (hrender : clause.render config {} = .error error after) :
    compile config [clause] = .error (error.atClause 0) := by
  have hisolated : Scope.isolated (clause.render config) {} = .error error after := by
    simp only [Scope.isolated, RenderM.bind_eq_error]
    exact .inr ⟨_, _, rfl, .inr ⟨(), _, rfl, .inl hrender⟩⟩
  have habsorbed : clause.renderAbsorbed config {} = .error error after := by
    rw [Clause.renderAbsorbed, RenderM.bind_eq_error]
    exact .inl hisolated
  refine (compile_eq_error_iff hvalid (List.cons_ne_nil _ _)).mpr
    (.inr ⟨by simpa using hcheck, after, ?_⟩)
  exact renderFrom_eq_error_iff.mpr ⟨[], clause, [], "", {}, error, rfl, rfl, habsorbed, rfl⟩

/-- Of two clauses that can be written, the second one is refused only for a conflict between the
    parameters of both. -/
theorem compile_pair {first second : Clause} {front back : String} {middle inner : Scope}
    (hvalid : config.validate = .ok ()) (hfirst : first.validate = .ok ())
    (hsecond : second.validate = .ok ()) (hfront : first.render config {} = .ok front middle)
    (hback : second.render config ⟨middle.count, .empty⟩ = .ok back inner) :
    compile config [first, second] =
      match middle.bindings.merge inner.bindings with
      | (merged, none) => .ok ⟨Fragment.joinTexts front back, merged⟩
      | (_, some error) => .error (error.atClause 1) := by
  have hchecks : ∀ clause ∈ [first, second], clause.validate = .ok () := by
    simp [hfirst, hsecond]
  have halone := renderFrom_singleton hfront
  rcases hmerge : middle.bindings.merge inner.bindings with ⟨merged, _ | error⟩
  · have hrest : renderFrom config false 1 front [second] middle =
        .ok (Fragment.joinTexts front back) ⟨inner.count, merged⟩ := by
      refine renderFrom_cons_eq_ok_iff.mpr ⟨back, inner, merged, hback, hmerge, ?_⟩
      rw [renderFrom]
      rfl
    exact compile_of_renderFrom hvalid (List.cons_ne_nil _ _) hchecks
      (renderFrom_append_eq_ok_iff.mpr ⟨front, middle, halone, hrest⟩)
  · have habsorbed : second.renderAbsorbed config middle =
        .error error ⟨inner.count, merged⟩ := by
      have habsorb : Scope.absorb inner.bindings ⟨inner.count, middle.bindings⟩ =
          .error error ⟨inner.count, merged⟩ := by
        simp only [Scope.absorb, hmerge]
      rw [Clause.renderAbsorbed, RenderM.bind_eq_error]
      refine .inr ⟨_, _, Scope.isolated_of_eq_ok hback, ?_⟩
      exact RenderM.bind_eq_error.mpr (.inl habsorb)
    refine (compile_eq_error_iff hvalid (List.cons_ne_nil _ _)).mpr
      (.inr ⟨hchecks, ⟨inner.count, merged⟩, ?_⟩)
    exact renderFrom_eq_error_iff.mpr
      ⟨[first], second, [], front, middle, error, rfl, halone, habsorbed, rfl⟩

section Compile

variable {query : Query}

/-- With settings that are valid, a query is compiled if its clauses pass their checks and can be
    written one after another. -/
theorem exists_compile_iff (hvalid : config.validate = .ok ()) (hne : query ≠ []) :
    (∃ statement, compile config query = .ok statement) ↔
      (∀ clause ∈ query, clause.validate = .ok ()) ∧
        ∃ text after, renderFrom config false 0 "" query {} = .ok text after := by
  have hrender : ∀ text after, query.renderAs config true {} = .ok text after ↔
      (∀ clause ∈ query, clause.validate = .ok ()) ∧
        renderFrom config false 0 "" query {} = .ok text after :=
    fun _ _ => Query.renderAs_eq_ok_iff hne
  have htop : query.render config = query.renderAs config true := rfl
  simp only [← exists_and_left, ← hrender, compile, hvalid, htop]
  cases query.renderAs config true {} <;> simp

/-- What can be written is written up to any of its clauses. -/
theorem exists_renderFrom_initial {clauses first : List Clause} {position : Nat}
    (hfirst : first <+: clauses)
    (hrender : renderFrom config false position front clauses before = .ok text after) :
    ∃ text after, renderFrom config false position front first before = .ok text after := by
  obtain ⟨rest, rfl⟩ := hfirst
  obtain ⟨text, middle, hfirst, _⟩ := renderFrom_append_eq_ok_iff.mp hrender
  exact ⟨text, middle, hfirst⟩

/-- Errors point at the clause that caused them. If clauses do not pass their check, it is the error
    of the first of these. Otherwise it is raised when this clause is added to the ones before it:
    whatever comes before the clause can be compiled, and with the clause there is this error
    already. No position of a query within the clause is reported. -/
theorem compile_error_location (hvalid : config.validate = .ok ()) (hne : query ≠ [])
    (hcompile : compile config query = .error error) :
    ∃ earlier clause later inner, query = earlier ++ clause :: later ∧
      inner.ReportedAt earlier.length error ∧
      ((clause.validate = .error inner ∧ ∀ other ∈ earlier, other.validate = .ok ()) ∨
        (∀ other ∈ query, other.validate = .ok ()) ∧
          (∀ first, first ≠ [] → first <+: earlier →
            ∃ statement, compile config first = .ok statement) ∧
          compile config (earlier ++ [clause]) = .error error ∧
          ∃ text middle after,
            renderFrom config false 0 "" earlier {} = .ok text middle ∧
              clause.renderAbsorbed config middle = .error inner after) := by
  rcases (compile_eq_error_iff hvalid hne).mp hcompile with hcheck | ⟨hpasses, after, hrender⟩
  · obtain ⟨earlier, clause, later, inner, rfl, hearlier, hclause, rfl⟩ :=
      Query.checkFrom_eq_error hcheck
    refine ⟨earlier, clause, later, inner, rfl, ?_, .inl ⟨hclause, hearlier⟩⟩
    rw [Nat.zero_add]
    exact QueryError.reportedAt_atClause (clause.guarded_validate.clause?_eq _ hclause) _
  · obtain ⟨earlier, clause, later, text, middle, inner, rfl, hearlier, hinner, herror⟩ :=
      renderFrom_eq_error_iff.mp hrender
    have hbefore : ∀ other ∈ earlier, other.validate = .ok () :=
      fun other hmem => hpasses other (List.mem_append_left _ hmem)
    have hclause : clause.validate = .ok () :=
      hpasses clause (List.mem_append_right _ List.mem_cons_self)
    have hreported := QueryError.reportedAt_atClause
      (clause.ensures_renderAbsorbed.clause?_eq _ _ _ hinner) earlier.length
    refine ⟨earlier, clause, later, inner, rfl, ?_, .inr ⟨hpasses, fun first hfirst hinitial => ?_,
      ?_, text, middle, after, hearlier, hinner⟩⟩
    · rwa [← herror, Nat.zero_add]
    · apply (exists_compile_iff hvalid hfirst).mpr
      exact ⟨fun other hmem => hbefore other (hinitial.subset hmem),
        exists_renderFrom_initial hinitial hearlier⟩
    · apply (compile_eq_error_iff hvalid (by simp)).mpr
      refine .inr ⟨?_, after, renderFrom_eq_error_iff.mpr
        ⟨earlier, clause, [], text, middle, inner, rfl, hearlier, hinner, herror⟩⟩
      simp only [List.forall_mem_append, List.forall_mem_singleton]
      exact ⟨hbefore, hclause⟩

end Compile

/-- The people, each with the number of friends below an age, which may be absent. -/
def friendsBelow (age : Value) : Query :=
  [.matching false [.node (.mk { aliasName := "p", label := some "Person" } [] none)] none,
    .returning (.mk
      [.mk (.subquery .count
        [.matching false
          [.edge (.mk { aliasName := "p" } [] none) { label := some "KNOWS" } .outgoing [] none
            (.mk { aliasName := "f" } [] none)]
          (some (.compare ⟨"f", "age"⟩ .lt (.value age)))] []) (some "friends")]
      false [] none none)]

/-- The first clause of the query within the second one is to blame. The second one is reported. -/
theorem friendsBelow_error_location :
    compile (.plain {}) (friendsBelow .null) =
        .error (.failure (some 1) "predicate" (.neverMatches "f.age" "<")) ∧
      ∃ statement, compile (.plain {}) ((friendsBelow .null).take 1) = .ok statement := by
  have herror : compile (.plain {}) (friendsBelow .null) =
      .error (.failure (some 1) "predicate" (.neverMatches "f.age" "<")) := by
    rfl
  refine ⟨herror, ?_⟩
  obtain ⟨earlier, clause, later, inner, hquery, hreported, hcause⟩ :=
    compile_error_location (by rfl) (by decide) herror
  generalize hposition : earlier.length = position at hreported
  cases hreported
  have hearlier : (friendsBelow .null).take 1 = earlier := by
    rw [hquery, ← hposition, List.take_left]
  have hpasses : ∀ other ∈ friendsBelow .null, other.validate = .ok () := by
    simp [friendsBelow, Clause.validate]
  rcases hcause with ⟨hclause, _⟩ | ⟨_, hinitials, _⟩
  · rw [hpasses clause (by simp [hquery])] at hclause
    cases hclause
  · rw [hearlier]
    exact hinitials earlier (by simp [← hearlier, friendsBelow]) List.prefix_rfl

end GraphQuery
