import GraphQuery.Proofs.Compile
import GraphQuery.Proofs.Conflict.Render

namespace GraphQuery

/-- The values of a clause that have a name of their own, each with that name: the inline properties
    of patterns with an alias, what merges match on under an alias, and the values that come with
    conditions in the caller's own words, at any depth. -/
def Clause.named (clause : Clause) : Fields Value :=
  clause.places.named

/-- The values of a query that have a name of their own, each with that name. -/
def Query.named (query : Query) : Fields Value :=
  query.places.named

variable {config : Config} {clauses : List Clause} {before after : Scope}

theorem Query.named_cons (clause : Clause) (clauses : List Clause) :
    Query.named (clause :: clauses) = clause.named ++ Query.named clauses := by
  rw [named, places, clausePlaces, Template.named_append]
  rfl

theorem Query.mem_named {query : Query} {site : String × Value} :
    site ∈ query.named ↔ ∃ i : Nat, ∃ clause, query[i]? = some clause ∧ site ∈ clause.named := by
  induction query with
  | nil => simp [named, places, clausePlaces, Template.named]
  | cons clause clauses ih =>
    rw [named_cons, List.mem_append, ih]
    constructor
    · rintro (hmem | ⟨i, other, hother, hmem⟩)
      · exact ⟨0, clause, rfl, hmem⟩
      · exact ⟨i + 1, other, hother, hmem⟩
    · rintro ⟨_ | i, other, hother, hmem⟩
      · cases hother
        exact .inl hmem
      · exact .inr ⟨i, other, hother, hmem⟩

/-- Where a clause stands has an influence on errors only. -/
theorem renderFrom_eq_ok {isTop : Bool} {position : Nat} {front text : String} :
    renderFrom config isTop position front clauses before = .ok text after ↔
      renderFrom config false position front clauses before = .ok text after := by
  induction clauses generalizing position front before with
  | nil => exact Iff.rfl
  | cons clause clauses ih => simp only [renderFrom, RenderM.bind_eq_ok, RenderM.located_eq_ok, ih]

/-- A conflict is found in the clause that has the value to be bound. By then only the clauses up to
    this one have bound anything. -/
theorem conflict_of_renderFrom (hstem : Name.IsStem config.parameterStem) {position : Nat}
    {front : String} {error : QueryError} (hnumbered : before.Numbered config.parameterStem)
    (hrender : renderFrom config true position front clauses before = .error error after)
    (hconflict : error.isConflict = true) :
    ∃ i clause name existing incoming, clauses[i]? = some clause ∧
      error = .conflict (some (position + i)) name existing incoming ∧
      (name, incoming) ∈ clause.named ∧
      Clash config.parameterStem before (Query.named (clauses.take (i + 1))) name existing
        incoming := by
  induction clauses generalizing position front before with
  | nil => cases hrender
  | cons clause clauses ih =>
    have hclause := (clause.binds hstem).isolated_text
    rw [renderFrom] at hrender
    rcases RenderM.bind_eq_error.mp hrender with hfirst | ⟨next, middle, hfirst, hrest⟩
    · obtain ⟨inner, hinner, rfl⟩ := RenderM.located_eq_error.mp hfirst
      rw [QueryError.isConflict_atClause] at hconflict
      obtain ⟨name, existing, incoming, rfl, hclash⟩ :=
        hclause.conflict _ _ _ hnumbered hinner hconflict
      refine ⟨0, clause, name, existing, incoming, rfl, rfl, hclash.incoming_mem, ?_⟩
      rw [List.take_succ_cons, Query.named_cons]
      exact hclash.append_left _
    · obtain ⟨entries, hadds, hnamed⟩ := hclause.ok _ _ _ (RenderM.located_eq_ok.mp hfirst)
      obtain ⟨i, other, name, existing, incoming, hother, rfl, hmem, hclash⟩ :=
        ih (hadds.numbered_after hnumbered) hrest
      refine ⟨i + 1, other, name, existing, incoming, hother, ?_, hmem, ?_⟩
      · rw [Nat.add_right_comm, Nat.add_assoc]
      · rw [List.take_succ_cons, Query.named_cons, Clause.named, ← hnamed]
        exact hclash.append_right hadds

theorem Query.render_of_ne_nil {query : Query} (hne : query ≠ []) :
    query.render config = (do
      liftM (query.checkFrom 0)
      renderFrom config true 0 "" query) := by
  cases query with
  | nil => exact absurd rfl hne
  | cons => rfl

/-- A query is not compiled if a clause does not pass its check, or else if the clauses cannot be
    written one after another. -/
theorem compile_eq_error_iff {query : Query} {error : QueryError}
    (hvalid : config.validate = .ok ()) (hne : query ≠ []) :
    compile config query = .error error ↔
      query.checkFrom 0 = .error error ∨
        (∀ clause ∈ query, clause.validate = .ok ()) ∧
          ∃ after, renderFrom config true 0 "" query {} = .error error after := by
  have hcompile : compile config query = .error error ↔
      ∃ after, query.render config {} = .error error after := by
    rw [compile, hvalid]
    cases query.render config {} <;> simp
  rw [hcompile, Query.render_of_ne_nil hne]
  constructor
  · rintro ⟨after, hrender⟩
    rcases RenderM.bind_eq_error.mp hrender with hcheck | ⟨_, _, hcheck, hrender⟩
    · exact .inl (RenderM.lift_eq_error hcheck)
    · obtain ⟨hpasses, rfl⟩ := RenderM.lift_eq_ok.mp hcheck
      exact .inr ⟨Query.checkFrom_eq_ok_iff.mp hpasses, after, hrender⟩
  · rintro (hcheck | ⟨hvalidates, after, hrender⟩)
    · refine ⟨{}, RenderM.bind_eq_error.mpr (.inl ?_)⟩
      rw [hcheck]
      rfl
    · refine ⟨after, RenderM.bind_eq_error.mpr (.inr ⟨(), {}, ?_, hrender⟩)⟩
      exact RenderM.lift_eq_ok.mpr ⟨Query.checkFrom_eq_ok_iff.mpr hvalidates, rfl⟩

/-- A conflict is found while a query is written, clause by clause, with nothing bound before. -/
theorem renderFrom_of_compile_conflict {query : Query} {clause : Option Nat} {name : String}
    {existing incoming : Value}
    (hcompile : compile config query = .error (.conflict clause name existing incoming)) :
    Name.IsStem config.parameterStem ∧
      ∃ after, renderFrom config true 0 "" query {} =
        .error (.conflict clause name existing incoming) after := by
  have hvalid : config.validate = .ok () := by
    unfold compile at hcompile
    split at hcompile
    · cases hcompile
    · assumption
  have hne : query ≠ [] := by
    rintro rfl
    rw [compile, hvalid] at hcompile
    cases hcompile
  refine ⟨Name.isStem_of_validate hvalid, ?_⟩
  rcases (compile_eq_error_iff hvalid hne).mp hcompile with hcheck | ⟨_, hrender⟩
  · obtain ⟨_, other, _, inner, _, _, hother, herror⟩ := Query.checkFrom_eq_error hcheck
    have hconflict := other.guarded_validate.isConflict_eq inner hother
    rw [← QueryError.isConflict_atClause _ inner, herror] at hconflict
    cases hconflict
  · exact hrender

/-- Conflicts are reported exactly. In a query that is compiled the values of one name are equal,
    and one of them is bound. The conflict in any other query is between unequal values of one name:
    the clause that is reported has the one, and this clause or one before it the other. -/
theorem compile_conflicts (config : Config) (query : Query) :
    (∀ statement, compile config query = .ok statement →
      query.named.Pairwise (fun a b => a.1 = b.1 → a.2.equals b.2 = true) ∧
        ∀ site ∈ query.named, ∃ v, statement.bindings.get? site.1 = some v ∧
          (site.1, v) ∈ query.named) ∧
      ∀ clause name existing incoming,
        compile config query = .error (.conflict clause name existing incoming) →
          Name.isAnonymous config.parameterStem name = false ∧
            existing.equals incoming = false ∧
              ∃ (i : Nat) (current : Clause), clause = some i ∧ query[i]? = some current ∧
                (name, incoming) ∈ current.named ∧
                  ∃ j ≤ i, ∃ earlier : Clause, query[j]? = some earlier ∧
                    (name, existing) ∈ earlier.named := by
  constructor
  · intro statement hcompile
    obtain ⟨hstem, count, hrender⟩ := renderFrom_of_compile hcompile
    obtain ⟨entries, hadds, hentries⟩ :=
      (bindsFrom hstem query 0 "").ok _ _ _ (renderFrom_eq_ok.mp hrender)
    have hnamed : query.named = namedEntries config.parameterStem entries := hentries.symm
    rw [hnamed]
    refine ⟨hadds.agrees.pairwise.filter _, fun site hmem => ?_⟩
    obtain ⟨hmem, hown⟩ := mem_namedEntries.mp hmem
    obtain ⟨v, hget, _⟩ := Bindings.Agrees.eq_or_equals_of_get? hadds.agrees.pairwise hmem
    refine ⟨v, ?_, mem_namedEntries.mpr ⟨Fields.mem_of_get? hget, hown⟩⟩
    rw [hadds.bindings, Bindings.get?_empty, Option.none_or, hget]
  · intro clause name existing incoming hcompile
    obtain ⟨hstem, _, hrender⟩ := renderFrom_of_compile_conflict hcompile
    obtain ⟨i, current, _, _, _, hcurrent, herror, hmem, hclash⟩ :=
      conflict_of_renderFrom hstem (Scope.numbered_empty _ 0) hrender rfl
    rw [Nat.zero_add] at herror
    cases herror
    refine ⟨hclash.isAnonymous_eq, hclash.equals_eq, i, current, rfl, hcurrent, hmem, ?_⟩
    have hexisting := hclash.existing_mem.resolve_left fun hbound => by cases hbound
    obtain ⟨j, earlier, hearlier, hmem⟩ := Query.mem_named.mp hexisting
    rw [List.getElem?_take] at hearlier
    split at hearlier
    · exact ⟨j, by omega, earlier, hearlier, hmem⟩
    · cases hearlier

/-- The people with a mail address, and then those with another one under the same alias. -/
def peopleByMail (first second : String) : Query :=
  let person := fun mail =>
    .matching false [.node (.mk { aliasName := "p" } [("email", .value (.string mail))] none)] none
  [person first, .returning (.mk [.mk (.named "p") none] false [] none none), person second]

theorem peopleByMail_conflicts :
    (∃ statement, compile (.plain {}) (peopleByMail "a@x.com" "a@x.com") = .ok statement ∧
      statement.bindings.get? "p_email" = some (.string "a@x.com")) ∧
      compile (.plain {}) (peopleByMail "a@x.com" "b@x.com") = .error
        (.conflict (some 2) "p_email" (.string "a@x.com") (.string "b@x.com")) ∧
      Name.isAnonymous "param" "p_email" = false := by
  have hconflict : compile (.plain {}) (peopleByMail "a@x.com" "b@x.com") = .error
      (.conflict (some 2) "p_email" (.string "a@x.com") (.string "b@x.com")) := by
    rfl
  refine ⟨?_, hconflict, ((compile_conflicts _ _).2 _ _ _ _ hconflict).1⟩
  obtain ⟨statement, hcompile⟩ :=
    Except.exists_eq_ok (compile (.plain {}) (peopleByMail "a@x.com" "a@x.com")) (by decide +kernel)
  obtain ⟨_, hbound⟩ := (compile_conflicts _ _).1 statement hcompile
  have hnamed : (peopleByMail "a@x.com" "a@x.com").named =
      [("p_email", .string "a@x.com"), ("p_email", .string "a@x.com")] := by
    rfl
  rw [hnamed] at hbound
  obtain ⟨v, hget, hmem⟩ := hbound _ List.mem_cons_self
  obtain rfl : v = .string "a@x.com" := by simpa using hmem
  exact ⟨statement, hcompile, hget⟩

end GraphQuery
