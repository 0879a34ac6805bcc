import GraphQuery.Proofs.Location
import GraphQuery.Proofs.Record.Writers

namespace GraphQuery

/-- The elements of a vector can be written out if all of them are finite. -/
theorem exists_vectorText {elements : List Single} (component : String)
    (hfinite : ∀ element ∈ elements, element.isFinite = true) :
    ∃ text, vectorText component elements = .ok text := by
  unfold vectorText
  split
  · rename_i hfind
    have hmem := List.fst_mem_of_mem_zipIdx (List.mem_of_find?_eq_some hfind)
    have hinfinite := List.find?_some hfind
    simp [hfinite _ hmem] at hinfinite
  · exact ⟨_, rfl⟩

namespace VectorSearch

/-- A search that asks for something that there is: the property is declared, as a vector of the
    length of the given one, of which all elements are finite, the records are named by an
    identifier, and their number is positive and fits into 64 bits. -/
structure WellPosed (search : VectorSearch) : Prop where
  declared : ∃ property, search.schema.property? search.property = some property ∧
    property.kind = .vector search.vector.length
  finite : ∀ element ∈ search.vector, element.isFinite = true
  named : Name.isIdentifier search.aliasName = true
  positive : 1 ≤ search.count
  fits : search.count ≤ 0x7fffffffffffffff

/-- The query that is nothing but a search, without a condition and in order of the distance. -/
def query (search : VectorSearch) : Query :=
  [.vectorSearch search none []]

variable {search : VectorSearch} {config : Config}

theorem WellPosed.validate_eq (hsearch : search.WellPosed) : search.validate = .ok () := by
  obtain ⟨property, hproperty, hkind⟩ := hsearch.declared
  have hcount : search.count ≠ 0 := Nat.ne_of_gt hsearch.positive
  simp only [validate, Schema.require, hproperty, Except.bind_eq_ok]
  refine ⟨property, rfl, ?_⟩
  rw [hkind, Kind.dimension?]
  dsimp only
  rw [if_neg (not_not.mpr rfl), if_neg hcount]

theorem WellPosed.exists_count (hsearch : search.WellPosed) :
    ∃ count, SizedInt.ofInt? .int64 search.count = some count := by
  have hleast := hsearch.positive
  have hgreatest := hsearch.fits
  have hholds : IntKind.int64.Holds search.count := by
    simp only [IntKind.Holds, IntKind.least, IntKind.greatest]
    omega
  exact ⟨_, dif_pos hholds⟩

/-- A search by a proper procedure is written: the number of results is bound to the first name. -/
theorem WellPosed.exists_render (hsearch : search.WellPosed)
    (hprocedure : Name.isProcedure config.vectorProcedure = true) :
    ∃ text after,
      (Clause.vectorSearch search none []).render config {} = .ok text after := by
  obtain ⟨vector, hvector⟩ := exists_vectorText component hsearch.finite
  obtain ⟨count, hcount⟩ := hsearch.exists_count
  have hfree : (⟨1, .empty⟩ : Scope).bindings.get? (Name.anonymous config.parameterStem 1) = none :=
    Bindings.get?_empty _
  obtain ⟨bindings, hbind, _⟩ := Scope.exists_bind_of_free (.int count) hfree
  have hbound : ∃ text, Scope.bindAnonymous config (.int count) {} = .ok text ⟨1, bindings⟩ := by
    simp only [Scope.bindAnonymous, RenderM.bind_eq_ok, RenderM.pure_eq_ok]
    exact ⟨_, _, _, rfl, (), _, hbind, rfl, rfl⟩
  obtain ⟨text, hbound⟩ := hbound
  have halias := Name.checkAlias_of_isIdentifier component hsearch.named
  have hcheck : Name.checkProcedure component config.vectorProcedure = .ok () := if_pos hprocedure
  have hcall : ∃ call, search.renderCall config {} = .ok call ⟨1, bindings⟩ := by
    simp only [renderCall, RenderM.bind_eq_ok, RenderM.lift_eq_ok, hcount, RenderM.pure_eq_ok]
    exact ⟨_, (), _, ⟨hsearch.validate_eq, rfl⟩, (), _, ⟨halias, rfl⟩, (), _, ⟨hcheck, rfl⟩,
      vector, _, ⟨hvector, rfl⟩, text, _, hbound, rfl, rfl⟩
  obtain ⟨call, hcall⟩ := hcall
  simp only [Clause.render, renderFilter, renderKeys, RenderM.bind_eq_ok, RenderM.pure_eq_ok]
  exact ⟨_, _, call, _, hcall, [], _, ⟨rfl, rfl⟩, [], _, ⟨rfl, rfl⟩, rfl, rfl⟩

/-- A search by anything else is refused for the procedure, before anything is bound. -/
theorem WellPosed.render_eq_error (hsearch : search.WellPosed)
    (hprocedure : Name.isProcedure config.vectorProcedure = false) :
    (Clause.vectorSearch search none []).render config {} =
      .error (.failure none component (.invalidProcedure config.vectorProcedure)) {} := by
  have halias := Name.checkAlias_of_isIdentifier component hsearch.named
  have hcheck : Name.checkProcedure component config.vectorProcedure =
      failWith component (.invalidProcedure config.vectorProcedure) :=
    if_neg (by simp [hprocedure])
  rw [Clause.render, RenderM.bind_eq_error]
  left
  rw [renderCall, hsearch.validate_eq, halias, hcheck]
  rfl

end VectorSearch

/-- Settings that pass their check are not all that a search needs: it is compiled exactly if the
    procedure is a sequence of identifiers with points between them, and is refused for the
    procedure otherwise. The check asks only for a procedure that is not blank. -/
theorem compile_search_iff (config : Config) (search : VectorSearch)
    (hvalid : config.validate = .ok ()) (hsearch : search.WellPosed) :
    ((∃ statement, compile config search.query = .ok statement) ↔
      Name.isProcedure config.vectorProcedure = true) ∧
    (Name.isProcedure config.vectorProcedure = false →
      compile config search.query = .error (.failure (some 0) VectorSearch.component
        (.invalidProcedure config.vectorProcedure))) := by
  have hcheck : (Clause.vectorSearch search none []).validate = .ok () := hsearch.validate_eq
  have hrefused : Name.isProcedure config.vectorProcedure = false →
      compile config search.query = .error (.failure (some 0) VectorSearch.component
        (.invalidProcedure config.vectorProcedure)) := fun hprocedure =>
    compile_eq_error_of_render hvalid hcheck (hsearch.render_eq_error hprocedure)
  refine ⟨⟨?_, fun hprocedure => ?_⟩, hrefused⟩
  · rintro ⟨statement, hcompile⟩
    by_contra hprocedure
    rw [hrefused (Bool.eq_false_of_not_eq_true hprocedure)] at hcompile
    cases hcompile
  · obtain ⟨text, after, hrender⟩ := hsearch.exists_render hprocedure
    exact ⟨_, compile_of_render hvalid hcheck hrender⟩

/-- The documents whose embedding is nearest to the origin of three dimensions. -/
def centralDocuments : VectorSearch where
  schema :=
    { name := "Document"
      properties := [
        { name := "title", kind := .string },
        { name := "embedding", column := some "vec", kind := .vector 3 }] }
  aliasName := "d"
  property := "embedding"
  vector := [.signed false 0, .signed true 0, .signed false 1]
  count := 0x7fffffffffffffff

theorem centralDocuments_wellPosed : centralDocuments.WellPosed where
  declared := ⟨{ name := "embedding", column := some "vec", kind := .vector 3 }, rfl, rfl⟩
  finite := by decide +kernel
  named := by decide +kernel
  positive := by decide
  fits := by decide

/-- With a procedure of a module the documents are found, and with text that is no name they are
    not. Both are settings that pass their check. -/
theorem centralDocuments_compile_iff :
    (∃ statement, compile (.plain { vectorProcedure := "db.index.vector" }) centralDocuments.query =
      .ok statement) ∧
    compile (.plain { vectorProcedure := "db..vector" }) centralDocuments.query =
      .error (.failure (some 0) "vector search" (.invalidProcedure "db..vector")) := by
  have hfound := compile_search_iff (.plain { vectorProcedure := "db.index.vector" })
    centralDocuments (by decide +kernel) centralDocuments_wellPosed
  have hrefused := compile_search_iff (.plain { vectorProcedure := "db..vector" })
    centralDocuments (by decide +kernel) centralDocuments_wellPosed
  exact ⟨hfound.1.mpr (by decide +kernel), hrefused.2 (by decide +kernel)⟩

/-- Settings that pass their check, and a search that cannot be compiled with them. -/
theorem centralDocuments_refused :
    (Config.plain { vectorProcedure := "drop table" }).validate = .ok () ∧
      centralDocuments.WellPosed ∧ centralDocuments.schema.name ≠ "" ∧
      compile (.plain { vectorProcedure := "drop table" }) centralDocuments.query =
        .error (.failure (some 0) "vector search" (.invalidProcedure "drop table")) := by
  refine ⟨by decide +kernel, centralDocuments_wellPosed, by decide, ?_⟩
  rfl

end GraphQuery
