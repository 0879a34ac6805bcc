import GraphQuery.Proofs.Template.Part

namespace GraphQuery

open Template Statement

variable {config : Config} {before after : Scope}

theorem silent_vectorText {component text : String} {elements : List Single}
    (hvector : vectorText component elements = .ok text) : Silent text := by
  unfold vectorText at hvector
  split at hvector
  · cases hvector
  · cases hvector
    have hitems : Silent (Text.commaJoin (elements.map Binary.text)) := by
      refine silent_commaJoin fun item hmem => ?_
      obtain ⟨element, _, rfl⟩ := List.mem_map.mp hmem
      exact silent_binaryText element
    exact ((silent_of_bare _ rfl).append hitems).append (silent_of_bare _ rfl)

namespace VectorSearch

variable {search : VectorSearch}

/-- The count is the only parameter of a search, and is bound before anything behind the call. -/
theorem written_call {text : String} (hrender : search.renderCall config before = .ok text after) :
    Written config (search.callTemplate config) before text after ∧
      Name.isIdentifier search.aliasName = true := by
  simp only [renderCall, RenderM.bind_eq_ok, RenderM.lift_eq_ok] at hrender
  obtain ⟨_, _, ⟨_, rfl⟩, _, _, ⟨halias, rfl⟩, _, _, ⟨hprocedure, rfl⟩, vector, _,
    ⟨hvector, rfl⟩, hrender⟩ := hrender
  have halias := Name.isIdentifier_of_checkAlias halias
  refine ⟨?_, halias⟩
  unfold callTemplate countValue
  cases hcount : SizedInt.ofInt? .int64 search.count with
  | none =>
    rw [hcount] at hrender
    exact absurd hrender RenderM.fail_ne_ok
  | some count =>
    simp only [hcount, RenderM.bind_eq_ok, RenderM.pure_eq_ok] at hrender
    obtain ⟨placeholder, _, hbind, rfl, rfl⟩ := hrender
    have hcomma := silent_of_bare ", " rfl
    have hnames := (((((silent_of_bare "CALL " rfl).append
      (silent_of_isProcedure (Name.isProcedure_of_checkProcedure hprocedure))).append
        (silent_of_bare "(" rfl)).append (silent_quoted search.schema.name)).append
          hcomma).append
            ((silent_quoted (search.index.getD
              (config.indexName search.schema.name search.column))).append hcomma)
    have hresult := (((silent_of_bare ") WITH node AS " rfl).append
      (silent_of_isIdentifier halias)).append hcomma).append
        (silent_of_bare distanceColumn rfl)
    have hbreaks : breaksOff (") WITH node AS " ++ search.aliasName ++ ", " ++ distanceColumn) =
        true :=
      breaksOff_append _ (breaksOff_append _ (breaksOff_append _ rfl))
    have hvalue := ((Written.value hbind).append_text hresult hbreaks).text_cons hcomma
    have hvector : Written config (checked (vectorText component search.vector)) before vector
        before := Written.checked hvector (silent_vectorText hvector)
    have hwritten := (hvector.append hvalue (detached_text _ rfl)).text_cons hnames
    simpa only [String.append_assoc, List.cons_append, List.nil_append] using hwritten

theorem written_tail (halias : Name.isIdentifier search.aliasName = true)
    {templates : List Template} {texts : List String}
    (hkeys : WrittenAll config templates before texts after) :
    Written config (search.tailTemplate templates) before (search.tail texts) after := by
  have hfront : Silent ((if search.isPipelined then " WITH " else " RETURN ") ++
      search.aliasName ++ ", " ++ distanceColumn) := by
    have hkeyword : Silent (if search.isPipelined then " WITH " else " RETURN ") := by
      refine silent_of_bare _ ?_
      cases search.isPipelined <;> decide
    exact ((hkeyword.append (silent_of_isIdentifier halias)).append
      (silent_of_bare _ rfl)).append (silent_of_bare _ rfl)
  unfold tailTemplate tail
  cases hkeys with
  | nil =>
    have hdistance : WrittenAll config [[.text (distanceColumn ++ " ASC")]] before
        [distanceColumn ++ " ASC"] before := .cons (Written.text (silent_of_bare _ rfl)) .nil
    exact hdistance.orderText.text_cons hfront
  | cons hfirst hrest => exact (WrittenAll.cons hfirst hrest).orderText.text_cons hfront

theorem detached_tailTemplate (keys : List Template) : Detached (search.tailTemplate keys) := by
  have hkeyword : breaksOff (if search.isPipelined then " WITH " else " RETURN ") = true := by
    cases search.isPipelined <;> decide
  exact detached_text _ (breaksOff_append _ (breaksOff_append _ (breaksOff_append _ hkeyword)))

end VectorSearch

end GraphQuery
