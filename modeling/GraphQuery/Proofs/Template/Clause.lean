import GraphQuery.Proofs.Template.Search
import GraphQuery.Query.Compile

namespace GraphQuery

open Template Statement

variable {config : Config} {before after : Scope}

namespace Pattern

theorem filterTemplates_eq_nil {pattern : Pattern} (hfilters : pattern.filters = []) :
    pattern.filterTemplates config = [] := by
  have hnode : ∀ node : NodePattern, node.filters = [] → node.filterTemplates config = [] := by
    rintro ⟨head, properties, _ | filter⟩ hfilter
    · rfl
    · cases hfilter
  cases pattern with
  | node node => exact hnode node hfilters
  | edge source head direction properties filter target =>
    simp only [filters, List.append_eq_nil_iff] at hfilters
    obtain ⟨⟨hsource, hown⟩, htarget⟩ := hfilters
    cases filter with
    | none => rw [filterTemplates, hnode source hsource, hnode target htarget]; rfl
    | some filter => cases hown
  | path aliasName source label direction hops target =>
    simp only [filters, List.append_eq_nil_iff] at hfilters
    rw [filterTemplates, hnode source hfilters.1, hnode target hfilters.2, List.append_nil]

theorem filters_eq_nil_of_checkCreate {pattern : Pattern}
    (hcheck : pattern.checkCreate = .ok ()) : pattern.filters = [] := by
  cases pattern with
  | path => cases hcheck
  | node node =>
    by_contra hfilters
    rw [checkCreate, if_neg (by simpa using hfilters)] at hcheck
    cases hcheck
  | edge source head direction properties filter target =>
    by_contra hfilters
    rw [checkCreate, if_pos (by simpa using hfilters)] at hcheck
    cases hcheck

theorem filters_eq_nil_of_checkMerge {pattern : Pattern}
    (hcheck : pattern.checkMerge = .ok ()) : pattern.filters = [] := by
  by_contra hfilters
  unfold checkMerge at hcheck
  rw [if_pos (by simpa using hfilters)] at hcheck
  cases hcheck

end Pattern

/-- Nothing that is created has a condition. -/
theorem allFilterTemplates_eq_nil_of_renderCreated {patterns : List Pattern} {texts : List String}
    (hrender : renderCreated config patterns before = .ok texts after) :
    allFilterTemplates config patterns = [] := by
  induction patterns generalizing before texts after with
  | nil => rfl
  | cons pattern patterns ih =>
    rw [renderCreated] at hrender
    simp only [RenderM.bind_eq_ok, RenderM.lift_eq_ok, RenderM.pure_eq_ok] at hrender
    obtain ⟨_, _, ⟨hcheck, rfl⟩, _, _, _, _, _, hrest, _⟩ := hrender
    rw [allFilterTemplates,
      Pattern.filterTemplates_eq_nil (Pattern.filters_eq_nil_of_checkCreate hcheck), ih hrest,
      List.append_nil]

/-- The bounds on the rows that are given out. -/
theorem Written.append_limits {template : Template} {text : String} (skip limit : Option Nat)
    (hfirst : Written config template before text after) :
    Written config
      (template ++ [.text ((match skip with
          | none => ""
          | some count => " SKIP " ++ toString count) ++
        (match limit with
          | none => ""
          | some count => " LIMIT " ++ toString count))]) before
      (text ++ (match skip with
          | none => ""
          | some count => " SKIP " ++ toString count) ++
        (match limit with
          | none => ""
          | some count => " LIMIT " ++ toString count)) after := by
  have hskip : ∀ count : Nat, Silent (" SKIP " ++ toString count) := fun count =>
    (silent_of_bare _ rfl).append (silent_toString count)
  have hlimit : ∀ count : Nat, Silent (" LIMIT " ++ toString count) := fun count =>
    (silent_of_bare _ rfl).append (silent_toString count)
  rw [String.append_assoc]
  cases skip with
  | none =>
    cases limit with
    | none => exact hfirst.append_empty
    | some count =>
      exact hfirst.append_text (silent_empty.append (hlimit count))
        (breaksOff_append (s := " LIMIT ") _ rfl)
  | some count =>
    have hbreaks : breaksOff (" SKIP " ++ toString count) = true := breaksOff_append _ rfl
    refine hfirst.append_text ((hskip count).append ?_) (breaksOff_append _ hbreaks)
    cases limit with
    | none => exact silent_empty
    | some count => exact hlimit count

theorem Template.fill_ne_empty {s : String} (template : Template) (stem : String) (n : Nat)
    (hne : s ≠ "") : Template.fill stem n (.text s :: template) ≠ "" := by
  intro hempty
  rw [fill_cons, Piece.fill, String.append_eq_empty_iff] at hempty
  exact hne hempty.1

theorem append_ne_empty {s : String} (more : String) (hne : s ≠ "") : s ++ more ≠ "" := by
  intro hempty
  exact hne (String.append_eq_empty_iff.mp hempty).1

/-- Every clause writes something, so that clauses are always kept apart. -/
theorem Clause.fill_template_ne_empty (config : Config) (clause : Clause) (stem : String)
    (n : Nat) : (clause.template config).fill stem n ≠ "" := by
  cases clause with
  | matching isOptional patterns filter =>
    cases isOptional <;> exact fill_ne_empty _ stem n (by decide)
  | create patterns => exact fill_ne_empty _ stem n (by decide)
  | merge pattern matchOn onCreate onMatch => exact fill_ne_empty _ stem n (by decide)
  | set assignments => exact fill_ne_empty _ stem n (by decide)
  | delete isDetach aliases =>
    cases isDetach <;> exact fill_ne_empty _ stem n (append_ne_empty _ (by decide))
  | filter predicate => exact fill_ne_empty _ stem n (by decide)
  | returning projection =>
    cases projection
    exact fill_ne_empty _ stem n (append_ne_empty _ (by decide))
  | passing projection filter =>
    cases projection
    exact fill_ne_empty _ stem n (append_ne_empty _ (by decide))
  | unwind source aliasName => exact fill_ne_empty _ stem n (by decide)
  | call procedure arguments options yields filter =>
    exact fill_ne_empty _ stem n (append_ne_empty _ (append_ne_empty _ (by decide)))
  | subquery kind clauses yields => cases kind <;> exact fill_ne_empty _ stem n (by decide)
  | vectorSearch search filter order =>
    have hfront : ∀ second third fourth fifth sixth : String,
        "CALL " ++ config.vectorProcedure ++ second ++ third ++ fourth ++ fifth ++ sixth ≠ "" :=
      fun _ _ _ _ _ => append_ne_empty _ (append_ne_empty _ (append_ne_empty _ (append_ne_empty _
        (append_ne_empty _ (append_ne_empty _ (by decide))))))
    exact fill_ne_empty _ stem n (hfront _ _ _ _ _)

end GraphQuery
