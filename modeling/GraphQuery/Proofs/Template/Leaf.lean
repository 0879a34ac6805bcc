import GraphQuery.Proofs.Statement.Number
import GraphQuery.Proofs.Template.Written
import GraphQuery.Query.Leaf

namespace GraphQuery

open Template Statement

variable {config : Config} {before after : Scope}

namespace Name

theorem isIdentifier_of_checkAlias {component name : String}
    (hcheck : checkAlias component name = .ok ()) : isIdentifier name = true := by
  unfold checkAlias at hcheck
  split at hcheck
  · cases hcheck
  · split at hcheck
    · assumption
    · cases hcheck

theorem isProcedure_of_checkProcedure {component name : String}
    (hcheck : checkProcedure component name = .ok ()) : isProcedure name = true := by
  unfold checkProcedure at hcheck
  split at hcheck
  · assumption
  · cases hcheck

theorem eq_written_of_write {component name text : String}
    (hwrite : write component name = .ok text) : text = written name := by
  unfold write at hwrite
  split at hwrite
  · cases hwrite
  · cases hwrite
    rfl

/-- Where a list of names is checked, all of them are identifiers. -/
theorem isIdentifier_of_forM {component : String} {names : List String}
    (hcheck : (names.forM fun name => (checkAlias component name : RenderM Unit)) before =
      .ok () after) : before = after ∧ ∀ name ∈ names, isIdentifier name = true := by
  induction names generalizing before with
  | nil =>
    cases hcheck
    simp
  | cons name names ih =>
    simp only [List.forM_eq_forM, List.forM_cons, RenderM.bind_eq_ok, RenderM.lift_eq_ok] at hcheck
    obtain ⟨_, _, ⟨hname, rfl⟩, hrest⟩ := hcheck
    obtain ⟨hscope, hnames⟩ := ih hrest
    refine ⟨hscope, fun other hmem => ?_⟩
    rcases List.mem_cons.mp hmem with rfl | hmem
    · exact isIdentifier_of_checkAlias hname
    · exact hnames other hmem

end Name

theorem Reference.silent_of_render {reference : Reference} {text : String}
    (hrender : reference.render = .ok text) : Silent text := by
  simp only [Reference.render, Except.bind_eq_ok] at hrender
  obtain ⟨_, halias, hcolumn⟩ := hrender
  split at hcolumn
  · cases hcolumn
  · cases hcolumn
    have hname := silent_of_isIdentifier (Name.isIdentifier_of_checkAlias halias)
    exact (hname.append (silent_of_bare _ rfl)).append (silent_written _)

theorem Written.reference {reference : Reference} {text : String}
    (hrender : reference.render = .ok text) :
    Written config (Template.checked reference.render) before text before :=
  Written.checked hrender (Reference.silent_of_render hrender)

theorem Head.silent_of_labelText {label : Option String} {text : String}
    (hlabel : labelText label = .ok text) : Silent text := by
  cases label with
  | none =>
    cases hlabel
    exact silent_empty
  | some label =>
    obtain ⟨written, hwrite, hlabel⟩ := Except.bind_eq_ok.mp hlabel
    cases hlabel
    rw [Name.eq_written_of_write hwrite]
    exact (silent_of_bare _ rfl).append (silent_written label)

/-- Where the alias and the label of a node or an edge can be written, the alias is empty or an
    identifier. -/
theorem Head.of_render {head : Head} {text : String} (hrender : head.render = .ok text) :
    Silent text ∧ (head.aliasName.isEmpty = false → Name.isIdentifier head.aliasName = true) := by
  simp only [Head.render] at hrender
  by_cases hempty : head.aliasName.isEmpty = true
  · simp only [hempty, Bool.not_true, Bool.false_eq_true, if_false] at hrender
    obtain ⟨label, hlabel, heq⟩ := Except.bind_eq_ok.mp hrender
    cases heq
    have halias : head.aliasName = "" := String.isEmpty_iff.mp hempty
    refine ⟨?_, fun hfalse => absurd (hempty.symm.trans hfalse) (by decide)⟩
    rw [halias]
    exact silent_empty.append (Head.silent_of_labelText hlabel)
  · simp only [Bool.not_eq_true] at hempty
    simp only [hempty, Bool.not_false, if_true] at hrender
    obtain ⟨_, halias, hrender⟩ := Except.bind_eq_ok.mp hrender
    obtain ⟨label, hlabel, heq⟩ := Except.bind_eq_ok.mp hrender
    cases heq
    have hname := Name.isIdentifier_of_checkAlias halias
    exact ⟨(silent_of_isIdentifier hname).append (Head.silent_of_labelText hlabel),
      fun _ => hname⟩

theorem Hops.silent_of_render {hops : Hops} {text : String} (hrender : hops.render = .ok text) :
    Silent text := by
  have hstar := silent_of_bare "*" rfl
  have hdots := silent_of_bare ".." rfl
  unfold Hops.render at hrender
  split at hrender
  · cases hrender
    exact hstar
  · cases hrender
    exact (hstar.append (silent_toString _)).append hdots
  · cases hrender
    exact (silent_of_bare "*.." rfl).append (silent_toString _)
  · split at hrender
    · cases hrender
    · cases hrender
      exact ((hstar.append (silent_toString _)).append hdots).append (silent_toString _)

theorem Hops.breaksOff_of_render {hops : Hops} {text : String} (hrender : hops.render = .ok text) :
    breaksOff text = true := by
  unfold Hops.render at hrender
  split at hrender
  · cases hrender
    decide
  · cases hrender
    exact breaksOff_append _ (breaksOff_append _ rfl)
  · cases hrender
    exact breaksOff_append _ rfl
  · split at hrender
    · cases hrender
    · cases hrender
      exact breaksOff_append _ (breaksOff_append _ (breaksOff_append _ rfl))

/-- The name of an item is kept apart from what it names. -/
theorem Written.append_nameText {template : Template} {text naming : String}
    {name : Option String} (hfirst : Written config template before text after)
    (hname : ReturnItem.nameText name = .ok naming) :
    Written config (template ++ Template.checked (ReturnItem.nameText name)) before
      (text ++ naming) after := by
  rw [hname]
  cases name with
  | none =>
    cases hname
    exact hfirst.append_empty
  | some name =>
    obtain ⟨_, halias, heq⟩ := Except.bind_eq_ok.mp hname
    cases heq
    have hsilent := (silent_of_bare " AS " rfl).append
      (silent_of_isIdentifier (Name.isIdentifier_of_checkAlias halias))
    exact hfirst.append_text hsilent (breaksOff_append _ rfl)

theorem silent_yieldText {yields : List String}
    (hyields : ∀ name ∈ yields, Name.isIdentifier name = true) : Silent (yieldText yields) := by
  unfold yieldText
  split
  · exact silent_empty
  · exact (silent_of_bare _ rfl).append
      (silent_commaJoin fun name hmem => silent_of_isIdentifier (hyields name hmem))

theorem Operand.written {reference : Reference} {comparison : Comparison} {operand : Operand}
    {text : String} (hrender : operand.render config reference comparison before = .ok text after) :
    Written config operand.template before text after := by
  cases operand with
  | value v =>
    cases v with
    | null => exact absurd hrender RenderM.fail_ne_ok
    | _ => exact Written.value hrender
  | reference other =>
    obtain ⟨hother, rfl⟩ := RenderM.lift_eq_ok.mp hrender
    exact Written.reference hother
  | parameter name =>
    obtain ⟨hname, rfl⟩ := RenderM.lift_eq_ok.mp hrender
    exact Written.caller hname

namespace Predicate

theorem writes_isIn (reference : Reference) (values : Value) :
    Writes config (renderIsIn config reference values)
      (Template.checked reference.render ++ [.text " IN ", .value values]) := by
  intro before text after hrender
  simp only [renderIsIn, RenderM.unless_fail_eq_ok, RenderM.bind_eq_ok, RenderM.lift_eq_ok,
    RenderM.pure_eq_ok] at hrender
  obtain ⟨_, left, _, ⟨hleft, rfl⟩, right, _, hbind, rfl, rfl⟩ := hrender
  exact (Written.reference hleft).append_value hbind (silent_of_bare " IN " rfl) rfl

theorem writes_stringMatch (reference : Reference) (kind : StringMatch) (value : Value) :
    Writes config (renderStringMatch config reference kind value)
      (Template.checked reference.render ++
        [.text (" " ++ kind.operator ++ " "), .value value]) := by
  intro before text after hrender
  unfold renderStringMatch at hrender
  cases hstring : value.asString? with
  | none =>
    rw [hstring] at hrender
    exact absurd hrender RenderM.fail_ne_ok
  | some pattern =>
    simp only [hstring, RenderM.unless_fail_eq_ok, RenderM.bind_eq_ok, RenderM.lift_eq_ok,
      RenderM.pure_eq_ok] at hrender
    obtain ⟨_, left, _, ⟨hleft, rfl⟩, right, _, hbind, rfl, rfl⟩ := hrender
    have hoperator : Silent (" " ++ kind.operator ++ " ") := by
      refine silent_of_bare _ ?_
      cases kind <;> decide
    have hbreaks : breaksOff (" " ++ kind.operator ++ " ") = true := by
      cases kind <;> decide
    have hwritten := (Written.reference hleft).append_value hbind hoperator hbreaks
    simpa only [String.append_assoc] using hwritten

theorem writes_custom (text : String) (bindings : Bindings) :
    Writes config (renderCustom config text bindings)
      (enclosed "(" ")" [.verbatim text bindings]) := by
  intro before written after hrender
  simp only [renderCustom, RenderM.unless_fail_eq_ok, RenderM.bind_eq_ok, RenderM.lift_eq_ok]
    at hrender
  obtain ⟨_, _, _, ⟨_, rfl⟩, hrender⟩ := hrender
  cases hunbound : (Placeholder.names text.toList).find? fun name => !bindings.contains name with
  | some name =>
    rw [hunbound] at hrender
    exact absurd hrender RenderM.fail_ne_ok
  | none =>
    simp only [hunbound, RenderM.bind_eq_ok, RenderM.pure_eq_ok] at hrender
    obtain ⟨_, bound, habsorb, rfl, rfl⟩ := hrender
    obtain ⟨hcount, hextends⟩ := Scope.absorb_eq_ok habsorb
    exact (Written.verbatim hcount hextends).enclosed (silent_of_bare "(" rfl)
      (silent_of_bare ")" rfl) rfl

end Predicate

end GraphQuery
