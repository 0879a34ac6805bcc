import GraphQuery.Proofs.Name.Written
import GraphQuery.Proofs.Predicate.Plain
import GraphQuery.Proofs.Template.Parameter
import GraphQuery.Proofs.Template.Place
import GraphQuery.Proofs.Template.Render

namespace GraphQuery

/-- Where a reference can be written, its alias is an identifier and stands in front of its
    column. -/
theorem Reference.of_render {reference : Reference} {text : String}
    (hrender : reference.render = .ok text) :
    Name.isIdentifier reference.aliasName = true ∧
      text.toList = reference.aliasName.toList ++
        '.' :: (Name.written reference.column).toList := by
  simp only [Reference.render, Except.bind_eq_ok] at hrender
  obtain ⟨_, halias, hcolumn⟩ := hrender
  split at hcolumn
  · cases hcolumn
  · cases hcolumn
    exact ⟨Name.isIdentifier_of_checkAlias halias, by simp⟩

/-- A reference can be told from what is written for it. -/
theorem Reference.append_inj {reference reference' : Reference} {text text' : String}
    {rest rest' : List Char} (hrender : reference.render = .ok text)
    (hrender' : reference'.render = .ok text') (hrest : Text.Ends Name.continues rest)
    (hrest' : Text.Ends Name.continues rest')
    (heq : text.toList ++ rest = text'.toList ++ rest') :
    reference = reference' ∧ rest = rest' := by
  obtain ⟨halias, htext⟩ := Reference.of_render hrender
  obtain ⟨halias', htext'⟩ := Reference.of_render hrender'
  rw [htext, htext', List.append_assoc, List.append_assoc] at heq
  have hdot : Name.isPart '.' = false := by decide
  obtain ⟨haliases, hcolumns⟩ := Name.identifier_append_inj halias halias'
    (Text.ends_cons hdot _) (Text.ends_cons hdot _) heq
  obtain ⟨hcolumn, hrests⟩ := Name.written_append_inj hrest hrest' (List.cons.inj hcolumns).2
  exact ⟨by rw [Reference.mk.injEq]; exact ⟨haliases, hcolumn⟩, hrests⟩

namespace Predicate

/-- What may stand behind a condition: nothing, or the parenthesis that closes the group it is
    in. -/
def Closes (text : List Char) : Prop :=
  ∀ c ∈ text.head?, c = ')'

theorem Closes.nil : Closes [] := by
  intro c hmem
  cases hmem

theorem Closes.cons (text : List Char) : Closes (')' :: text) := by
  intro c hmem
  exact (Option.some.inj hmem).symm

theorem Closes.ends {text : List Char} (hcloses : Closes text) :
    Text.Ends Name.continues text := by
  intro c hmem
  rw [hcloses c hmem]
  decide

variable {stem : String} {text text' rest rest' : List Char}

/-- What is written for an operand. Whether the name behind a dollar sign is anonymous tells a value
    from a parameter of the caller's. -/
inductive OperandSpelled (stem : String) : Option Operand → List Char → Prop where
  | none : OperandSpelled stem none []
  | reference {reference : Reference} {text : String} (hrender : reference.render = .ok text) :
    OperandSpelled stem (some (.reference reference)) text.toList
  | named {operand : Operand} {name : String} (hname : Name.isIdentifier name = true)
    (hoperand : operand.erased =
      if Name.isAnonymous stem name = true then .value .null else .parameter name) :
    OperandSpelled stem (some operand) ('$' :: name.toList)

theorem OperandSpelled.of_bind {config : Config} (hstem : Name.IsStem config.parameterStem)
    {v : Value} {before after : Scope} {text : String}
    (hbind : Scope.bindAnonymous config v before = .ok text after) :
    OperandSpelled config.parameterStem (some (.value v)) text.toList := by
  let name := Name.anonymous config.parameterStem (before.count + 1)
  have hspelled : OperandSpelled config.parameterStem (some (.value v)) ('$' :: name.toList) :=
    .named (Name.isIdentifier_anonymous hstem _) (by rw [Name.isAnonymous_anonymous]; rfl)
  rw [(Scope.bindAnonymous_eq_ok hbind).1]
  simpa [Name.placeholder] using hspelled

theorem OperandSpelled.of_render {config : Config} (hstem : Name.IsStem config.parameterStem)
    {reference : Reference} {comparison : Comparison} {operand : Operand} {before after : Scope}
    {text : String} (hrender : operand.render config reference comparison before = .ok text after) :
    OperandSpelled config.parameterStem (some operand) text.toList := by
  cases operand with
  | value v =>
    cases v with
    | null => exact absurd hrender RenderM.fail_ne_ok
    | _ => exact .of_bind hstem hrender
  | reference other => exact .reference (RenderM.lift_eq_ok.mp hrender).1
  | parameter name =>
    obtain ⟨hname, hanonymous, rfl⟩ := Name.of_callerPlaceholder (RenderM.lift_eq_ok.mp hrender).1
    have hspelled : OperandSpelled config.parameterStem (some (.parameter name))
        ('$' :: name.toList) :=
      .named hname (by rw [hanonymous]; rfl)
    simpa [Name.placeholder] using hspelled

/-- No reference begins with a dollar sign. -/
theorem ne_dollar_of_render {reference : Reference} {written : String}
    (hrender : reference.render = .ok written) :
    written.toList ++ rest ≠ '$' :: rest' := by
  intro heq
  obtain ⟨halias, hwritten⟩ := Reference.of_render hrender
  obtain ⟨c, parts, hcons, hstart, _⟩ := Name.isIdentifier_iff.mp halias
  have hdollar : c = '$' := by simpa [hwritten, hcons] using congrArg List.head? heq
  rw [hdollar] at hstart
  exact absurd hstart (by decide)

/-- An operand can be told, up to its value, from what is written for it. -/
theorem OperandSpelled.unique {operand operand' : Option Operand}
    (hfirst : OperandSpelled stem operand text) (hsecond : OperandSpelled stem operand' text')
    (hpresent : operand.isSome = operand'.isSome) (hrest : Closes rest) (hrest' : Closes rest')
    (heq : text ++ rest = text' ++ rest') :
    operand.map Operand.erased = operand'.map Operand.erased ∧ rest = rest' := by
  cases hfirst with
  | none =>
    cases hsecond with
    | none => exact ⟨rfl, heq⟩
    | reference | named => cases hpresent
  | reference hrender =>
    cases hsecond with
    | none => cases hpresent
    | reference hrender' =>
      obtain ⟨rfl, hrests⟩ := Reference.append_inj hrender hrender' hrest.ends hrest'.ends heq
      exact ⟨rfl, hrests⟩
    | named => exact absurd heq (ne_dollar_of_render hrender)
  | named hname hoperand =>
    cases hsecond with
    | none => cases hpresent
    | reference hrender' => exact absurd heq.symm (ne_dollar_of_render hrender')
    | named hname' hoperand' =>
      obtain ⟨rfl, hrests⟩ := Name.identifier_append_inj hname hname'
        (Name.ends_isPart_of_continues hrest.ends) (Name.ends_isPart_of_continues hrest'.ends)
        (List.cons.inj heq).2
      exact ⟨by simp [hoperand, hoperand'], hrests⟩

/-- The ways a condition is written, which differ in what stands behind the first name: nothing
    that belongs to a truth value, a dot behind an alias, a space behind a negation, and behind no
    name at all the parenthesis of a group. -/
inductive Form where
  | literal
  | test
  | negation
  | group

/-- The way a condition is written, by the first character that is not part of a name. -/
def Form.ofText (text : List Char) : Form :=
  match (text.dropWhile Name.isPart).head? with
  | some '.' => .test
  | some ' ' => .negation
  | some '(' => .group
  | _ => .literal

/-- Two conditions that both have to hold, or one of which has to. -/
def joined (isAnd : Bool) (first second : Predicate) : Predicate :=
  if isAnd then .and first second else .or first second

/-- The operator between two conditions, with the parentheses on both sides of it. -/
def connective (isAnd : Bool) : String :=
  if isAnd then ") AND (" else ") OR ("

theorem erased_joined (isAnd : Bool) (first second : Predicate) :
    (joined isAnd first second).erased = joined isAnd first.erased second.erased := by
  cases isAnd <;> simp [joined, erased]

/-- The two operators can be told apart, whatever is written behind them. -/
theorem connective_append_inj {isAnd isAnd' : Bool} {rest rest' : List Char}
    (heq : (connective isAnd).toList ++ rest = (connective isAnd').toList ++ rest') :
    isAnd = isAnd' ∧ rest = rest' := by
  cases isAnd <;> cases isAnd' <;> simp_all [connective]

/-- What is written for a condition, with the form it has. -/
inductive Spelled (stem : String) : Form → Predicate → List Char → Prop where
  | literal (value : Bool) :
    Spelled stem .literal (.literal value) (if value then "true" else "false").toList
  | test {predicate : Predicate} {reference : Reference} {test : Test} {operand : Option Operand}
    {column : String} {text : List Char} (htest : IsTest predicate reference test operand)
    (hcolumn : reference.render = .ok column) (hoperand : OperandSpelled stem operand text) :
    Spelled stem .test predicate (column.toList ++ (test.symbol.toList ++ text))
  | negation {form : Form} {inner : Predicate} {text : List Char}
    (hinner : Spelled stem form inner text) :
    Spelled stem .negation (.not inner) ("NOT (".toList ++ (text ++ [')']))
  | group (isAnd : Bool) {form form' : Form} {first second : Predicate} {text more : List Char}
    (hfirst : Spelled stem form first text) (hsecond : Spelled stem form' second more) :
    Spelled stem .group (joined isAnd first second)
      ('(' :: (text ++ ((connective isAnd).toList ++ (more ++ [')']))))

theorem isPart_of_mem_literal (value : Bool) :
    ∀ c ∈ (if value then "true" else "false").toList, Name.isPart c = true := by
  rw [← List.all_eq_true]
  cases value <;> decide

/-- The form of a condition can be told from what is written for it, whatever it is followed by. -/
theorem Spelled.ofText_append {form : Form} {predicate : Predicate}
    (hspelled : Spelled stem form predicate text) (hrest : Closes rest) :
    Form.ofText (text ++ rest) = form := by
  have hdivided : ∀ {word behind : List Char}, (∀ c ∈ word, Name.isPart c = true) →
      Form.ofText (word ++ behind) = Form.ofText behind := by
    intro word behind hword
    rw [Form.ofText, List.dropWhile_append_of_pos hword, Form.ofText]
  cases hspelled with
  | literal value =>
    rw [hdivided (isPart_of_mem_literal value)]
    cases rest with
    | nil => rfl
    | cons c rest =>
      obtain rfl := hrest c rfl
      rfl
  | @test _ reference _ _ _ _ _ hcolumn _ =>
    obtain ⟨halias, hcolumn⟩ := Reference.of_render hcolumn
    rw [hcolumn, List.append_assoc, List.append_assoc,
      hdivided fun c hmem => Name.isPart_of_isIdentifier halias hmem]
    rfl
  | negation _ => rfl
  | group => rfl

/-- Conditions for which the same is written have the same form. -/
theorem Spelled.form_eq {form form' : Form} {p q : Predicate} (hp : Spelled stem form p text)
    (hq : Spelled stem form' q text') (hrest : Closes rest) (hrest' : Closes rest')
    (heq : text ++ rest = text' ++ rest') : form = form' := by
  rw [← hp.ofText_append hrest, heq, hq.ofText_append hrest']

/-- A condition can be told, up to its values, from what is written for it. -/
theorem Spelled.unique {form form' : Form} {p q : Predicate} (hp : Spelled stem form p text)
    (hq : Spelled stem form' q text') (hrest : Closes rest) (hrest' : Closes rest')
    (heq : text ++ rest = text' ++ rest') : p.erased = q.erased ∧ rest = rest' := by
  have hforms := hp.form_eq hq hrest hrest' heq
  induction hp generalizing form' q text' rest rest' with
  | literal value =>
    subst hforms
    cases hq with
    | literal value' =>
      obtain ⟨hwords, hrests⟩ := Text.append_inj_of_run (isPart_of_mem_literal value)
        (isPart_of_mem_literal value') (Name.ends_isPart_of_continues hrest.ends)
        (Name.ends_isPart_of_continues hrest'.ends) heq
      have hvalues : value = value' := by
        revert hwords
        cases value <;> cases value' <;> decide
      exact ⟨by rw [hvalues], hrests⟩
  | @test _ _ test _ _ _ htest hcolumn hoperand =>
    subst hforms
    cases hq with
    | @test _ _ test' _ _ _ htest' hcolumn' hoperand' =>
      rw [List.append_assoc, List.append_assoc, List.append_assoc, List.append_assoc] at heq
      obtain ⟨rfl, hsymbols⟩ := Reference.append_inj hcolumn hcolumn' (test.ends_symbol_append _)
        (test'.ends_symbol_append _) heq
      obtain ⟨rfl, hoperands⟩ := Test.symbol_append_inj hsymbols
      obtain ⟨herased, hrests⟩ := hoperand.unique hoperand' (htest.isSome_eq htest') hrest hrest'
        hoperands
      exact ⟨htest.erased_eq htest' herased, hrests⟩
  | negation hinner ih =>
    subst hforms
    cases hq with
    | negation hinner' =>
      rw [List.append_assoc, List.append_assoc, List.append_assoc, List.append_assoc] at heq
      have hinners := List.append_cancel_left heq
      obtain ⟨herased, hrests⟩ := ih hinner' (Closes.cons _) (Closes.cons _) hinners
        (hinner.form_eq hinner' (Closes.cons _) (Closes.cons _) hinners)
      exact ⟨by rw [erased, erased, herased], (List.cons.inj hrests).2⟩
  | group isAnd hfirst hsecond ihfirst ihsecond =>
    subst hforms
    generalize hform : Form.group = form at hq
    cases hq with
    | group isAnd' hfirst' hsecond' =>
      simp only [List.cons_append, List.append_assoc] at heq
      have hfirsts := (List.cons.inj heq).2
      have hcloses : ∀ isAnd more, Closes ((connective isAnd).toList ++ more) := by
        intro isAnd more
        cases isAnd <;> exact Closes.cons _
      obtain ⟨herased, hconnectives⟩ := ihfirst hfirst' (hcloses _ _) (hcloses _ _) hfirsts
        (hfirst.form_eq hfirst' (hcloses _ _) (hcloses _ _) hfirsts)
      obtain ⟨rfl, hseconds⟩ := connective_append_inj hconnectives
      obtain ⟨herased', hrests⟩ := ihsecond hsecond' (Closes.cons _) (Closes.cons _) hseconds
        (hsecond.form_eq hsecond' (Closes.cons _) (Closes.cons _) hseconds)
      exact ⟨by rw [erased_joined, erased_joined, herased, herased'], (List.cons.inj hrests).2⟩
    | _ => cases hform

/-- Whatever is written for a condition is a spelling of it. -/
theorem exists_spelled {config : Config} (hstem : Name.IsStem config.parameterStem)
    {predicate : Predicate} (hplain : IsPlain predicate) {before after : Scope} {text : String}
    (hrender : predicate.render config before = .ok text after) :
    ∃ form, Spelled config.parameterStem form predicate text.toList := by
  induction hplain generalizing before after text with
  | literal value =>
    simp only [render, RenderM.pure_eq_ok] at hrender
    obtain ⟨rfl, rfl⟩ := hrender
    exact ⟨_, .literal value⟩
  | compare reference comparison operand =>
    simp only [render, RenderM.bind_eq_ok, RenderM.lift_eq_ok, RenderM.pure_eq_ok] at hrender
    obtain ⟨column, _, ⟨hcolumn, rfl⟩, right, _, hright, rfl, rfl⟩ := hrender
    have hspelled := Spelled.test (.compare reference comparison operand) hcolumn
      (.of_render hstem hright)
    exact ⟨_, by simpa [Test.symbol] using hspelled⟩
  | isNull reference =>
    simp only [render, RenderM.bind_eq_ok, RenderM.lift_eq_ok, RenderM.pure_eq_ok] at hrender
    obtain ⟨column, _, ⟨hcolumn, rfl⟩, rfl, rfl⟩ := hrender
    have hspelled := Spelled.test (.isNull reference) hcolumn
      (.none : OperandSpelled config.parameterStem none [])
    exact ⟨_, by simpa [Test.symbol] using hspelled⟩
  | isNotNull reference =>
    simp only [render, RenderM.bind_eq_ok, RenderM.lift_eq_ok, RenderM.pure_eq_ok] at hrender
    obtain ⟨column, _, ⟨hcolumn, rfl⟩, rfl, rfl⟩ := hrender
    have hspelled := Spelled.test (.isNotNull reference) hcolumn
      (.none : OperandSpelled config.parameterStem none [])
    exact ⟨_, by simpa [Test.symbol] using hspelled⟩
  | isIn reference values =>
    simp only [render, renderIsIn, RenderM.unless_fail_eq_ok, RenderM.bind_eq_ok,
      RenderM.lift_eq_ok, RenderM.pure_eq_ok] at hrender
    obtain ⟨_, column, _, ⟨hcolumn, rfl⟩, right, _, hbind, rfl, rfl⟩ := hrender
    have hspelled := Spelled.test (.isIn reference values) hcolumn (.of_bind hstem hbind)
    exact ⟨_, by simpa [Test.symbol] using hspelled⟩
  | stringMatch reference kind value =>
    rw [render, renderStringMatch] at hrender
    cases hstring : value.asString? with
    | none =>
      rw [hstring] at hrender
      exact absurd hrender RenderM.fail_ne_ok
    | some pattern =>
      simp only [hstring, RenderM.unless_fail_eq_ok, RenderM.bind_eq_ok, RenderM.lift_eq_ok,
        RenderM.pure_eq_ok] at hrender
      obtain ⟨_, column, _, ⟨hcolumn, rfl⟩, right, _, hbind, rfl, rfl⟩ := hrender
      have hspelled := Spelled.test (.stringMatch reference kind value) hcolumn
        (.of_bind hstem hbind)
      exact ⟨_, by simpa [Test.symbol] using hspelled⟩
  | and _ _ ihfirst ihsecond =>
    simp only [render, RenderM.bind_eq_ok, RenderM.pure_eq_ok] at hrender
    obtain ⟨left, _, hleft, right, _, hright, rfl, rfl⟩ := hrender
    obtain ⟨_, hfirst⟩ := ihfirst hleft
    obtain ⟨_, hsecond⟩ := ihsecond hright
    exact ⟨_, by simpa [joined, connective] using Spelled.group true hfirst hsecond⟩
  | or _ _ ihfirst ihsecond =>
    simp only [render, RenderM.bind_eq_ok, RenderM.pure_eq_ok] at hrender
    obtain ⟨left, _, hleft, right, _, hright, rfl, rfl⟩ := hrender
    obtain ⟨_, hfirst⟩ := ihfirst hleft
    obtain ⟨_, hsecond⟩ := ihsecond hright
    exact ⟨_, by simpa [joined, connective] using Spelled.group false hfirst hsecond⟩
  | not _ ih =>
    simp only [render, RenderM.bind_eq_ok, RenderM.pure_eq_ok] at hrender
    obtain ⟨inner, _, hinner, rfl, rfl⟩ := hrender
    obtain ⟨_, hspelled⟩ := ih hinner
    exact ⟨_, by simpa using Spelled.negation hspelled⟩

/-- Conditions for which the same is written differ in nothing but their values. -/
theorem erased_eq_of_render {config : Config} (hstem : Name.IsStem config.parameterStem)
    {p q : Predicate} (hp : IsPlain p) (hq : IsPlain q) {before before' after after' : Scope}
    {text : String} (hrender : p.render config before = .ok text after)
    (hrender' : q.render config before' = .ok text after') : p.erased = q.erased := by
  obtain ⟨_, hspelled⟩ := exists_spelled hstem hp hrender
  obtain ⟨_, hspelled'⟩ := exists_spelled hstem hq hrender'
  exact (hspelled.unique hspelled' Closes.nil Closes.nil rfl).1

/-- The values of a condition are those of the anonymous names it is written with, in order. -/
theorem get?_of_isolated {config : Config} (hstem : Name.IsStem config.parameterStem)
    {predicate : Predicate} (hplain : IsPlain predicate) {before after : Scope}
    {fragment : Fragment}
    (hisolated : Scope.isolated (predicate.render config) before = .ok fragment after) (i : Nat) :
    fragment.bindings.get? (Name.anonymous config.parameterStem (before.count + i + 1)) =
      predicate.places.values[i]? := by
  obtain ⟨inner, hrender, hbindings, _⟩ := Scope.isolated_eq_ok hisolated
  have hwritten := predicate.writes _ _ _ hrender
  have hverbatim : (predicate.template config).hasVerbatim = false := by
    rw [← Template.hasVerbatim_places, predicate.places_template, hplain.hasVerbatim_places]
  have hvalues : (predicate.template config).values = predicate.places.values := by
    rw [← Template.values_places, predicate.places_template]
  rw [hbindings, hwritten.bindings, Bindings.get?_empty, Option.none_or,
    hwritten.sound.get?_entries hstem hverbatim, hvalues]

/-- A condition can be told from its text and its parameters: the parentheses keep the grouping, and
    no column and no parameter is named so as to be taken for anything else. -/
theorem render_injective {config : Config} (hvalid : config.validate = .ok ()) {p q : Predicate}
    (hp : IsPlain p) (hq : IsPlain q) {before after after' : Scope} {fragment : Fragment}
    (hisolated : Scope.isolated (p.render config) before = .ok fragment after)
    (hisolated' : Scope.isolated (q.render config) before = .ok fragment after') : p = q := by
  have hstem := Name.isStem_of_validate hvalid
  obtain ⟨_, hrender, _⟩ := Scope.isolated_eq_ok hisolated
  obtain ⟨_, hrender', _⟩ := Scope.isolated_eq_ok hisolated'
  have herased := erased_eq_of_render hstem hp hq hrender hrender'
  have hvalues : p.places.values = q.places.values := by
    refine List.ext_getElem? fun i => ?_
    rw [← get?_of_isolated hstem hp hisolated, get?_of_isolated hstem hq hisolated']
  exact (hp.eq_of_values_append herased (congrArg (· ++ []) hvalues)).1

/-- A condition whose aliases are keywords and whose columns look like operators, parentheses and
    parameters. -/
def oddlyNamed : Predicate :=
  .or (.not (.and (.compare ⟨"NOT", "a) OR (b"⟩ .eq (.value (.string "x")))
      (.isNull ⟨"true", "c\x60 IS NULL"⟩)))
    (.isIn ⟨"AND", "$param1"⟩ (.list []))

/-- The same condition, put together from its parts. -/
def oddlyJoined : Predicate :=
  let compared := compare ⟨"NOT", "a) OR (b"⟩ .eq (.value (.string "x"))
  joined false (.not (joined true compared (.isNull ⟨"true", "c\x60 IS NULL"⟩)))
    (.isIn ⟨"AND", "$param1"⟩ (.list []))

theorem oddlyNamed_eq_oddlyJoined :
    ∃ fragment after, Scope.isolated (oddlyNamed.render (.plain {})) {} = .ok fragment after ∧
      Scope.isolated (oddlyJoined.render (.plain {})) {} = .ok fragment after ∧
      oddlyNamed = oddlyJoined := by
  obtain ⟨fragment, after, hisolated⟩ : ∃ fragment after,
      Scope.isolated (oddlyNamed.render (.plain {})) {} = .ok fragment after := ⟨_, _, rfl⟩
  have hvalid : (Config.plain {}).validate = .ok () := by decide +kernel
  have hplain : IsPlain oddlyNamed :=
    .or (.not (.and (.compare ..) (.isNull _))) (.isIn ..)
  exact ⟨fragment, after, hisolated, hisolated,
    render_injective hvalid hplain hplain hisolated hisolated⟩

end Predicate

end GraphQuery
