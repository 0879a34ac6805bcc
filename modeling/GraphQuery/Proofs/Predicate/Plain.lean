import GraphQuery.Proofs.Erasure
import GraphQuery.Proofs.Name.Written
import GraphQuery.Proofs.Place
import GraphQuery.Query.Symbol

namespace GraphQuery

/-- An operand is determined by what is left of it without its value, and by the value. -/
theorem Operand.eq_of_values_append {operand operand' : Operand} {more more' : List Value}
    (herased : operand.erased = operand'.erased)
    (hvalues : operand.places.values ++ more = operand'.places.values ++ more') :
    operand = operand' ∧ more = more' := by
  cases operand with
  | value v =>
    cases operand' with
    | value v' =>
      obtain ⟨rfl, hmore⟩ := List.cons.inj hvalues
      exact ⟨rfl, hmore⟩
    | _ => cases herased
  | reference reference =>
    cases operand' with
    | reference reference' => exact ⟨herased, hvalues⟩
    | _ => cases herased
  | parameter name =>
    cases operand' with
    | parameter name' => exact ⟨herased, hvalues⟩
    | _ => cases herased

namespace Predicate

/-- A condition that is made of truth values and of conditions on single columns. -/
inductive IsPlain : Predicate → Prop where
  | literal (value : Bool) : IsPlain (.literal value)
  | compare (reference : Reference) (comparison : Comparison) (operand : Operand) :
    IsPlain (.compare reference comparison operand)
  | isNull (reference : Reference) : IsPlain (.isNull reference)
  | isNotNull (reference : Reference) : IsPlain (.isNotNull reference)
  | isIn (reference : Reference) (values : Value) : IsPlain (.isIn reference values)
  | stringMatch (reference : Reference) (kind : StringMatch) (value : Value) :
    IsPlain (.stringMatch reference kind value)
  | and {first second : Predicate} (hfirst : IsPlain first) (hsecond : IsPlain second) :
    IsPlain (.and first second)
  | or {first second : Predicate} (hfirst : IsPlain first) (hsecond : IsPlain second) :
    IsPlain (.or first second)
  | not {inner : Predicate} (hinner : IsPlain inner) : IsPlain (.not inner)

/-- What is asked of a column. -/
inductive Test where
  | compare (comparison : Comparison)
  | isNull
  | isNotNull
  | isIn
  | stringMatch (kind : StringMatch)
  deriving DecidableEq

/-- What is written for a test, between the column and the operand. -/
def Test.symbol : Test → String
  | .compare comparison => " " ++ comparison.symbol ++ " "
  | .isNull => " IS NULL"
  | .isNotNull => " IS NOT NULL"
  | .isIn => " IN "
  | .stringMatch kind => " " ++ kind.operator ++ " "

/-- All tests there are. -/
def Test.all : List Test :=
  [.compare .eq, .compare .ne, .compare .lt, .compare .le, .compare .gt, .compare .ge, .isNull,
    .isNotNull, .isIn, .stringMatch .contains, .stringMatch .startsWith, .stringMatch .endsWith,
    .stringMatch .regex]

theorem Test.mem_all (test : Test) : test ∈ all := by
  cases test with
  | compare comparison => cases comparison <;> decide
  | stringMatch kind => cases kind <;> decide
  | _ => decide

/-- No symbol is the beginning of another one. -/
theorem Test.eq_of_begins {test test' : Test}
    (hbegins : test.symbol.toList <+: test'.symbol.toList) : test = test' := by
  have hfree : ∀ t ∈ all, ∀ t' ∈ all, t.symbol.toList <+: t'.symbol.toList → t = t' := by
    decide
  exact hfree test test.mem_all test' test'.mem_all hbegins

/-- A symbol is kept apart from the name of the column it stands behind. -/
theorem Test.ends_symbol_append (test : Test) (text : List Char) :
    Text.Ends Name.continues (test.symbol.toList ++ text) := by
  have hspace : ∀ t ∈ all, t.symbol.toList.head? = some ' ' := by decide
  intro c hmem
  rw [List.head?_append, hspace test test.mem_all, Option.some_or, Option.mem_some_iff] at hmem
  rw [← hmem]
  decide

/-- A test can be told from its symbol, whatever is written behind it. -/
theorem Test.symbol_append_inj {test test' : Test} {rest rest' : List Char}
    (heq : test.symbol.toList ++ rest = test'.symbol.toList ++ rest') :
    test = test' ∧ rest = rest' := by
  have hfirst : test.symbol.toList <+: test'.symbol.toList ++ rest' := ⟨rest, heq⟩
  have hsecond : test'.symbol.toList <+: test'.symbol.toList ++ rest' := ⟨rest', rfl⟩
  have htests : test = test' := by
    rcases List.prefix_or_prefix_of_prefix hfirst hsecond with hbegins | hbegins
    · exact eq_of_begins hbegins
    · exact (eq_of_begins hbegins).symm
  subst htests
  exact ⟨rfl, List.append_cancel_left heq⟩

/-- A condition asks something of a single column, with an operand or without one. -/
inductive IsTest : Predicate → Reference → Test → Option Operand → Prop where
  | compare (reference : Reference) (comparison : Comparison) (operand : Operand) :
    IsTest (.compare reference comparison operand) reference (.compare comparison) (some operand)
  | isNull (reference : Reference) : IsTest (.isNull reference) reference .isNull none
  | isNotNull (reference : Reference) : IsTest (.isNotNull reference) reference .isNotNull none
  | isIn (reference : Reference) (values : Value) :
    IsTest (.isIn reference values) reference .isIn (some (.value values))
  | stringMatch (reference : Reference) (kind : StringMatch) (value : Value) :
    IsTest (.stringMatch reference kind value) reference (.stringMatch kind) (some (.value value))

/-- A test is determined by its column, by what is asked of it and by the operand, up to the
    values. -/
theorem IsTest.erased_eq {p q : Predicate} {reference : Reference} {test : Test}
    {operand operand' : Option Operand} (hp : IsTest p reference test operand)
    (hq : IsTest q reference test operand')
    (hoperand : operand.map Operand.erased = operand'.map Operand.erased) :
    p.erased = q.erased := by
  cases hp with
  | compare _ _ operand =>
    cases hq
    simpa [erased] using hoperand
  | isNull | isNotNull | isIn | stringMatch =>
    cases hq
    simp only [erased]

/-- Whether a test has an operand depends on what is asked. -/
theorem IsTest.isSome_eq {p q : Predicate} {reference reference' : Reference} {test : Test}
    {operand operand' : Option Operand} (hp : IsTest p reference test operand)
    (hq : IsTest q reference' test operand') : operand.isSome = operand'.isSome := by
  cases hp <;> cases hq <;> rfl

namespace IsPlain

theorem hasVerbatim_places {p : Predicate} (hplain : IsPlain p) :
    p.places.hasVerbatim = false := by
  induction hplain with
  | compare reference comparison operand => cases operand <;> rfl
  | and _ _ ihfirst ihsecond | or _ _ ihfirst ihsecond =>
    rw [places, Template.hasVerbatim, List.any_append, Bool.or_eq_false_iff]
    exact ⟨ihfirst, ihsecond⟩
  | not _ ih => rwa [places]
  | _ => rfl

/-- A condition is determined by what is left of it without its values, and by the values in
    order. -/
theorem eq_of_values_append {p q : Predicate} (hplain : IsPlain p) (herased : p.erased = q.erased)
    {more more' : List Value} (hvalues : p.places.values ++ more = q.places.values ++ more') :
    p = q ∧ more = more' := by
  induction hplain generalizing q more more' with
  | literal value =>
    cases q with
    | literal value' => exact ⟨by simpa [erased] using herased, hvalues⟩
    | _ => simp [erased] at herased
  | compare reference comparison operand =>
    cases q with
    | compare reference' comparison' operand' =>
      simp only [erased, Predicate.compare.injEq] at herased
      obtain ⟨rfl, rfl, hoperand⟩ := herased
      obtain ⟨rfl, hmore⟩ := Operand.eq_of_values_append hoperand hvalues
      exact ⟨rfl, hmore⟩
    | _ => simp [erased] at herased
  | isNull reference =>
    cases q with
    | isNull reference' => exact ⟨by simpa [erased] using herased, hvalues⟩
    | _ => simp [erased] at herased
  | isNotNull reference =>
    cases q with
    | isNotNull reference' => exact ⟨by simpa [erased] using herased, hvalues⟩
    | _ => simp [erased] at herased
  | isIn reference values =>
    cases q with
    | isIn reference' values' =>
      simp only [erased, Predicate.isIn.injEq, and_true] at herased
      obtain ⟨rfl, hmore⟩ := List.cons.inj hvalues
      exact ⟨congrArg (Predicate.isIn · values) herased, hmore⟩
    | _ => simp [erased] at herased
  | stringMatch reference kind value =>
    cases q with
    | stringMatch reference' kind' value' =>
      simp only [erased, Predicate.stringMatch.injEq, and_true] at herased
      obtain ⟨rfl, rfl⟩ := herased
      obtain ⟨rfl, hmore⟩ := List.cons.inj hvalues
      exact ⟨rfl, hmore⟩
    | _ => simp [erased] at herased
  | and _ _ ihfirst ihsecond =>
    cases q with
    | and first' second' =>
      simp only [erased, Predicate.and.injEq] at herased
      simp only [places, Template.values_append, List.append_assoc] at hvalues
      obtain ⟨rfl, hrest⟩ := ihfirst herased.1 hvalues
      obtain ⟨rfl, hmore⟩ := ihsecond herased.2 hrest
      exact ⟨rfl, hmore⟩
    | _ => simp [erased] at herased
  | or _ _ ihfirst ihsecond =>
    cases q with
    | or first' second' =>
      simp only [erased, Predicate.or.injEq] at herased
      simp only [places, Template.values_append, List.append_assoc] at hvalues
      obtain ⟨rfl, hrest⟩ := ihfirst herased.1 hvalues
      obtain ⟨rfl, hmore⟩ := ihsecond herased.2 hrest
      exact ⟨rfl, hmore⟩
    | _ => simp [erased] at herased
  | not _ ih =>
    cases q with
    | not inner' =>
      simp only [erased, Predicate.not.injEq] at herased
      simp only [places] at hvalues
      obtain ⟨rfl, hmore⟩ := ih herased hvalues
      exact ⟨rfl, hmore⟩
    | _ => simp [erased] at herased

end IsPlain

end Predicate

end GraphQuery
