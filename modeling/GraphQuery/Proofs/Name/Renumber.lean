import GraphQuery.Proofs.Name.Parameter

namespace GraphQuery

namespace Name

variable {stem stem' : String} {n n' : Nat}

/-- The name that takes the place of another one where numbering goes on from `n'` with a new stem
    and not from `n` with the old one. Only the anonymous names behind `n` are replaced. -/
def renumber (stem : String) (n : Nat) (stem' : String) (n' : Nat) (name : String) : String :=
  let number := Text.ofDecimal (name.toList.drop stem.length)
  if name = anonymous stem number ∧ n < number then anonymous stem' (n' + (number - n)) else name

/-- A renaming takes the anonymous names behind `n` to those of another stem behind `n'`, in order,
    and leaves a name that is not anonymous as it is. -/
structure Renumbers (rename : String → String) (stem : String) (n : Nat) (stem' : String)
    (n' : Nat) : Prop where
  anonymous_eq : ∀ k, rename (anonymous stem (n + k + 1)) = anonymous stem' (n' + k + 1)
  eq_self : ∀ name, isAnonymous stem name = false → rename name = name

theorem ofDecimal_drop_anonymous (stem : String) (number : Nat) :
    Text.ofDecimal ((anonymous stem number).toList.drop stem.length) = number := by
  rw [anonymous, String.toList_append, ← String.length_toList, List.drop_left,
    Nat.toString_eq_repr, Nat.toList_repr]
  exact Nat.ofDigitChars_ten_toDigits

theorem renumbers_renumber (stem : String) (n : Nat) (stem' : String) (n' : Nat) :
    Renumbers (renumber stem n stem' n') stem n stem' n' where
  anonymous_eq := by
    intro k
    have hbehind : n < n + k + 1 := by omega
    have hnumber : n' + (n + k + 1 - n) = n' + k + 1 := by omega
    simp only [renumber, ofDecimal_drop_anonymous, if_pos (And.intro trivial hbehind), hnumber]
  eq_self := by
    intro name hnamed
    apply if_neg
    rintro ⟨hanonymous, _⟩
    rw [hanonymous, isAnonymous_anonymous] at hnamed
    cases hnamed

namespace Renumbers

variable {rename : String → String}

/-- One name further on, a renaming does the same. -/
theorem next (hrename : Renumbers rename stem n stem' n') :
    Renumbers rename stem (n + 1) stem' (n' + 1) where
  anonymous_eq := by
    intro k
    rw [Nat.add_right_comm n, Nat.add_right_comm n']
    exact hrename.anonymous_eq (k + 1)
  eq_self := hrename.eq_self

theorem anonymous_succ (hrename : Renumbers rename stem n stem' n') :
    rename (anonymous stem (n + 1)) = anonymous stem' (n' + 1) :=
  hrename.anonymous_eq 0

theorem semantic_eq (hrename : Renumbers rename stem n stem' n') (hstem : IsStem stem)
    (aliasName column : String) : rename (semantic aliasName column) = semantic aliasName column :=
  hrename.eq_self _ (isAnonymous_semantic hstem aliasName column)

end Renumbers

/-- The names that values are bound to after `n` anonymous names are taken. -/
def IsHandedOut (stem : String) (n : Nat) (name : String) : Prop :=
  (∃ k, name = anonymous stem (n + k + 1)) ∨ ∃ aliasName column, name = semantic aliasName column

/-- Different names stay different under another numbering. -/
theorem Renumbers.injective {rename : String → String} (hrename : Renumbers rename stem n stem' n')
    (hstem : IsStem stem) (hstem' : IsStem stem') {first second : String}
    (hfirst : IsHandedOut stem n first) (hsecond : IsHandedOut stem n second)
    (heq : rename first = rename second) : first = second := by
  rcases hfirst with ⟨k, rfl⟩ | ⟨aliasName, column, rfl⟩
  · rcases hsecond with ⟨l, rfl⟩ | ⟨aliasName, column, rfl⟩
    · rw [hrename.anonymous_eq, hrename.anonymous_eq] at heq
      have hnumber := anonymous_injective heq
      exact congrArg (anonymous stem) (by omega)
    · rw [hrename.anonymous_eq, hrename.semantic_eq hstem] at heq
      exact absurd heq (anonymous_ne_semantic hstem' _ _ _)
  · rcases hsecond with ⟨l, rfl⟩ | ⟨aliasName', column', rfl⟩
    · rw [hrename.anonymous_eq, hrename.semantic_eq hstem] at heq
      exact absurd heq.symm (anonymous_ne_semantic hstem' _ _ _)
    · rwa [hrename.semantic_eq hstem, hrename.semantic_eq hstem] at heq

end Name

end GraphQuery
