import GraphQuery.Proofs.Name
import Mathlib.Data.List.Infix

namespace GraphQuery

namespace Name

/-- What the names of anonymous parameters may begin with: an ASCII letter and further ASCII letters
    and digits. -/
def IsStem (stem : String) : Prop :=
  ∃ c rest, stem.toList = c :: rest ∧ c.isAlpha = true ∧ ∀ d ∈ stem.toList, d.isAlphanum = true

theorem isStem_of_validate {settings : Settings} (hvalid : settings.validate = .ok ()) :
    IsStem settings.parameterStem := by
  simp only [Settings.validate] at hvalid
  split at hvalid
  · cases hvalid
  · rename_i hchars
    split at hvalid
    · cases hvalid
    · rename_i hfirst
      simp only [Bool.or_eq_true, Bool.not_eq_true', not_or, Bool.not_eq_true,
        Bool.not_eq_false, List.all_eq_true] at hchars hfirst
      obtain ⟨hnonempty, halphanum⟩ := hchars
      cases hstem : settings.parameterStem.toList with
      | nil => simp [hstem] at hnonempty
      | cons c rest =>
        refine ⟨c, rest, hstem, hfirst c (by simp [hstem]), halphanum⟩

variable {stem : String}

theorem IsStem.isIdentifier (hstem : IsStem stem) : isIdentifier stem = true := by
  obtain ⟨c, rest, hcons, halpha, halphanum⟩ := hstem
  refine isIdentifier_iff.mpr ⟨c, rest, hcons, ?_, fun d hmem => ?_⟩
  · rw [isStart, isAlphabetic_of_isAlpha halpha, Bool.true_or]
  · exact isPart_of_isAlphanumeric
      (isAlphanumeric_of_isAlphanum (halphanum d (hcons ▸ List.mem_cons_of_mem c hmem)))

theorem isIdentifier_anonymous (hstem : IsStem stem) (n : Nat) :
    isIdentifier (anonymous stem n) = true := by
  have happend := isIdentifier_append (toString n).toList hstem.isIdentifier fun c hmem =>
    isPart_of_isAlphanumeric (isAlphanumeric_of_isDigit (isDigit_of_mem_toString hmem))
  rwa [String.ofList_toList] at happend

theorem isAnonymous_iff {name : String} :
    isAnonymous stem name = true ↔
      ∃ digits, name.toList = stem.toList ++ digits ∧ digits ≠ [] ∧
        ∀ d ∈ digits, d.isDigit = true := by
  unfold isAnonymous
  rw [Bool.and_eq_true, List.isPrefixOf_iff_prefix]
  constructor
  · rintro ⟨⟨digits, heq⟩, hdigits⟩
    rw [← heq, ← String.length_toList, List.drop_left] at hdigits
    simp only [Bool.and_eq_true, Bool.not_eq_true', List.isEmpty_eq_false_iff,
      List.all_eq_true] at hdigits
    exact ⟨digits, heq.symm, hdigits⟩
  · rintro ⟨digits, heq, hnonempty, hdigits⟩
    refine ⟨⟨digits, heq.symm⟩, ?_⟩
    rw [heq, ← String.length_toList, List.drop_left]
    simpa using ⟨hnonempty, hdigits⟩

theorem isAnonymous_anonymous (stem : String) (n : Nat) :
    isAnonymous stem (anonymous stem n) = true := by
  refine isAnonymous_iff.mpr ⟨(toString n).toList, String.toList_append, ?_,
    fun d hmem => isDigit_of_mem_toString hmem⟩
  rw [Nat.toString_eq_repr, Nat.toList_repr]
  exact Nat.toDigits_ne_nil

theorem anonymous_injective {n m : Nat} (heq : anonymous stem n = anonymous stem m) : n = m := by
  have hlists := congrArg String.toList heq
  rw [anonymous, anonymous, String.toList_append, String.toList_append] at hlists
  exact toString_injective (String.toList_injective (List.append_cancel_left hlists))

theorem underscore_mem_semantic (aliasName column : String) :
    '_' ∈ (semantic aliasName column).toList := by
  unfold semantic
  split
  · simp
  · simp

/-- A name shared by the values of a column has an underscore in it, which no anonymous name has. -/
theorem isAnonymous_semantic (hstem : IsStem stem) (aliasName column : String) :
    isAnonymous stem (semantic aliasName column) = false := by
  obtain ⟨_, _, _, _, halphanum⟩ := hstem
  by_contra hanonymous
  obtain ⟨digits, heq, _, hdigits⟩ := isAnonymous_iff.mp (Bool.not_eq_false _ ▸ hanonymous)
  have hmem := underscore_mem_semantic aliasName column
  rw [heq] at hmem
  rcases List.mem_append.mp hmem with hstem | hdigit
  · exact absurd (halphanum '_' hstem) (by decide)
  · exact absurd (hdigits '_' hdigit) (by decide)

theorem anonymous_ne_semantic (hstem : IsStem stem) (n : Nat)
    (aliasName column : String) : anonymous stem n ≠ semantic aliasName column := by
  intro heq
  have hanonymous := isAnonymous_anonymous stem n
  rw [heq, isAnonymous_semantic hstem] at hanonymous
  cases hanonymous

theorem isPart_of_mem_escapePart {part : String} {c : Char} (hmem : c ∈ escapePart part) :
    isPart c = true := by
  obtain ⟨source, _, hmem⟩ := List.mem_flatMap.mp hmem
  unfold escapeChar at hmem
  split at hmem
  · have heq : c = '_' := by simpa using hmem
    rw [heq]
    decide
  · split at hmem
    · rename_i halphanumeric
      rw [List.mem_singleton.mp hmem]
      exact isPart_of_isAlphanumeric halphanumeric
    · rcases List.mem_cons.mp hmem with rfl | hmem
      · decide
      · rcases List.mem_cons.mp hmem with rfl | hmem
        · decide
        · rcases List.mem_append.mp hmem with hzero | hdigit
          · rw [List.eq_of_mem_replicate hzero]
            decide
          · exact isPart_of_isAlphanumeric (isAlphanumeric_of_mem_toDigits hdigit)

theorem isIdentifier_semantic {aliasName : String} (halias : isIdentifier aliasName = true)
    (column : String) : isIdentifier (semantic aliasName column) = true := by
  unfold semantic
  split
  · rename_i hplain
    simp only [isPlainPair, Bool.and_eq_true, List.all_eq_true] at hplain
    have happend := isIdentifier_append ('_' :: column.toList) halias fun c hmem => by
      rcases List.mem_cons.mp hmem with rfl | hcolumn
      · decide
      · exact hplain.2 c hcolumn
    have hjoin : aliasName ++ "_" ++ column =
        aliasName ++ String.ofList ('_' :: column.toList) := by
      apply String.toList_injective
      simp
    rwa [hjoin]
  · refine isIdentifier_iff.mpr ⟨'_', _, by simp; rfl, by decide, fun c hmem => ?_⟩
    simp only [List.mem_append, List.mem_cons] at hmem
    rcases hmem with hdigit | rfl | hescaped | rfl | hescaped
    · rw [← Nat.toList_repr, ← Nat.toString_eq_repr] at hdigit
      exact isPart_of_isAlphanumeric (isAlphanumeric_of_isDigit (isDigit_of_mem_toString hdigit))
    · decide
    · exact isPart_of_mem_escapePart hescaped
    · decide
    · exact isPart_of_mem_escapePart hescaped

end Name

end GraphQuery
