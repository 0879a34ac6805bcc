import GraphQuery.Proofs.Statement.Reading

namespace GraphQuery

namespace Statement

theorem isBare_of_isDigit {c : Char} (hdigit : c.isDigit = true) : isBare c = true :=
  isBare_of_isPart (Name.isPart_of_isAlphanumeric (Name.isAlphanumeric_of_isDigit hdigit))

theorem isBare_of_mem_toDigits {n : Nat} {c : Char} (hmem : c ∈ Nat.toDigits 10 n) :
    isBare c = true :=
  isBare_of_isDigit (Nat.isDigit_of_mem_toDigits (by decide) (by decide) hmem)

theorem isBare_of_mem_toString_int {n : Int} {c : Char} (hmem : c ∈ (toString n).toList) :
    isBare c = true := by
  cases n with
  | ofNat m => exact isBare_of_isDigit (Name.isDigit_of_mem_toString (n := m) hmem)
  | negSucc m =>
    change c ∈ ("-" ++ toString (m + 1)).toList at hmem
    rw [String.toList_append] at hmem
    rcases List.mem_append.mp hmem with hminus | hdigit
    · have heq : c = '-' := by simpa using hminus
      rw [heq]
      decide
    · exact isBare_of_isDigit (Name.isDigit_of_mem_toString hdigit)

theorem isBare_of_mem_positional {d : Decimal} {c : Char} (hmem : c ∈ d.positional) :
    isBare c = true := by
  have hpadded : ∀ {width : Nat}, c ∈ Text.zeroPad width (Nat.toDigits 10 d.digits) →
      isBare c = true := by
    intro width hmem
    rcases List.mem_append.mp hmem with hzero | hdigit
    · rw [List.eq_of_mem_replicate hzero]
      decide
    · exact isBare_of_mem_toDigits hdigit
  simp only [Decimal.positional] at hmem
  split at hmem
  · rcases List.mem_append.mp hmem with hdigit | hzero
    · exact isBare_of_mem_toDigits hdigit
    · rw [List.eq_of_mem_replicate hzero]
      decide
  · rcases List.mem_append.mp hmem with hwhole | hmem
    · exact hpadded (List.mem_of_mem_take hwhole)
    · rcases List.mem_cons.mp hmem with rfl | hfraction
      · decide
      · exact hpadded (List.mem_of_mem_drop hfraction)

theorem isBare_of_mem_scientific {d : Decimal} {c : Char} (hmem : c ∈ d.scientific) :
    isBare c = true := by
  simp only [Decimal.scientific] at hmem
  rcases List.mem_append.mp hmem with hsignificand | hexponent
  · rcases List.mem_append.mp hsignificand with hlead | hfraction
    · exact isBare_of_mem_toDigits (List.mem_of_mem_take hlead)
    · split at hfraction
      · cases hfraction
      · rcases List.mem_cons.mp hfraction with rfl | hdigit
        · decide
        · exact isBare_of_mem_toDigits (List.mem_of_mem_drop hdigit)
  · rcases List.mem_cons.mp hexponent with rfl | hexponent
    · decide
    · exact isBare_of_mem_toString_int hexponent

theorem isBare_of_mem_general {d : Decimal} {c : Char} (hmem : c ∈ d.general) :
    isBare c = true := by
  simp only [Decimal.general] at hmem
  split at hmem
  · rcases List.mem_append.mp hmem with hpositional | hfraction
    · exact isBare_of_mem_positional hpositional
    · split at hfraction
      · have hcases : c = '.' ∨ c = '0' := by simpa using hfraction
        rcases hcases with rfl | rfl
        · decide
        · decide
      · cases hfraction
  · exact isBare_of_mem_scientific hmem

/-- The text of a floating-point number is made of digits, a sign, a point, an exponent or the words
    for what is not finite. -/
theorem silent_binaryText {F : BinaryFormat} (x : Binary F) : Silent x.text := by
  refine silent_of_bare _ (List.all_eq_true.mpr fun c hmem => ?_)
  cases x with
  | nan =>
    have hword : "NaN".toList.all isBare = true := by decide
    exact List.all_eq_true.mp hword c hmem
  | signed negative rank =>
    have hmagnitude : ∀ c ∈ (if rank.val = 0 then ['0', '.', '0']
        else if rank.val < F.infinityRank then (F.shortest rank.val).general
        else ['i', 'n', 'f']), isBare c = true := by
      intro c hmem
      split at hmem
      · have hzero : ['0', '.', '0'].all isBare = true := by decide
        exact List.all_eq_true.mp hzero c hmem
      · split at hmem
        · exact isBare_of_mem_general hmem
        · have hinfinity : ['i', 'n', 'f'].all isBare = true := by decide
          exact List.all_eq_true.mp hinfinity c hmem
    change c ∈ (String.ofList (if negative then '-' :: _ else _)).toList at hmem
    rw [String.toList_ofList] at hmem
    cases negative with
    | false => exact hmagnitude c hmem
    | true =>
      rcases List.mem_cons.mp hmem with rfl | hmem
      · decide
      · exact hmagnitude c hmem

end Statement

end GraphQuery
