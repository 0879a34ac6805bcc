import GraphQuery.Config
import GraphQuery.Name.Parameter

namespace GraphQuery

namespace Name

theorem isAlphabetic_of_isAlpha {c : Char} (halpha : c.isAlpha = true) :
    Text.isAlphabetic c = true := by
  have hascii : c.toNat < 0x80 := by
    have hletter : (65 ≤ c.toNat ∧ c.toNat ≤ 90) ∨ 97 ≤ c.toNat ∧ c.toNat ≤ 122 := by
      change (decide (65 ≤ c.val ∧ c.val ≤ 90) ||
        (decide (97 ≤ c.val) && decide (c.val ≤ 122))) = true at halpha
      simp only [Bool.or_eq_true, Bool.and_eq_true, decide_eq_true_eq, UInt32.le_iff_toNat_le]
        at halpha
      exact halpha
    omega
  rw [Text.isAlphabetic, if_pos hascii, halpha]

theorem isNumeric_of_isDigit {c : Char} (hdigit : c.isDigit = true) :
    Text.isNumeric c = true := by
  have hascii : c.toNat < 0x80 := by
    have hbound : c.toNat ≤ 57 := (Char.isDigit_iff_toNat.mp hdigit).2
    omega
  rw [Text.isNumeric, if_pos hascii, hdigit]

theorem isAlphanumeric_of_isDigit {c : Char} (hdigit : c.isDigit = true) :
    isAlphanumeric c = true := by
  rw [isAlphanumeric, isNumeric_of_isDigit hdigit, Bool.or_true]

theorem isAlphanumeric_of_isAlphanum {c : Char} (halphanum : c.isAlphanum = true) :
    isAlphanumeric c = true := by
  rw [Char.isAlphanum, Bool.or_eq_true] at halphanum
  rcases halphanum with halpha | hdigit
  · rw [isAlphanumeric, isAlphabetic_of_isAlpha halpha, Bool.true_or]
  · exact isAlphanumeric_of_isDigit hdigit

theorem isPart_of_isAlphanumeric {c : Char} (halphanumeric : isAlphanumeric c = true) :
    isPart c = true := by
  rw [isPart, halphanumeric, Bool.true_or]

theorem isPart_of_isStart {c : Char} (hstart : isStart c = true) : isPart c = true := by
  rw [isStart, Bool.or_eq_true] at hstart
  rw [isPart, isAlphanumeric]
  rcases hstart with halphabetic | hunderscore
  · rw [halphabetic, Bool.true_or, Bool.true_or]
  · rw [hunderscore, Bool.or_true]

theorem isIdentifier_iff {name : String} :
    isIdentifier name = true ↔
      ∃ c rest, name.toList = c :: rest ∧ isStart c = true ∧ ∀ d ∈ rest, isPart d = true := by
  unfold isIdentifier
  split
  · rename_i hempty
    simp [hempty]
  · rename_i c rest hcons
    rw [hcons, Bool.and_eq_true, List.all_eq_true]
    constructor
    · rintro ⟨hstart, hparts⟩
      exact ⟨c, rest, rfl, hstart, hparts⟩
    · rintro ⟨c', rest', heq, hstart, hparts⟩
      cases heq
      exact ⟨hstart, hparts⟩

theorem isPart_of_isIdentifier {name : String} (hname : isIdentifier name = true) {c : Char}
    (hmem : c ∈ name.toList) : isPart c = true := by
  obtain ⟨first, rest, hcons, hstart, hparts⟩ := isIdentifier_iff.mp hname
  rw [hcons] at hmem
  rcases List.mem_cons.mp hmem with rfl | hrest
  · exact isPart_of_isStart hstart
  · exact hparts c hrest

theorem isEmpty_of_isIdentifier {name : String} (hname : isIdentifier name = true) :
    name.isEmpty = false := by
  cases hempty : name.isEmpty with
  | false => rfl
  | true =>
    rw [String.isEmpty_iff.mp hempty] at hname
    cases hname

/-- A name that begins with an identifier and goes on with characters of one is an identifier. -/
theorem isIdentifier_append {name : String} (more : List Char) (hname : isIdentifier name = true)
    (hmore : ∀ c ∈ more, isPart c = true) : isIdentifier (name ++ String.ofList more) = true := by
  obtain ⟨c, rest, hcons, hstart, hparts⟩ := isIdentifier_iff.mp hname
  refine isIdentifier_iff.mpr ⟨c, rest ++ more, by simp [hcons], hstart, fun d hmem => ?_⟩
  rcases List.mem_append.mp hmem with hrest | hmore'
  · exact hparts d hrest
  · exact hmore d hmore'

theorem isDigit_of_mem_toString {n : Nat} {c : Char} (hmem : c ∈ (toString n).toList) :
    c.isDigit = true := by
  rw [Nat.toString_eq_repr, Nat.toList_repr] at hmem
  exact Nat.isDigit_of_mem_toDigits (by decide) (by decide) hmem

theorem toString_injective {n m : Nat} (heq : toString n = toString m) : n = m := by
  have hdigits := congrArg (fun s => Nat.ofDigitChars 10 s.toList 0) heq
  simpa only [Nat.toString_eq_repr, Nat.toList_repr, Nat.ofDigitChars_ten_toDigits] using hdigits

theorem isAlphanumeric_of_mem_toDigits {n : Nat} {c : Char} (hmem : c ∈ Nat.toDigits 16 n) :
    isAlphanumeric c = true := by
  have hdigit : ∀ d < 16, isAlphanumeric (Nat.digitChar d) = true := by decide
  induction n using Nat.strongRecOn with
  | ind n ih =>
    rw [Nat.toDigits_eq_if (by decide)] at hmem
    split at hmem
    · rename_i hsmall
      rw [List.mem_singleton.mp hmem]
      exact hdigit n hsmall
    · rename_i hlarge
      rcases List.mem_append.mp hmem with hhigh | hlow
      · exact ih (n / 16) (Nat.div_lt_self (by omega) (by decide)) hhigh
      · rw [List.mem_singleton.mp hlow]
        exact hdigit (n % 16) (Nat.mod_lt n (by decide))

end Name

end GraphQuery
