import GraphQuery.Proofs.Text.Digits

namespace GraphQuery.Text

/-- One more digit of a number in hexadecimal, behind those that were read before. -/
theorem foldl_digitChar {total : Option Nat} {low high : Nat} (hlow : low < 16)
    (htotal : total = some high) :
    (do return 16 * (← total) + (← hexValue? (Nat.digitChar low)) : Option Nat) =
      some (16 * high + low) := by
  have hvalue : ∀ digit < 16, hexValue? (Nat.digitChar digit) = some digit := by decide
  simp [htotal, hvalue low hlow]

/-- The digits of a number are read as the number. -/
theorem ofHex?_toDigits (n : Nat) : ofHex? (Nat.toDigits 16 n) = some n := by
  induction n using Nat.strongRecOn with
  | ind n ih =>
    rw [Nat.toDigits_eq_if (by decide)]
    split
    · rename_i hsmall
      have hdigit := foldl_digitChar hsmall (rfl : some 0 = some 0)
      rw [Nat.mul_zero, Nat.zero_add] at hdigit
      exact hdigit
    · rename_i hlarge
      have hhigh := ih (n / 16) (Nat.div_lt_self (by omega) (by decide))
      have hdigit := foldl_digitChar (Nat.mod_lt n (by decide)) hhigh
      rw [Nat.div_add_mod] at hdigit
      rw [ofHex?, List.foldl_append]
      exact hdigit

/-- Zeros in front do not change what is read. -/
theorem ofHex?_zeroPad (width : Nat) (digits : List Char) :
    ofHex? (zeroPad width digits) = ofHex? digits := by
  unfold zeroPad
  induction width - digits.length with
  | zero => rfl
  | succ count ih =>
    rw [List.replicate_succ, List.cons_append]
    exact ih

/-- What is written in hexadecimal is read back. -/
theorem ofHex?_hex (width n : Nat) : ofHex? (hex width n) = some n := by
  rw [hex, ofHex?_zeroPad, ofHex?_toDigits]

theorem hex_injective {width n m : Nat} (heq : hex width n = hex width m) : n = m := by
  have hread := congrArg ofHex? heq
  rw [ofHex?_hex, ofHex?_hex] at hread
  exact Option.some.inj hread

/-- A number that fits into a width takes up just that width. -/
theorem length_hex {width n : Nat} (hwidth : 0 < width) (hfits : n < 16 ^ width) :
    (hex width n).length = width :=
  length_zeroPad_toDigits (by decide) hwidth hfits

end GraphQuery.Text
