import GraphQuery.Proofs.Text.Run
import GraphQuery.Text.Digits
import Mathlib.Algebra.Group.Nat.Defs
import Mathlib.Data.List.TakeDrop

namespace GraphQuery.Text

/-- A number that fits into a width takes up just that width. -/
theorem length_zeroPad_toDigits {base width n : Nat} (hbase : 1 < base) (hwidth : 0 < width)
    (hfits : n < base ^ width) : (zeroPad width (Nat.toDigits base n)).length = width := by
  have hdigits : (Nat.toDigits base n).length ≤ width :=
    (Nat.length_toDigits_le_iff hbase hwidth).mpr hfits
  rw [zeroPad, List.length_append, List.length_replicate]
  omega

theorem length_decimal {width n : Nat} (hwidth : 0 < width) (hfits : n < 10 ^ width) :
    (decimal width n).length = width :=
  length_zeroPad_toDigits (by decide) hwidth hfits

theorem decimal_ne_nil (width n : Nat) : decimal width n ≠ [] := by
  apply List.append_ne_nil_of_right_ne_nil
  exact Nat.toDigits_ne_nil

theorem isDigit_of_mem_decimal {width n : Nat} {c : Char} (hmem : c ∈ decimal width n) :
    c.isDigit = true := by
  rcases List.mem_append.mp hmem with hzero | hdigit
  · rw [List.eq_of_mem_replicate hzero]
    rfl
  · exact Nat.isDigit_of_mem_toDigits (by decide) (by decide) hdigit

/-- What is written in decimal is read back, whatever the width. -/
theorem ofDecimal_decimal (width n : Nat) : ofDecimal (decimal width n) = n := by
  rw [ofDecimal, decimal, zeroPad, Nat.ofDigitChars_append, Nat.ofDigitChars_replicate_zero,
    Nat.mul_zero]
  exact Nat.ofDigitChars_ten_toDigits

theorem ends_take {class? : Char → Bool} {text : List Char} (htext : Ends class? text)
    (count : Nat) : Ends class? (text.take count) := by
  intro c hmem
  apply htext
  cases text with
  | nil => simp at hmem
  | cons first rest =>
    cases count with
    | zero => simp at hmem
    | succ count => exact hmem

/-- A run of digits that is not too long is read up to its end. -/
theorem takeNumber?_append {most : Nat} {digits rest : List Char} (hne : digits ≠ [])
    (hdigits : ∀ c ∈ digits, c.isDigit = true) (hmost : digits.length ≤ most)
    (hrest : Ends Char.isDigit rest) :
    takeNumber? most (digits ++ rest) = some (ofDecimal digits, rest) := by
  have hrun : ((digits ++ rest).take most).takeWhile Char.isDigit = digits := by
    rw [List.take_append, List.take_of_length_le hmost]
    exact takeWhile_run hdigits (ends_take hrest _)
  rw [takeNumber?]
  simp only [hrun, List.isEmpty_iff, if_neg hne, List.drop_left]

theorem takeNumber?_decimal {most width n : Nat} (hmost : (decimal width n).length ≤ most)
    {rest : List Char} (hrest : Ends Char.isDigit rest) :
    takeNumber? most (decimal width n ++ rest) = some (n, rest) := by
  rw [takeNumber?_append (decimal_ne_nil width n) (fun _ => isDigit_of_mem_decimal) hmost hrest,
    ofDecimal_decimal]

/-- A number that fits into a width is read back from it, whatever follows. -/
theorem takeFixed?_decimal {width n : Nat} (hwidth : 0 < width) (hfits : n < 10 ^ width)
    (rest : List Char) : takeFixed? width (decimal width n ++ rest) = some (n, rest) := by
  have hlength := length_decimal hwidth hfits
  have hrun : ((decimal width n ++ rest).take width).takeWhile Char.isDigit = decimal width n := by
    rw [List.take_left' hlength]
    apply List.takeWhile_eq_self_iff.mpr
    exact fun _ => isDigit_of_mem_decimal
  rw [takeFixed?]
  simp only [hrun, if_pos hlength, ofDecimal_decimal, List.drop_left' hlength]

theorem takeChar?_cons (c : Char) (rest : List Char) : takeChar? c (c :: rest) = some rest :=
  if_pos rfl

/-- A number is handed on to what reads the rest. Used from the outside in, this keeps a long reader
    from being looked at again for each of its parts. -/
theorem takeFixed?_decimal_bind {α : Type u} {width n : Nat} (hwidth : 0 < width)
    (hfits : n < 10 ^ width) (rest : List Char) (next : Nat × List Char → Option α) :
    (takeFixed? width (decimal width n ++ rest)).bind next = next (n, rest) := by
  rw [takeFixed?_decimal hwidth hfits, Option.bind_some]

theorem takeChar?_cons_bind {α : Type u} (c : Char) (rest : List Char)
    (next : List Char → Option α) : (takeChar? c (c :: rest)).bind next = next rest := by
  rw [takeChar?_cons, Option.bind_some]

/-- Digits spell a number that fits into as many of them. -/
theorem ofDecimal_lt {digits : List Char} (hdigits : ∀ c ∈ digits, c.isDigit = true) :
    ofDecimal digits < 10 ^ digits.length := by
  induction digits with
  | nil => decide
  | cons c digits ih =>
    have hrest : ofDecimal digits < 10 ^ digits.length :=
      ih fun other hmem => hdigits other (List.mem_cons_of_mem _ hmem)
    have hdigit : c.toNat ≤ '9'.toNat :=
      (Char.isDigit_iff_toNat.mp (hdigits c List.mem_cons_self)).2
    have hvalue : c.toNat - '0'.toNat ≤ 9 := by
      change c.toNat ≤ 57 at hdigit
      change c.toNat - 48 ≤ 9
      omega
    have hhead : ofDecimal (c :: digits) =
        10 ^ digits.length * (c.toNat - '0'.toNat) + ofDecimal digits := by
      rw [ofDecimal, Nat.ofDigitChars_cons, Nat.mul_zero, Nat.zero_add,
        Nat.ofDigitChars_eq_ofDigitChars_zero]
      rfl
    have hbound := Nat.mul_le_mul_left (10 ^ digits.length) hvalue
    rw [hhead, List.length_cons, Nat.pow_succ]
    omega

/-- A number that is read in fixed width fits into it. -/
theorem lt_of_takeFixed? {width n : Nat} {s rest : List Char}
    (hread : takeFixed? width s = some (n, rest)) : n < 10 ^ width := by
  unfold takeFixed? at hread
  dsimp only at hread
  split at hread
  · rename_i hlength
    cases hread
    have hbound := ofDecimal_lt fun c (hmem : c ∈ (s.take width).takeWhile Char.isDigit) =>
      List.mem_takeWhile_imp hmem
    rwa [hlength] at hbound
  · cases hread

/-- A number that is read in fixed width begins with a digit. -/
theorem takeFixed?_eq_none {width : Nat} {c : Char} {rest : List Char} (hwidth : 0 < width)
    (hother : c.isDigit = false) : takeFixed? width (c :: rest) = none := by
  obtain ⟨width, rfl⟩ := Nat.exists_eq_add_one.mpr hwidth
  rw [takeFixed?]
  simp [List.take_succ_cons, hother]

end GraphQuery.Text
