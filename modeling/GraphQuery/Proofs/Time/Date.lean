import GraphQuery.Proofs.Text.Digits
import GraphQuery.Time.Date

namespace GraphQuery

namespace Text

theorem isBlankChar_of_isDigit {c : Char} (hdigit : c.isDigit = true) :
    isBlankChar c = false := by
  have hleast : 48 ≤ c.toNat := (Char.isDigit_iff_toNat.mp hdigit).1
  have hgreatest : c.toNat ≤ 57 := (Char.isDigit_iff_toNat.mp hdigit).2
  simp [isBlankChar, blankRuns, CharRuns.contains]
  omega

theorem exists_decimal_eq_cons (width n : Nat) :
    ∃ c more, decimal width n = c :: more ∧ c.isDigit = true := by
  obtain ⟨c, more, hcons⟩ := List.exists_cons_of_ne_nil (decimal_ne_nil width n)
  have hmem : c ∈ decimal width n := by
    rw [hcons]
    exact List.mem_cons_self
  exact ⟨c, more, hcons, isDigit_of_mem_decimal hmem⟩

/-- No white space is skipped in front of a number. -/
theorem dropWhile_decimal (width n : Nat) (rest : List Char) :
    (decimal width n ++ rest).dropWhile isBlankChar = decimal width n ++ rest := by
  obtain ⟨c, more, hcons, hdigit⟩ := exists_decimal_eq_cons width n
  rw [hcons, List.cons_append, List.dropWhile_cons_of_neg]
  simp [isBlankChar_of_isDigit hdigit]

end Text

namespace Date

theorem ofParts?_self (d : Date) : ofParts? d.year d.month d.day = some d :=
  dif_pos ⟨d.year_mem, d.day_mem⟩

theorem day_le (d : Date) : d.day ≤ 31 := by
  have hday := d.day_mem.2
  unfold daysInMonth at hday
  split at hday
  · split at hday <;> omega
  · split at hday
    · omega
    · split at hday <;> omega

theorem dropWhile_yearText (year : Int) (rest : List Char) :
    (yearText year ++ rest).dropWhile Text.isBlankChar = yearText year ++ rest := by
  unfold yearText
  dsimp only
  split
  · exact List.dropWhile_cons_of_neg (by decide)
  · split
    · exact List.dropWhile_cons_of_neg (by decide)
    · exact Text.dropWhile_decimal 4 _ rest

/-- A year of four digits is not taken for one with a sign. -/
theorem takeYear?_decimal {n : Nat} (hfits : n < 10 ^ 4) {rest : List Char}
    (hrest : Text.Ends Char.isDigit rest) :
    takeYear? (Text.decimal 4 n ++ rest) = some ((n : Int), rest) := by
  have hnumber : Text.takeNumber? 4 (Text.decimal 4 n ++ rest) = some (n, rest) :=
    Text.takeNumber?_decimal (Text.length_decimal (by decide) hfits).le hrest
  obtain ⟨c, more, hcons, hdigit⟩ := Text.exists_decimal_eq_cons 4 n
  rw [hcons, List.cons_append] at hnumber ⊢
  unfold takeYear?
  split
  · rename_i heq
    cases heq
    cases hdigit
  · rename_i heq
    cases heq
    cases hdigit
  · rw [hnumber]
    rfl

/-- A year is read back from its text. -/
theorem takeYear?_yearText (year : Int) {rest : List Char}
    (hrest : Text.Ends Char.isDigit rest) :
    takeYear? (yearText year ++ rest) = some (year, rest) := by
  have hsigned : Text.takeNumber? (Text.decimal 4 year.natAbs ++ rest).length
      (Text.decimal 4 year.natAbs ++ rest) = some (year.natAbs, rest) := by
    apply Text.takeNumber?_decimal _ hrest
    rw [List.length_append]
    exact Nat.le_add_right _ _
  unfold yearText
  dsimp only
  split
  · have hyear : -(year.natAbs : Int) = year := by omega
    simp only [List.cons_append, takeYear?, hsigned, Option.map_some, hyear]
  · have hyear : (year.natAbs : Int) = year := by omega
    split
    · simp only [List.cons_append, takeYear?, hsigned, Option.map_some, hyear]
    · rw [takeYear?_decimal (by omega) hrest, hyear]

theorem year_of_ofParts? {year : Int} {month day : Nat} {d : Date}
    (hdate : ofParts? year month day = some d) : d.year = year := by
  unfold ofParts? at hdate
  split at hdate
  · cases hdate
    rfl
  · cases hdate

theorem year_of_next {d later : Date} (hnext : d.next = some later) :
    later.year = d.year ∨ later.year = d.year + 1 := by
  unfold next at hnext
  split at hnext
  · exact .inl (year_of_ofParts? hnext)
  · split at hnext
    · exact .inl (year_of_ofParts? hnext)
    · exact .inr (year_of_ofParts? hnext)

theorem year_of_previous {d earlier : Date} (hprevious : d.previous = some earlier) :
    earlier.year = d.year ∨ earlier.year = d.year - 1 := by
  unfold previous at hprevious
  split at hprevious
  · exact .inl (year_of_ofParts? hprevious)
  · split at hprevious
    · exact .inl (year_of_ofParts? hprevious)
    · exact .inr (year_of_ofParts? hprevious)

/-- A date is read back from its text. -/
theorem read?_text (d : Date) : read? d.text = some d := by
  have hhyphen : ∀ rest, Text.Ends Char.isDigit ('-' :: rest) := Text.ends_cons (by decide)
  have hmonth : d.month < 10 ^ 2 := by
    have := d.month_mem
    omega
  have hday : d.day < 10 ^ 2 := by
    have := d.day_le
    omega
  have htext : d.text.toList = yearText d.year ++ '-' :: (Text.decimal 2 d.month ++
      '-' :: (Text.decimal 2 d.day ++ [])) := by
    simp [text]
  have hmonthRead := Text.takeNumber?_decimal (Text.length_decimal (by decide) hmonth).le
    (hhyphen (Text.decimal 2 d.day ++ []))
  have hdayRead := Text.takeNumber?_decimal (Text.length_decimal (by decide) hday).le
    (Text.ends_nil Char.isDigit)
  simp only [read?, htext, dropWhile_yearText, takeYear?_yearText _ (hhyphen _),
    Option.bind_eq_bind, Option.bind_some, Text.takeChar?_cons, Text.dropWhile_decimal, hmonthRead,
    hdayRead]
  exact d.ofParts?_self

end Date

end GraphQuery
