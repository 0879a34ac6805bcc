import GraphQuery.Proofs.Time.Date
import GraphQuery.Time.Timestamp

namespace GraphQuery

namespace Timestamp

/-- A fraction of up to nine digits is read in nanoseconds. -/
theorem takeFraction?_decimal {width n : Nat} (hwidth : 0 < width) (hmost : width ≤ 9)
    (hfits : n < 10 ^ width) {rest : List Char} (hrest : Text.Ends Char.isDigit rest) :
    takeFraction? ('.' :: (Text.decimal width n ++ rest)) = some (n * 10 ^ (9 - width), rest) := by
  have hlength := Text.length_decimal hwidth hfits
  have hrun : (Text.decimal width n ++ rest).takeWhile Char.isDigit = Text.decimal width n :=
    Text.takeWhile_run (fun _ => Text.isDigit_of_mem_decimal) hrest
  have hnine : (Text.decimal width n).take 9 = Text.decimal width n :=
    List.take_of_length_le (by omega)
  simp only [takeFraction?, hrun, List.isEmpty_iff, if_neg (Text.decimal_ne_nil width n), hnine,
    hlength, Text.ofDecimal_decimal, List.drop_left' hlength]
  rfl

/-- The fraction of a second is read back from its text. -/
theorem takeFraction?_fractionText {n : Nat} (hfits : n < 1000000000) {rest : List Char} :
    takeFraction? (fractionText n ++ 'Z' :: rest) = some (n, 'Z' :: rest) := by
  have hend : Text.Ends Char.isDigit ('Z' :: rest) := Text.ends_cons (by decide) rest
  unfold fractionText
  split
  · rename_i hzero
    rw [hzero]
    rfl
  · split
    · rw [List.cons_append, takeFraction?_decimal (by decide) (by decide) (by omega) hend]
      congr 2
      omega
    · split
      · rw [List.cons_append, takeFraction?_decimal (by decide) (by decide) (by omega) hend]
        congr 2
        omega
      · rw [List.cons_append, takeFraction?_decimal (by decide) (by decide) hfits hend]
        congr 2
        omega

/-- A moment in its own time zone. -/
theorem ofLocal?_zero (t : Timestamp) : ofLocal? t.date t.second t.nanosecond 0 = some t := by
  have hsecond := t.second_lt
  have hnanosecond := t.nanosecond_lt
  simp only [ofLocal?, Int.sub_zero, if_neg (show ¬ (t.second : Int) < 0 by omega),
    if_neg (show ¬ 86400 ≤ (t.second : Int) by omega), Option.bind_eq_bind, Option.bind_some,
    Int.toNat_natCast]
  exact dif_pos ⟨hsecond, hnanosecond⟩

/-- What is read from the parts of a date and a time, of which the second may be 60. -/
theorem read?_parts {d : Date} (hyear : 0 ≤ d.year ∧ d.year ≤ 9999) (hour minute second n : Nat)
    (hhour : hour < 24) (hminute : minute < 60) (hsecond : second ≤ 60) (hfits : n < 1000000000) :
    read? (String.ofList <| d.text.toList ++ 'T' :: Text.decimal 2 hour ++
        ':' :: Text.decimal 2 minute ++ ':' :: Text.decimal 2 second ++ fractionText n ++ ['Z']) =
      ofLocal? d (hour * 3600 + minute * 60 + (second - second / 60))
        (n + second / 60 * 1000000000) 0 := by
  have hmonth := d.month_mem
  have hday := d.day_le
  have hyearText : Date.yearText d.year = Text.decimal 4 d.year.natAbs := by
    rw [Date.yearText, if_neg (by omega), if_neg (by omega)]
  have hdate : Date.ofParts? (d.year.natAbs : Int) d.month d.day = some d := by
    rw [show (d.year.natAbs : Int) = d.year by omega]
    exact d.ofParts?_self
  have htext : d.text.toList ++ 'T' :: Text.decimal 2 hour ++ ':' :: Text.decimal 2 minute ++
      ':' :: Text.decimal 2 second ++ fractionText n ++ ['Z'] =
        Text.decimal 4 d.year.natAbs ++ '-' :: (Text.decimal 2 d.month ++ '-' ::
          (Text.decimal 2 d.day ++ 'T' :: (Text.decimal 2 hour ++ ':' :: (Text.decimal 2 minute ++
            ':' :: (Text.decimal 2 second ++ (fractionText n ++ ['Z'])))))) := by
    simp only [Date.text, String.toList_ofList, hyearText, List.append_assoc, List.cons_append]
  have hend : takeOffset? ['Z'] = some (0, []) := rfl
  rw [read?, String.toList_ofList, htext]
  simp only [↓Option.bind_eq_bind, ↓Option.bind_some, ↓Text.takeChar?_cons_bind,
    ↓Text.takeFixed?_decimal_bind (show 0 < 4 by decide) (show d.year.natAbs < 10 ^ 4 by omega),
    ↓Text.takeFixed?_decimal_bind (show 0 < 2 by decide) (show d.month < 10 ^ 2 by omega),
    ↓Text.takeFixed?_decimal_bind (show 0 < 2 by decide) (show d.day < 10 ^ 2 by omega),
    ↓Text.takeFixed?_decimal_bind (show 0 < 2 by decide) (show hour < 10 ^ 2 by omega),
    ↓Text.takeFixed?_decimal_bind (show 0 < 2 by decide) (show minute < 10 ^ 2 by omega),
    ↓Text.takeFixed?_decimal_bind (show 0 < 2 by decide) (show second < 10 ^ 2 by omega)]
  simp only [takeFraction?_fractionText hfits, hend, hdate, Option.bind_some]
  exact if_pos ⟨rfl, hhour, hminute, hsecond⟩

/-- Whether a moment lies outside of leap seconds, or in one that ends a minute. -/
def IsRegular (t : Timestamp) : Prop :=
  1000000000 ≤ t.nanosecond → t.second % 60 = 59

/-- The text of a regular moment in a year of four digits is read as that moment. -/
theorem read?_text {t : Timestamp} (hyear : 0 ≤ t.date.year ∧ t.date.year ≤ 9999)
    (hregular : t.IsRegular) : read? t.text = some t := by
  unfold IsRegular at hregular
  have hsecond := t.second_lt
  have hnanosecond := t.nanosecond_lt
  have hread := read?_parts hyear (t.second / 3600) (t.second / 60 % 60)
    (t.second % 60 + t.nanosecond / 1000000000) (t.nanosecond % 1000000000) (by omega) (by omega)
    (by omega) (by omega)
  have hclock : t.second / 3600 * 3600 + t.second / 60 % 60 * 60 +
      (t.second % 60 + t.nanosecond / 1000000000 -
        (t.second % 60 + t.nanosecond / 1000000000) / 60) = t.second := by omega
  have hfraction : t.nanosecond % 1000000000 +
      (t.second % 60 + t.nanosecond / 1000000000) / 60 * 1000000000 = t.nanosecond := by omega
  change read? t.text = _ at hread
  rw [hread, hclock, hfraction]
  exact t.ofLocal?_zero

/-- From the text of a moment in a year of four digits a moment with that text is read. It is the
    same one, unless a leap second does not follow the last second of a minute: then it is read as
    the next second. -/
theorem exists_read?_text (t : Timestamp) (hyear : 0 ≤ t.date.year ∧ t.date.year ≤ 9999) :
    ∃ t', read? t.text = some t' ∧ t'.text = t.text := by
  by_cases hregular : t.IsRegular
  · exact ⟨t, read?_text hyear hregular, rfl⟩
  · have hodd : 1000000000 ≤ t.nanosecond ∧ t.second % 60 ≠ 59 := Classical.not_imp.mp hregular
    have hsecond := t.second_lt
    have hnanosecond := t.nanosecond_lt
    let later : Timestamp := ⟨t.date, t.second + 1, t.nanosecond - 1000000000, by omega, by omega⟩
    have hlater : later.IsRegular := fun (hleap : 1000000000 ≤ t.nanosecond - 1000000000) => by
      omega
    have htext : later.text = t.text := by
      have hhour : (t.second + 1) / 3600 = t.second / 3600 := by omega
      have hminute : (t.second + 1) / 60 % 60 = t.second / 60 % 60 := by omega
      have hsecond : (t.second + 1) % 60 + (t.nanosecond - 1000000000) / 1000000000 =
          t.second % 60 + t.nanosecond / 1000000000 := by omega
      have hfraction : (t.nanosecond - 1000000000) % 1000000000 = t.nanosecond % 1000000000 := by
        omega
      simp only [text, later, hhour, hminute, hsecond, hfraction]
    refine ⟨later, ?_, htext⟩
    rw [← htext]
    exact read?_text hyear hlater

/-- A moment in a year that has a sign is not read back from its text. -/
theorem read?_text_eq_none {t : Timestamp} (hyear : t.date.year < 0 ∨ 9999 < t.date.year) :
    read? t.text = none := by
  obtain ⟨sign, rest, htext, hsign⟩ :
      ∃ sign rest, t.text.toList = sign :: rest ∧ sign.isDigit = false := by
    simp only [text, Date.text, Date.yearText, String.toList_ofList]
    rcases hyear with hnegative | hlate
    · rw [if_pos hnegative]
      exact ⟨'-', _, rfl, rfl⟩
    · rw [if_neg (by omega), if_pos hlate]
      exact ⟨'+', _, rfl, rfl⟩
  rw [read?, htext, Text.takeFixed?_eq_none (by decide) hsign]
  rfl

/-- A fraction that is read is less than a second. -/
theorem lt_of_takeFraction? {s rest : List Char} {nanosecond : Nat}
    (hread : takeFraction? s = some (nanosecond, rest)) : nanosecond < 1000000000 := by
  unfold takeFraction? at hread
  split at hread
  · rename_i fraction
    dsimp only at hread
    split at hread
    · cases hread
    · cases hread
      generalize hnine : (fraction.takeWhile Char.isDigit).take 9 = nine
      have hdigits : Text.ofDecimal nine < 10 ^ nine.length := by
        refine Text.ofDecimal_lt fun c hmem => ?_
        rw [← hnine] at hmem
        exact List.mem_takeWhile_imp (List.mem_of_mem_take hmem)
      have hlength : nine.length ≤ 9 := by
        rw [← hnine]
        exact List.length_take_le _ _
      have hnanoseconds : 10 ^ nine.length * 10 ^ (9 - nine.length) = 1000000000 := by
        rw [← Nat.pow_add, Nat.add_sub_cancel' hlength]
      rw [← hnanoseconds]
      exact Nat.mul_lt_mul_of_pos_right hdigits (Nat.pow_pos (by decide))
  · cases hread
    decide

/-- Whether a clock can be as many seconds ahead: a number of minutes, and less than a day. -/
def IsOffset (offset : Int) : Prop :=
  offset % 60 = 0 ∧ -86400 < offset ∧ offset < 86400

theorem isOffset_of_takeOffset? {s rest : List Char} {offset : Int}
    (hread : takeOffset? s = some (offset, rest)) : IsOffset offset := by
  unfold IsOffset
  unfold takeOffset? at hread
  split at hread
  · cases hread
    decide
  · cases hread
    decide
  · split at hread
    · simp only [Option.bind_eq_bind, Option.bind_eq_some_iff, Prod.exists] at hread
      obtain ⟨hours, _, _, _, _, minutes, _, _, hread⟩ := hread
      split at hread
      · cases hread
        split <;> omega
      · cases hread
    · cases hread
  · cases hread

/-- The moment that a clock shows is a whole number of minutes away from what it shows, in the same
    year or in one next to it. -/
theorem near_of_ofLocal? {date : Date} {second nanosecond : Nat} {offset : Int} {t : Timestamp}
    (hsecond : second < 86400) (hoffset : IsOffset offset)
    (hlocal : ofLocal? date second nanosecond offset = some t) :
    t.nanosecond = nanosecond ∧ t.second % 60 = second % 60 ∧
      date.year - 1 ≤ t.date.year ∧ t.date.year ≤ date.year + 1 := by
  obtain ⟨hwhole, hbehind, hahead⟩ := hoffset
  obtain ⟨day, rest, hrest, hyear, hmoment⟩ : ∃ (day : Date) (rest : Int),
      (0 ≤ rest ∧ rest % 60 = (second : Int) % 60) ∧
      (date.year - 1 ≤ day.year ∧ day.year ≤ date.year + 1) ∧
      (if h : rest.toNat < 86400 ∧ nanosecond < 2000000000 then
        some (⟨day, rest.toNat, nanosecond, h.1, h.2⟩ : Timestamp) else none) = some t := by
    simp only [ofLocal?, Option.bind_eq_bind] at hlocal
    split at hlocal
    · obtain ⟨_, hday, hmoment⟩ := Option.bind_eq_some_iff.mp hlocal
      obtain ⟨day, hprevious, rfl⟩ := Option.map_eq_some_iff.mp hday
      have hyear := Date.year_of_previous hprevious
      exact ⟨day, _, by omega, by omega, hmoment⟩
    · split at hlocal
      · obtain ⟨_, hday, hmoment⟩ := Option.bind_eq_some_iff.mp hlocal
        obtain ⟨day, hnext, rfl⟩ := Option.map_eq_some_iff.mp hday
        have hyear := Date.year_of_next hnext
        exact ⟨day, _, by omega, by omega, hmoment⟩
      · exact ⟨date, _, by omega, by omega, hlocal⟩
  split at hmoment
  · cases hmoment
    dsimp only
    omega
  · cases hmoment

/-- A clock with a leap second at the end of a minute shows a regular moment. -/
theorem isRegular_of_ofLocal? {date : Date} {hour minute second nanosecond : Nat} {offset : Int}
    {t : Timestamp} (hclock : hour < 24 ∧ minute < 60 ∧ second ≤ 60)
    (hfraction : nanosecond < 1000000000) (hoffset : IsOffset offset)
    (hlocal : ofLocal? date (hour * 3600 + minute * 60 + (second - second / 60))
      (nanosecond + second / 60 * 1000000000) offset = some t) :
    t.IsRegular ∧ date.year - 1 ≤ t.date.year ∧ t.date.year ≤ date.year + 1 := by
  obtain ⟨hnanosecond, hminutes, hyear⟩ := near_of_ofLocal? (by omega) hoffset hlocal
  refine ⟨fun hleap => ?_, hyear⟩
  have hsixty : second = 60 := by omega
  rw [hminutes, hsixty]
  omega

/-- What is read from a text is a regular moment. Its year has four digits, or is next to one that
    has. -/
theorem isRegular_of_read? {s : String} {t : Timestamp} (hread : read? s = some t) :
    t.IsRegular ∧ -1 ≤ t.date.year ∧ t.date.year ≤ 10000 := by
  rw [read?] at hread
  obtain ⟨⟨year, _⟩, hyear, hread⟩ := Option.bind_eq_some_iff.mp hread
  obtain ⟨_, _, hread⟩ := Option.bind_eq_some_iff.mp hread
  obtain ⟨⟨month, _⟩, _, hread⟩ := Option.bind_eq_some_iff.mp hread
  obtain ⟨_, _, hread⟩ := Option.bind_eq_some_iff.mp hread
  obtain ⟨⟨day, _⟩, _, hread⟩ := Option.bind_eq_some_iff.mp hread
  have hfour := Text.lt_of_takeFixed? hyear
  dsimp only at hread
  split at hread
  case h_4 => cases hread
  -- Each of the three separators is followed by the same clock.
  all_goals
    obtain ⟨_, _, hread⟩ := Option.bind_eq_some_iff.mp hread
    obtain ⟨⟨hour, _⟩, _, hread⟩ := Option.bind_eq_some_iff.mp hread
    obtain ⟨_, _, hread⟩ := Option.bind_eq_some_iff.mp hread
    obtain ⟨⟨minute, _⟩, _, hread⟩ := Option.bind_eq_some_iff.mp hread
    obtain ⟨_, _, hread⟩ := Option.bind_eq_some_iff.mp hread
    obtain ⟨⟨second, _⟩, _, hread⟩ := Option.bind_eq_some_iff.mp hread
    obtain ⟨⟨nanosecond, _⟩, hfraction, hread⟩ := Option.bind_eq_some_iff.mp hread
    obtain ⟨⟨offset, _⟩, hoffset, hread⟩ := Option.bind_eq_some_iff.mp hread
    obtain ⟨hclock, hread⟩ := Option.ite_none_right_eq_some.mp hread
    obtain ⟨date, hdate, hlocal⟩ := Option.bind_eq_some_iff.mp hread
    obtain ⟨hregular, hbefore, hafter⟩ := isRegular_of_ofLocal? hclock.2
      (lt_of_takeFraction? hfraction) (isOffset_of_takeOffset? hoffset) hlocal
    have hdateYear := Date.year_of_ofParts? hdate
    exact ⟨hregular, by omega, by omega⟩

end Timestamp

end GraphQuery
