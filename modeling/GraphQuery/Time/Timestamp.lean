import GraphQuery.Time.Date

namespace GraphQuery

/-- A moment in coordinated universal time: a date, a second of that day, and nanoseconds. A leap
    second is written as nanoseconds beyond a full second after the last second of a minute. -/
structure Timestamp where
  date : Date
  second : Nat
  nanosecond : Nat
  second_lt : second < 86400
  nanosecond_lt : nanosecond < 2000000000
  deriving DecidableEq

namespace Timestamp

/-- The moment that a local date and second of the day name, at a place whose clock is `offset`
    seconds ahead of universal time. An offset is shorter than a day, so that at most one midnight
    lies between the two. -/
def ofLocal? (date : Date) (second nanosecond : Nat) (offset : Int) : Option Timestamp := do
  let total := (second : Int) - offset
  let (date, total) ←
    if total < 0 then date.previous.map (·, total + 86400)
    else if 86400 ≤ total then date.next.map (·, total - 86400)
    else some (date, total)
  if h : total.toNat < 86400 ∧ nanosecond < 2000000000 then
    some ⟨date, total.toNat, nanosecond, h.1, h.2⟩
  else none

/-- The fraction of a second, in the fewest of 0, 3, 6 and 9 digits that are exact. -/
def fractionText (nanosecond : Nat) : List Char :=
  if nanosecond = 0 then []
  else if nanosecond % 1000000 = 0 then '.' :: Text.decimal 3 (nanosecond / 1000000)
  else if nanosecond % 1000 = 0 then '.' :: Text.decimal 6 (nanosecond / 1000)
  else '.' :: Text.decimal 9 nanosecond

/-- Date, `T`, time of the day and `Z`. A leap second is the second 60 of its minute. -/
def text (t : Timestamp) : String :=
  let leap := t.nanosecond / 1000000000
  String.ofList <| t.date.text.toList ++ 'T' :: Text.decimal 2 (t.second / 3600) ++
    ':' :: Text.decimal 2 (t.second / 60 % 60) ++ ':' :: Text.decimal 2 (t.second % 60 + leap) ++
    fractionText (t.nanosecond % 1000000000) ++ ['Z']

/-- Reads a fraction of a second, in nanoseconds. Digits beyond the ninth are dropped. -/
def takeFraction? (s : List Char) : Option (Nat × List Char) :=
  match s with
  | '.' :: rest =>
    let digits := rest.takeWhile Char.isDigit
    if digits.isEmpty then none
    else
      let nine := digits.take 9
      some (Text.ofDecimal nine * Nat.pow 10 (9 - nine.length), rest.drop digits.length)
  | _ => some (0, s)

/-- Reads the offset of a local clock in seconds: `Z` of either case, or a sign, hours and minutes.
    The minus sign of mathematics is a sign too. -/
def takeOffset? (s : List Char) : Option (Int × List Char) :=
  match s with
  | 'Z' :: rest | 'z' :: rest => some (0, rest)
  | sign :: rest =>
    if sign = '+' ∨ sign = '-' ∨ sign = '\u2212' then do
      let (hours, rest) ← Text.takeFixed? 2 rest
      let rest ← Text.takeChar? ':' rest
      let (minutes, rest) ← Text.takeFixed? 2 rest
      if hours < 24 ∧ minutes < 60 then
        let seconds : Int := (hours * 3600 + minutes * 60 : Nat)
        some (if sign = '+' then seconds else -seconds, rest)
      else none
    else none
  | [] => none

/-- Reads a date and a time with an offset. A `T` of either case or a space stands between the two;
    the second may be 60 whatever the minute is. -/
def read? (s : String) : Option Timestamp := do
  let (year, s) ← Text.takeFixed? 4 s.toList
  let s ← Text.takeChar? '-' s
  let (month, s) ← Text.takeFixed? 2 s
  let s ← Text.takeChar? '-' s
  let (day, s) ← Text.takeFixed? 2 s
  let s ← match s with
    | 'T' :: rest | 't' :: rest | ' ' :: rest => some rest
    | _ => none
  let (hour, s) ← Text.takeFixed? 2 s
  let s ← Text.takeChar? ':' s
  let (minute, s) ← Text.takeFixed? 2 s
  let s ← Text.takeChar? ':' s
  let (second, s) ← Text.takeFixed? 2 s
  let (nanosecond, s) ← takeFraction? s
  let (offset, s) ← takeOffset? s
  if s.isEmpty ∧ hour < 24 ∧ minute < 60 ∧ second ≤ 60 then do
    let date ← Date.ofParts? year month day
    let leap := second / 60
    ofLocal? date (hour * 3600 + minute * 60 + (second - leap)) (nanosecond + leap * 1000000000)
      offset
  else none

end Timestamp

end GraphQuery
