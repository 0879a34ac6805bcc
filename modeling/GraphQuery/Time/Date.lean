import GraphQuery.Text.Character
import GraphQuery.Text.Digits

namespace GraphQuery

/-- Leap years of the Gregorian calendar, extended to all years. -/
def isLeapYear (year : Int) : Bool :=
  year % 4 = 0 && (year % 100 ≠ 0 || year % 400 = 0)

/-- The number of days of a month, and none outside of the twelve. -/
def daysInMonth (year : Int) (month : Nat) : Nat :=
  if month = 2 then (if isLeapYear year then 29 else 28)
  else if month = 4 ∨ month = 6 ∨ month = 9 ∨ month = 11 then 30
  else if 1 ≤ month ∧ month ≤ 12 then 31
  else 0

/-- A day of the engine's calendar, which is the Gregorian one for the years from -262143 to
    262142. -/
structure Date where
  year : Int
  month : Nat
  day : Nat
  year_mem : -262143 ≤ year ∧ year ≤ 262142
  day_mem : 1 ≤ day ∧ day ≤ daysInMonth year month
  deriving DecidableEq

namespace Date

/-- The date with the given parts, if there is one. -/
def ofParts? (year : Int) (month day : Nat) : Option Date :=
  if h : (-262143 ≤ year ∧ year ≤ 262142) ∧ 1 ≤ day ∧ day ≤ daysInMonth year month then
    some ⟨year, month, day, h.1, h.2⟩
  else none

/-- A day that exists lies in one of the twelve months. -/
theorem month_mem (d : Date) : 1 ≤ d.month ∧ d.month ≤ 12 := by
  have hday := Nat.le_trans d.day_mem.1 d.day_mem.2
  unfold daysInMonth at hday
  split at hday
  · omega
  · split at hday
    · omega
    · split at hday
      · assumption
      · omega

/-- The day after, if it is in the calendar. -/
def next (d : Date) : Option Date :=
  if d.day + 1 ≤ daysInMonth d.year d.month then ofParts? d.year d.month (d.day + 1)
  else if d.month + 1 ≤ 12 then ofParts? d.year (d.month + 1) 1
  else ofParts? (d.year + 1) 1 1

/-- The day before, if it is in the calendar. -/
def previous (d : Date) : Option Date :=
  if 2 ≤ d.day then ofParts? d.year d.month (d.day - 1)
  else if 2 ≤ d.month then
    ofParts? d.year (d.month - 1) (daysInMonth d.year (d.month - 1))
  else ofParts? (d.year - 1) 12 31

/-- A year in at least four digits. Years that do not fit in four digits, or lie before year zero,
    have a sign. -/
def yearText (year : Int) : List Char :=
  let digits := Text.decimal 4 year.natAbs
  if year < 0 then '-' :: digits else if 9999 < year then '+' :: digits else digits

/-- Year, month and day, separated by hyphens. -/
def text (d : Date) : String :=
  String.ofList <| yearText d.year ++ '-' :: Text.decimal 2 d.month ++ '-' :: Text.decimal 2 d.day

/-- Reads a year: of any number of digits after a sign, of at most four without one. -/
def takeYear? (s : List Char) : Option (Int × List Char) :=
  match s with
  | '-' :: rest => (Text.takeNumber? rest.length rest).map fun (year, rest) => (-year, rest)
  | '+' :: rest => (Text.takeNumber? rest.length rest).map fun (year, rest) => (year, rest)
  | _ => (Text.takeNumber? 4 s).map fun (year, rest) => (year, rest)

/-- Reads a year, a month and a day with hyphens between them. White space may stand before each of
    the three, and month and day may have a single digit. -/
def read? (s : String) : Option Date := do
  let skip := List.dropWhile Text.isBlankChar
  let (year, s) ← takeYear? (skip s.toList)
  let s ← Text.takeChar? '-' s
  let (month, s) ← Text.takeNumber? 2 (skip s)
  let s ← Text.takeChar? '-' s
  let (day, s) ← Text.takeNumber? 2 (skip s)
  if s.isEmpty then ofParts? year month day else none

end Date

end GraphQuery
