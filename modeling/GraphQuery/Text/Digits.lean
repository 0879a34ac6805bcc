namespace GraphQuery.Text

/-- At least `width` characters: zeros are written in front of a shorter list of digits. -/
def zeroPad (width : Nat) (digits : List Char) : List Char :=
  List.replicate (width - digits.length) '0' ++ digits

/-- A natural number in decimal, with zeros in front up to the given width. -/
def decimal (width n : Nat) : List Char :=
  zeroPad width (Nat.toDigits 10 n)

/-- A natural number in lower-case hexadecimal, with zeros in front up to the given width. -/
def hex (width n : Nat) : List Char :=
  zeroPad width (Nat.toDigits 16 n)

/-- The value of a hexadecimal digit of either case. -/
def hexValue? (c : Char) : Option Nat :=
  if '0' ≤ c ∧ c ≤ '9' then some (c.toNat - '0'.toNat)
  else if 'a' ≤ c ∧ c ≤ 'f' then some (c.toNat - 'a'.toNat + 10)
  else if 'A' ≤ c ∧ c ≤ 'F' then some (c.toNat - 'A'.toNat + 10)
  else none

/-- The number that a list of digits in base ten or less spells, and 0 for no digits. -/
def ofDecimal (digits : List Char) : Nat :=
  Nat.ofDigitChars 10 digits 0

/-- The number that hexadecimal digits spell, if all characters are such digits. -/
def ofHex? (digits : List Char) : Option Nat :=
  digits.foldl (fun total c => do return 16 * (← total) + (← hexValue? c)) (some 0)

/-- Reads the longest run of at most `most` decimal digits, which must have at least one digit. -/
def takeNumber? (most : Nat) (s : List Char) : Option (Nat × List Char) :=
  let digits := (s.take most).takeWhile Char.isDigit
  if digits.isEmpty then none else some (ofDecimal digits, s.drop digits.length)

/-- Reads exactly `width` decimal digits. -/
def takeFixed? (width : Nat) (s : List Char) : Option (Nat × List Char) :=
  let digits := (s.take width).takeWhile Char.isDigit
  if digits.length = width then some (ofDecimal digits, s.drop width) else none

/-- Reads one given character. -/
def takeChar? (c : Char) : List Char → Option (List Char)
  | [] => none
  | c' :: rest => if c' = c then some rest else none

end GraphQuery.Text
