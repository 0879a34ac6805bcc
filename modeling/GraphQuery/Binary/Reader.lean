import GraphQuery.Binary.Basic
import GraphQuery.Text.Digits

namespace GraphQuery

namespace Binary

variable {F : BinaryFormat}

/-- The number nearest to `digits · 10 ^ exponent`. A decimal whose leading digit stands beyond the
    power of ten that the format's exponent field bounds is out of range whatever its digits are, so
    that no large power is formed for it. -/
def ofDecimal (negative : Bool) (digits : Nat) (exponent : Int) : Binary F :=
  let lead := exponent + (Nat.toDigits 10 digits).length
  if digits = 0 ∨ lead < -(1 <<< F.exponentBits : Nat) then ofRatio negative 0 1
  else if (1 <<< F.exponentBits : Nat) < lead then infinity negative
  else ofRatio negative (digits * Nat.pow 10 exponent.toNat) (Nat.pow 10 (-exponent).toNat)

/-- An exponent after its mark: an optional sign and at least one digit. -/
private def readExponent? (s : List Char) : Option Int :=
  let (negative, digits) := match s with
    | '-' :: rest => (true, rest)
    | '+' :: rest => (false, rest)
    | _ => (false, s)
  if digits.isEmpty || !digits.all Char.isDigit then none
  else
    let magnitude : Int := Text.ofDecimal digits
    some (if negative then -magnitude else magnitude)

/-- A magnitude: digits with an optional point among them and an optional exponent. -/
private def readMagnitude? (negative : Bool) (s : List Char) : Option (Binary F) := do
  let (mantissa, mark) := s.span fun c => c != 'e' && c != 'E'
  let exponent ← if mark.isEmpty then some 0 else readExponent? (mark.drop 1)
  let (whole, point) := mantissa.span (· != '.')
  let fraction := point.drop 1
  let digits := whole ++ fraction
  if digits.isEmpty || !digits.all Char.isDigit then none
  else
    return ofDecimal negative (Text.ofDecimal digits) (exponent - fraction.length)

/-- Reads a decimal or scientific text as the nearest number. `NaN`, `inf` and `infinity` are read
    in any case. -/
def read? (s : String) : Option (Binary F) :=
  let (negative, magnitude) := match s.toList with
    | '-' :: rest => (true, rest)
    | '+' :: rest => (false, rest)
    | rest => (false, rest)
  let word := String.ofList (magnitude.map Char.toLower)
  if word = "nan" then some .nan
  else if word = "inf" ∨ word = "infinity" then some (infinity negative)
  else readMagnitude? negative magnitude

end Binary

end GraphQuery
