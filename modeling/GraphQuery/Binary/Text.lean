import GraphQuery.Binary.Shortest
import GraphQuery.Text.Digits

namespace GraphQuery

namespace Decimal

/-- Written with a decimal point where there is a fraction, and without an exponent. -/
def positional (d : Decimal) : List Char :=
  let digits := Nat.toDigits 10 d.digits
  if 0 ≤ d.exponent then digits ++ List.replicate d.exponent.toNat '0'
  else
    let places := (-d.exponent).toNat
    let padded := Text.zeroPad (places + 1) digits
    padded.take (padded.length - places) ++ '.' :: padded.drop (padded.length - places)

/-- Written with one digit before the point, and an exponent. -/
def scientific (d : Decimal) : List Char :=
  let digits := Nat.toDigits 10 d.digits
  let fraction := digits.drop 1
  digits.take 1 ++ (if fraction.isEmpty then [] else '.' :: fraction) ++
    'e' :: (toString (d.exponent + (digits.length - 1 : Nat))).toList

/-- Positional from 10^-4 up to but not including 10^16, with a fraction always, and scientific
    outside of that range. -/
def general (d : Decimal) : List Char :=
  let lead := d.exponent + ((Nat.toDigits 10 d.digits).length - 1 : Nat)
  if -4 ≤ lead ∧ lead < 16 then
    d.positional ++ (if 0 ≤ d.exponent then ['.', '0'] else [])
  else d.scientific

end Decimal

namespace Binary

variable {F : BinaryFormat}

/-- The text of a number, by a way of writing its shortest decimal and a text for zero. -/
private def textWith (write : Decimal → List Char) (zero : List Char) : Binary F → String
  | .nan => "NaN"
  | .signed negative rank =>
    let magnitude :=
      if rank.val = 0 then zero
      else if rank.val < F.infinityRank then write (F.shortest rank.val)
      else ['i', 'n', 'f']
    String.ofList (if negative then '-' :: magnitude else magnitude)

/-- The text of a number as the engine's dialect writes it: the shortest digits that read back, an
    exponent for the very large and the very small, and a fraction otherwise. -/
def text (x : Binary F) : String :=
  x.textWith Decimal.general ['0', '.', '0']

/-- The text of a number in full, never with an exponent, and without a fraction if it has none. -/
def plainText (x : Binary F) : String :=
  x.textWith Decimal.positional ['0']

end Binary

end GraphQuery
