import GraphQuery.Binary.Basic

namespace GraphQuery

/-- The number `digits · 10 ^ exponent`. -/
structure Decimal where
  digits : Nat
  exponent : Int
  deriving DecidableEq

namespace BinaryFormat

variable (F : BinaryFormat)

/-- Magnitudes in half units that read back as a given rank: those between the midpoints to the two
    neighbours, which themselves belong to it when the rank is even. -/
structure RoundingInterval where
  low : Nat
  value : Nat
  high : Nat
  closed : Bool

/-- The interval that rounds to a rank. -/
def roundingInterval (rank : Nat) : RoundingInterval where
  low := F.units (rank - 1) + F.units rank
  value := 2 * F.units rank
  high := F.units rank + F.units (rank + 1)
  closed := rank % 2 = 0

/-- The multiple of a power of ten that lies in the interval, nearest to its value; of two equally
    near the larger. Of all multiples only the two neighbours of the value need to be tried. -/
def RoundingInterval.onGrid? (interval : RoundingInterval) (scale : Nat) (exponent : Int) :
    Option Decimal :=
  let up := Nat.pow 10 (-exponent).toNat
  let step := scale * Nat.pow 10 exponent.toNat
  let below := interval.value * up / step
  let remainder := interval.value * up % step
  let lowOk := 0 < below ∧
    (interval.low * up < below * step ∨ (interval.closed ∧ interval.low * up = below * step))
  let above := (below + 1) * step
  let highOk := above < interval.high * up ∨ (interval.closed ∧ above = interval.high * up)
  if lowOk ∧ (2 * remainder < step ∨ ¬ highOk) then some ⟨below, exponent⟩
  else if highOk then some ⟨below + 1, exponent⟩
  else none

/-- The first hit on the grids of ever smaller powers of ten. -/
def RoundingInterval.coarsest? (interval : RoundingInterval) (scale : Nat) :
    Nat → Int → Option Decimal
  | 0, _ => none
  | steps + 1, exponent =>
    match interval.onGrid? scale exponent with
    | some found => some found
    | none => interval.coarsest? scale steps (exponent - 1)

/-- The decimal with the fewest digits that reads back as a positive finite rank, and of those the
    nearest to its magnitude. The search starts above the leading digit, by an estimate of the
    common logarithm that is never too low, and the exact decimal stands in should it fail. -/
def shortest (rank : Nat) : Decimal :=
  let interval := F.roundingInterval rank
  let scale := 1 <<< (F.unitExponent + 1)
  let start := ((interval.value.log2 : Int) - (F.unitExponent + 1)) * 30103 / 100000 + 2
  (interval.coarsest? scale 25 start).getD
    ⟨interval.value * Nat.pow 5 (F.unitExponent + 1), -(F.unitExponent + 1)⟩

end BinaryFormat

end GraphQuery
