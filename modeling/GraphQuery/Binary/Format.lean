namespace GraphQuery

/-- A binary floating-point format, given by the widths of its two stored fields. Magnitudes are
    numbered from zero upwards by their rank, which is the number the two fields spell together:
    a larger rank is a larger magnitude, and infinity has the greatest rank of all. -/
structure BinaryFormat where
  fractionBits : Nat
  exponentBits : Nat
  deriving DecidableEq

namespace BinaryFormat

/-- The 32-bit format. -/
def single : BinaryFormat := ⟨23, 8⟩

/-- The 64-bit format. -/
def double : BinaryFormat := ⟨52, 11⟩

variable (F : BinaryFormat)

/-- The rank of infinity, just above the greatest finite magnitude. -/
def infinityRank : Nat := ((1 <<< F.exponentBits) - 1) <<< F.fractionBits

/-- The least positive magnitude is two to the power of minus this exponent. Every finite magnitude
    is a whole number of such units. -/
def unitExponent : Nat := (1 <<< (F.exponentBits - 1)) - 2 + F.fractionBits

/-- The magnitude of a rank, in units. The spacing of neighbours doubles from one exponent field to
    the next, save between the first two. At the rank of infinity this is the power of two at which
    rounding overflows. -/
def units (rank : Nat) : Nat :=
  let field := rank >>> F.fractionBits
  let fraction := rank % (1 <<< F.fractionBits)
  if field = 0 then fraction else ((1 <<< F.fractionBits) + fraction) <<< (field - 1)

/-- The rank whose magnitude is nearest to `num / den` units. Of two equally near ranks the even one
    is taken, and beyond the overflow threshold the answer is infinity. -/
def nearestRank (num den : Nat) : Nat :=
  let shift := Nat.log2 (num / den) - F.fractionBits
  let step := den <<< shift
  let quotient := num / step
  let remainder := num % step
  let significand :=
    if 2 * remainder < step ∨ (2 * remainder = step ∧ quotient % 2 = 0) then quotient
    else quotient + 1
  min ((shift <<< F.fractionBits) + significand) F.infinityRank

theorem nearestRank_le_infinityRank (num den : Nat) : F.nearestRank num den ≤ F.infinityRank :=
  Nat.min_le_right _ _

end BinaryFormat

end GraphQuery
