import GraphQuery.Binary.Format

namespace GraphQuery

/-- A binary floating-point number: a sign and the rank of a magnitude, which may be infinite, or
    the one value that is not a number. -/
inductive Binary (F : BinaryFormat) where
  | nan
  | signed (negative : Bool) (rank : Fin (F.infinityRank + 1))
  deriving DecidableEq

/-- A 32-bit floating-point number. -/
abbrev Single := Binary .single

/-- A 64-bit floating-point number. -/
abbrev Double := Binary .double

namespace Binary

variable {F G : BinaryFormat}

/-- The magnitude `num / den`, in units of the format, with a sign. -/
def ofUnits (negative : Bool) (num den : Nat) : Binary F :=
  .signed negative
    ⟨F.nearestRank num den, Nat.lt_succ_of_le (F.nearestRank_le_infinityRank num den)⟩

/-- The number nearest to `num / den`. -/
def ofRatio (negative : Bool) (num den : Nat) : Binary F :=
  ofUnits negative (num <<< F.unitExponent) den

/-- The number nearest to an integer. -/
def ofInt (n : Int) : Binary F :=
  ofRatio (n < 0) n.natAbs 1

/-- Infinity of the given sign. -/
def infinity (negative : Bool) : Binary F :=
  .signed negative ⟨F.infinityRank, Nat.lt_succ_self _⟩

/-- Whether the number is neither infinite nor the one that is not a number. -/
def isFinite : Binary F → Bool
  | .nan => false
  | .signed _ rank => rank.val < F.infinityRank

/-- Equality of the numbers that are meant: the two zeros are equal, and what is not a number
    differs from everything, itself included. -/
def equals : Binary F → Binary F → Bool
  | .signed negative rank, .signed negative' rank' =>
    rank = rank' && (negative = negative' || rank.val = 0)
  | _, _ => false

/-- The same number in another format, rounded to the nearest where it has no exact form there. -/
def convert (G : BinaryFormat) : Binary F → Binary G
  | .nan => .nan
  | .signed negative rank =>
    if rank.val < F.infinityRank then
      ofUnits negative (F.units rank.val <<< G.unitExponent) (1 <<< F.unitExponent)
    else infinity negative

/-- The 32-bit number as a 64-bit one. -/
def widen (x : Single) : Double :=
  x.convert .double

/-- The 64-bit number nearest to which the 32-bit format has, or infinity. -/
def narrow (x : Double) : Single :=
  x.convert .single

/-- Whether the magnitude of a finite number is at most the greatest finite one of another format.
    Infinities are beyond every format. -/
def withinRange (G : BinaryFormat) : Binary F → Bool
  | .nan => false
  | .signed _ rank =>
    rank.val < F.infinityRank &&
      F.units rank.val <<< G.unitExponent ≤ G.units (G.infinityRank - 1) <<< F.unitExponent

/-- The integer that a finite number is equal to, if its fraction is zero. -/
def toInt? : Binary F → Option Int
  | .nan => none
  | .signed negative rank =>
    let units := F.units rank.val
    if rank.val < F.infinityRank ∧ units % (1 <<< F.unitExponent) = 0 then
      let magnitude : Int := (units >>> F.unitExponent : Nat)
      some (if negative then -magnitude else magnitude)
    else none

end Binary

end GraphQuery
