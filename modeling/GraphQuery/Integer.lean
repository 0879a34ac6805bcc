namespace GraphQuery

/-- The engine's eight integer widths. -/
inductive IntKind where
  | int8
  | int16
  | int32
  | int64
  | uint8
  | uint16
  | uint32
  | uint64
  deriving DecidableEq

namespace IntKind

/-- The name of the kind in types and messages. -/
def name : IntKind → String
  | .int8 => "INT8"
  | .int16 => "INT16"
  | .int32 => "INT32"
  | .int64 => "INT64"
  | .uint8 => "UINT8"
  | .uint16 => "UINT16"
  | .uint32 => "UINT32"
  | .uint64 => "UINT64"

/-- The least integer of the kind. -/
def least : IntKind → Int
  | .int8 => -0x80
  | .int16 => -0x8000
  | .int32 => -0x80000000
  | .int64 => -0x8000000000000000
  | .uint8 | .uint16 | .uint32 | .uint64 => 0

/-- The greatest integer of the kind. -/
def greatest : IntKind → Int
  | .int8 => 0x7f
  | .int16 => 0x7fff
  | .int32 => 0x7fffffff
  | .int64 => 0x7fffffffffffffff
  | .uint8 => 0xff
  | .uint16 => 0xffff
  | .uint32 => 0xffffffff
  | .uint64 => 0xffffffffffffffff

/-- Whether an integer is one of the kind. -/
def Holds (kind : IntKind) (n : Int) : Prop :=
  kind.least ≤ n ∧ n ≤ kind.greatest

instance (kind : IntKind) (n : Int) : Decidable (kind.Holds n) :=
  inferInstanceAs (Decidable (_ ∧ _))

theorem not_holds_iff {kind : IntKind} {n : Int} :
    ¬ kind.Holds n ↔ n < kind.least ∨ kind.greatest < n := by
  unfold Holds
  omega

end IntKind

/-- An integer of one of the engine's widths. Equal integers of different widths differ. -/
structure SizedInt where
  kind : IntKind
  val : Int
  inRange : kind.Holds val
  deriving DecidableEq

namespace SizedInt

/-- The integer in a width, if it fits. -/
def ofInt? (kind : IntKind) (n : Int) : Option SizedInt :=
  if h : kind.Holds n then some ⟨kind, n, h⟩ else none

end SizedInt

end GraphQuery
