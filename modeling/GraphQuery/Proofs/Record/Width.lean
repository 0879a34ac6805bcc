import GraphQuery.Proofs.Record.Conversion

namespace GraphQuery

namespace IntKind

/-- The number of bits of a width. -/
def bits : IntKind → Nat
  | .int8 | .uint8 => 8
  | .int16 | .uint16 => 16
  | .int32 | .uint32 => 32
  | .int64 | .uint64 => 64

/-- Whether a width has negative integers. -/
def isSigned : IntKind → Bool
  | .int8 | .int16 | .int32 | .int64 => true
  | .uint8 | .uint16 | .uint32 | .uint64 => false

/-- What the bits of a width keep of an integer. -/
def wrapped (kind : IntKind) (n : Int) : Int :=
  if kind.isSigned then (BitVec.ofInt kind.bits n).toInt else (BitVec.ofInt kind.bits n).toNat

/-- The ranges are those of two's complement: a width has just the integers that its bits keep. -/
theorem holds_iff_wrapped_eq (kind : IntKind) (n : Int) : kind.Holds n ↔ kind.wrapped n = n := by
  cases kind <;>
    simp only [Holds, least, greatest, wrapped, isSigned, bits, BitVec.toInt_ofInt,
      BitVec.toNat_ofInt, Int.bmod_def, if_true, Bool.false_eq_true, if_false] <;>
    omega

end IntKind

/-- Whether an integer lies between the least and the greatest one of a kind. -/
def Kind.Includes (kind : Kind) (n : Int) : Prop :=
  ∃ range, kind.integerRange? = some range ∧ range.1 ≤ n ∧ n ≤ range.2

theorem Kind.includes_int_iff {width : IntKind} {n : Int} :
    (Kind.int width).Includes n ↔ width.Holds n := by
  simp [Includes, integerRange?, IntKind.Holds]

theorem Value.asInt?_eq_some {v : Value} {n : Int} :
    v.asInt? = some n ↔ ∃ m : SizedInt, m.val = n ∧ v = .int m := by
  cases v <;> simp [asInt?, eq_comm]

namespace Record

variable {n : JsonInteger}

theorem encode_integer (path : Path) (width : IntKind) (n : JsonInteger) :
    encode path (.integer n) (.int width) = encodeInt path width n.val := by
  rw [encode]
  rfl

theorem encode_integer_of_holds {width : IntKind} (hholds : width.Holds n.val) (path : Path) :
    encode path (.integer n) (.int width) = .ok (.int ⟨width, n.val, hholds⟩) := by
  rw [encode_integer, encodeInt, SizedInt.ofInt?, dif_pos hholds]

theorem encode_integer_of_not_holds {width : IntKind} (hholds : ¬ width.Holds n.val)
    (path : Path) :
    encode path (.integer n) (.int width) =
      failWith component (.outOfRange path (toString n.val) width.name) := by
  rw [encode_integer, encodeInt, SizedInt.ofInt?, dif_neg hholds]

/-- An integer is encoded as a value that holds the same integer. -/
theorem asInt?_of_encode_integer {path : Path} {width : IntKind} {v : Value}
    (hencode : encode path (.integer n) (.int width) = .ok v) : v.asInt? = some n.val := by
  cases encodes_of_encode hencode with
  | int hholds => rfl

theorem coerce_int (path : Path) (width : IntKind) (m : SizedInt) :
    coerce path (.int m) (.int width) =
      require path (.int width) (.int m)
        ((SizedInt.ofInt? width m.val).map fun k => .integer k.toJson) := by
  simp only [coerce, Value.coerceScalar?, Value.toInteger?_int, Value.toInt?, Option.bind_some]

theorem coerce_of_holds {width : IntKind} {v : Value} (hint : v.asInt? = some n.val)
    (hholds : width.Holds n.val) (path : Path) :
    coerce path v (.int width) = .ok (.integer n) := by
  obtain ⟨m, hval, rfl⟩ := Value.asInt?_eq_some.mp hint
  rw [coerce_int, hval, SizedInt.ofInt?, dif_pos hholds]
  rfl

theorem coerce_of_not_holds {width : IntKind} {v : Value} (hint : v.asInt? = some n.val)
    (hholds : ¬ width.Holds n.val) (path : Path) :
    coerce path v (.int width) = .error (.unexpected path width.name v) := by
  obtain ⟨m, hval, rfl⟩ := Value.asInt?_eq_some.mp hint
  rw [coerce_int, hval, SizedInt.ofInt?, dif_neg hholds]
  rfl

/-- Integers keep their value on the way through two widths. One is encoded exactly if it is in the
    range of the one width, and what it is encoded as, like every other value that holds it, is
    decoded exactly if it is in the range of the other, to the integer itself. All else is an error,
    which is so just where the bits of the width would leave another integer. -/
theorem integer_transported (source target : IntKind) (n : JsonInteger) (path field : Path) :
    ((∃ v, encode path (.integer n) (.int source) = .ok v) ↔ (Kind.int source).Includes n.val) ∧
    (∀ e, encode path (.integer n) (.int source) = .error e →
      e = .failure none component (.outOfRange path (toString n.val) source.name)) ∧
    (∀ v, encode path (.integer n) (.int source) = .ok v ∨ v.asInt? = some n.val →
      ((∃ json, coerce field v (.int target) = .ok json) ↔ (Kind.int target).Includes n.val) ∧
      (∀ json, coerce field v (.int target) = .ok json → json = .integer n) ∧
      ∀ e, coerce field v (.int target) = .error e → e = .unexpected field target.name v) ∧
    ((Kind.int target).Includes n.val ↔ target.wrapped n.val = n.val) := by
  simp only [Kind.includes_int_iff]
  refine ⟨?_, ?_, fun v hv => ?_, target.holds_iff_wrapped_eq n.val⟩
  · by_cases hholds : source.Holds n.val
    · simp [encode_integer_of_holds hholds, hholds]
    · simp [encode_integer_of_not_holds hholds, hholds, failWith]
  · intro e herror
    by_cases hholds : source.Holds n.val
    · rw [encode_integer_of_holds hholds] at herror
      cases herror
    · rw [encode_integer_of_not_holds hholds] at herror
      exact (Except.error.inj herror).symm
  · have hint : v.asInt? = some n.val := hv.elim asInt?_of_encode_integer id
    by_cases hholds : target.Holds n.val
    · simp [coerce_of_holds hint hholds, hholds, eq_comm]
    · simp [coerce_of_not_holds hint hholds, hholds, eq_comm]

/-- The least integer of 64 bits that has no place beside the negative ones. -/
def firstUnsigned : JsonInteger :=
  ⟨0x8000000000000000, by decide⟩

/-- It comes back from an unsigned width, and is refused by the signed one, whose bits would make it
    negative. -/
theorem firstUnsigned_transported :
    ∃ v, encode "Counter.total" (.integer firstUnsigned) (.int .uint64) = .ok v ∧
      coerce "total" v (.int .uint64) = .ok (.integer firstUnsigned) ∧
      coerce "total" v (.int .int64) = .error (.unexpected "total" "INT64" v) ∧
      IntKind.int64.wrapped firstUnsigned.val = -0x8000000000000000 := by
  obtain ⟨hencode, _, hunsigned, _⟩ :=
    integer_transported .uint64 .uint64 firstUnsigned "Counter.total" "total"
  obtain ⟨_, _, hsigned, _⟩ :=
    integer_transported .uint64 .int64 firstUnsigned "Counter.total" "total"
  have hincludes : (Kind.int .uint64).Includes firstUnsigned.val :=
    Kind.includes_int_iff.mpr (by decide)
  obtain ⟨v, hv⟩ := hencode.mpr hincludes
  obtain ⟨hread, hsame, _⟩ := hunsigned v (.inl hv)
  obtain ⟨json, hjson⟩ := hread.mpr hincludes
  obtain ⟨hrefused, _, herror⟩ := hsigned v (.inl hv)
  refine ⟨v, hv, hsame json hjson ▸ hjson, ?_, by decide⟩
  cases hcoerce : coerce "total" v (.int .int64) with
  | ok json =>
    have hholds : IntKind.int64.Holds firstUnsigned.val :=
      Kind.includes_int_iff.mp (hrefused.mp ⟨json, hcoerce⟩)
    exact absurd hholds (by decide)
  | error e => rw [herror e hcoerce, IntKind.name]

end Record

end GraphQuery
