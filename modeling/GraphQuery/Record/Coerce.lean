import GraphQuery.Record.DecodeError
import GraphQuery.Record.Path
import GraphQuery.Schema.Kind
import GraphQuery.Value.Json

namespace GraphQuery

namespace Value

/-- The integer that a value is equal to: an integer itself, or a floating-point number without a
    fraction. -/
def toInt? : Value → Option Int
  | .int n => some n.val
  | .float x => x.toInt?
  | .double x => x.toInt?
  | _ => none

/-- The identifier that a value is or spells. -/
def toUuid? : Value → Option Uuid
  | .uuid u => some u
  | .string s => Uuid.read? s
  | _ => none

/-- The moment that a value is or spells. -/
def toTimestamp? : Value → Option Timestamp
  | .timestamp t => some t
  | .string s => Timestamp.read? s
  | _ => none

/-- The day that a value is or spells. -/
def toDate? : Value → Option Date
  | .date d => some d
  | .string s => Date.read? s
  | _ => none

/-- The JSON form of a value as an integer of a kind, if it is in the range of that. A negative one
    is carried by a signed integer of 64 bits, and any other by an unsigned one. -/
def toInteger? (v : Value) (kind : Kind) : Option Json := do
  let n ← v.toInt?
  let (least, greatest) ← kind.integerRange?
  if n < least ∨ greatest < n then none
  else if n < 0 then (JsonInteger.ofSigned? n).map .integer
  else (JsonInteger.ofUnsigned? n).map .integer

/-- The integers that are read as ones of a width are just those of the width. -/
theorem toInteger?_int (v : Value) (width : IntKind) :
    v.toInteger? (.int width) =
      v.toInt?.bind fun n => (SizedInt.ofInt? width n).map fun m => .integer m.toJson := by
  cases hint : v.toInt? with
  | none => simp [toInteger?, hint]
  | some n =>
    by_cases hholds : width.Holds n
    · have hrange : ¬ (n < width.least ∨ width.greatest < n) := fun houtside =>
        IntKind.not_holds_iff.mpr houtside hholds
      obtain ⟨hleast, hgreatest⟩ := hholds.json_inRange
      by_cases hsign : n < 0
      · have hfits : -0x8000000000000000 ≤ n ∧ n ≤ 0x7fffffffffffffff := ⟨hleast, by omega⟩
        simp [toInteger?, hint, Kind.integerRange?, hrange, hsign, JsonInteger.ofSigned?, hfits,
          SizedInt.ofInt?, hholds, SizedInt.toJson]
      · have hfits : 0 ≤ n ∧ n ≤ 0xffffffffffffffff := ⟨Int.not_lt.mp hsign, hgreatest⟩
        simp [toInteger?, hint, Kind.integerRange?, hrange, hsign, JsonInteger.ofUnsigned?, hfits,
          SizedInt.ofInt?, hholds, SizedInt.toJson]
    · have hrange : n < width.least ∨ width.greatest < n := IntKind.not_holds_iff.mp hholds
      simp [toInteger?, hint, Kind.integerRange?, hrange, SizedInt.ofInt?, hholds]

/-- The JSON form of a numeric value in single precision, if it is in the range of that. -/
def toFloat? (v : Value) : Option Json := do
  let x ← v.asDouble?
  if x.withinRange .single then (JsonReal.ofDouble? x.narrow.widen).map .real else none

/-- The JSON form of a value as one of a kind that has no parts. -/
def coerceScalar? (v : Value) : Kind → Option Json
  | .string => v.asString?.map .string
  | .bool => v.asBool?.map .bool
  | .int width => v.toInteger? (.int width)
  | .float => v.toFloat?
  | .double => do return .real (← JsonReal.ofDouble? (← v.asDouble?))
  | .uuid => v.toUuid?.map fun u => .string u.text
  | .timestamp => v.toTimestamp?.map fun t => .string t.text
  | .date => v.toDate?.map fun d => .string d.text
  | .list _ | .struct _ | .vector _ => none

end Value

namespace Record

/-- What was made of a value of a kind, which has to be possible. -/
def require {α : Type} (path : Path) (kind : Kind) (v : Value) (found : Option α) :
    Except DecodeError α :=
  match found with
  | some result => .ok result
  | none => .error (.unexpected path kind.typeName v)

/-- Converts an item of a list, which must not be absent. -/
def coercePresent (coerce : Path → Value → Except DecodeError Json) (path : Path) (v : Value) :
    Except DecodeError Json :=
  if v.isNull then .error (.nullViolation path) else coerce path v

/-- An element of a vector. -/
def coerceElement (path : Path) (v : Value) : Except DecodeError Json :=
  require path .float v v.toFloat?

mutual

/-- The JSON form of a value as one of a kind. -/
def coerce (path : Path) (v : Value) : Kind → Except DecodeError Json
  | .list inner => do
    let items ← require path (.list inner) v v.asList?
    return .array (← path.convertItems
      (coercePresent fun path item => coerce path item inner) items)
  | .vector dimension => do
    let items ← require path (.vector dimension) v v.asList?
    if items.length ≠ dimension then
      .error (.mismatch path (Kind.vector dimension).typeName s!"LIST of {items.length} elements")
    else return .array (← path.convertItems (coercePresent coerceElement) items)
  | .struct properties => do
    let fields ← require path (.struct properties) v v.asFields?
    return .object (Fields.ofList (← coerceFields path.field fields.get? properties))
  | kind => require path kind v (v.coerceScalar? kind)

/-- The fields of a record, by the path and the value that each property has. A value that is absent
    or missing is allowed where the property is optional. -/
def coerceFields (path : String → Path) (value? : String → Option Value) :
    List (PropertyOf Kind) → Except DecodeError (List (String × Json))
  | [] => .ok []
  | ⟨name, column, kind, _, _, isOptional⟩ :: properties => do
    let json ← match value? (column.getD name) with
      | none => if isOptional then .ok .null else .error (.missingColumn (column.getD name))
      | some v =>
        if v.isNull then
          if isOptional then .ok .null else .error (.nullViolation (path name))
        else coerce (path name) v kind
    return (name, json) :: (← coerceFields path value? properties)

end

end Record

end GraphQuery
