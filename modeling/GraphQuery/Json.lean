import GraphQuery.Binary.Basic
import GraphQuery.Fields

namespace GraphQuery

/-- An integer that JSON carries exactly: a signed or an unsigned one of 64 bits. -/
structure JsonInteger where
  val : Int
  inRange : -0x8000000000000000 ≤ val ∧ val ≤ 0xffffffffffffffff
  deriving DecidableEq

namespace JsonInteger

/-- The integer, if it is one that JSON carries exactly. -/
def ofInt? (n : Int) : Option JsonInteger :=
  if h : -0x8000000000000000 ≤ n ∧ n ≤ 0xffffffffffffffff then some ⟨n, h⟩ else none

/-- The integer, if it is a signed one of 64 bits. -/
def ofSigned? (n : Int) : Option JsonInteger :=
  if h : -0x8000000000000000 ≤ n ∧ n ≤ 0x7fffffffffffffff then
    some ⟨n, h.1, Int.le_trans h.2 (by decide)⟩
  else none

/-- The integer, if it is an unsigned one of 64 bits. -/
def ofUnsigned? (n : Int) : Option JsonInteger :=
  if h : 0 ≤ n ∧ n ≤ 0xffffffffffffffff then some ⟨n, Int.le_trans (by decide) h.1, h.2⟩ else none

end JsonInteger

/-- A number with a fraction or an exponent in JSON, which has no form for the values that are not
    finite. -/
structure JsonReal where
  val : Double
  isFinite : val.isFinite = true
  deriving DecidableEq

namespace JsonReal

/-- The number, if it is finite. -/
def ofDouble? (x : Double) : Option JsonReal :=
  if h : x.isFinite = true then some ⟨x, h⟩ else none

end JsonReal

/-- A JSON document. The fields of an object are a table. -/
inductive Json where
  | null
  | bool (b : Bool)
  | integer (n : JsonInteger)
  | real (x : JsonReal)
  | string (s : String)
  | array (items : List Json)
  | object (fields : List (String × Json))

namespace Json

/-- The word for the kind of a document in messages. -/
def kindName : Json → String
  | .null => "null"
  | .bool _ => "bool"
  | .integer _ | .real _ => "number"
  | .string _ => "string"
  | .array _ => "array"
  | .object _ => "object"

/-- Whether a document is the absent value. -/
def isNull : Json → Bool
  | .null => true
  | _ => false

/-- The truth value that a document is. -/
def asBool? : Json → Option Bool
  | .bool b => some b
  | _ => none

/-- The integer that a document is. A number with a fraction or an exponent is none, whatever its
    value. -/
def asInt? : Json → Option Int
  | .integer n => some n.val
  | _ => none

/-- A number as a 64-bit floating-point number, rounded where it is a large integer. -/
def asDouble? : Json → Option Double
  | .integer n => some (.ofInt n.val)
  | .real x => some x.val
  | _ => none

/-- The text that a document is. -/
def asString? : Json → Option String
  | .string s => some s
  | _ => none

/-- The items of an array. -/
def asArray? : Json → Option (List Json)
  | .array items => some items
  | _ => none

/-- The fields of an object. -/
def asObject? : Json → Option (Fields Json)
  | .object fields => some fields
  | _ => none

end Json

end GraphQuery
