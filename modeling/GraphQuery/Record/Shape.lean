import GraphQuery.Record.DecodeError
import GraphQuery.Value.Json

namespace GraphQuery

/-- What a single value is read as, without a schema. -/
inductive Shape where
  | any
  | bool
  | int (kind : IntKind)
  | double
  | string
  | optional (inner : Shape)
  | list (inner : Shape)
  | table (inner : Shape)

namespace Shape

variable (read : Json → Option Json)

/-- Reads every item of an array. -/
def readItems : List Json → Option (List Json)
  | [] => some []
  | item :: items => do return (← read item) :: (← readItems items)

/-- Reads every field of an object. -/
def readFields : Fields Json → Option (Fields Json)
  | [] => some []
  | (name, field) :: fields => do return (name, ← read field) :: (← readFields fields)

/-- Reads a document as one of a shape. Nothing is converted, except that an integer is read as a
    number with a fraction where that is asked for. -/
def read? : Shape → Json → Option Json
  | .any, json => some json
  | .bool, json => json.asBool?.map .bool
  | .int kind, json => do
    let n ← SizedInt.ofInt? kind (← json.asInt?)
    return .integer n.toJson
  | .double, json => do return .real (← JsonReal.ofDouble? (← json.asDouble?))
  | .string, json => json.asString?.map .string
  | .optional inner, json => if json.isNull then some .null else inner.read? json
  | .list inner, json => do return .array (← readItems inner.read? (← json.asArray?))
  | .table inner, json => do return .object (← readFields inner.read? (← json.asObject?))

/-- Reads a value as one of a shape, which has a name for messages. -/
def decode (shape : Shape) (name : String) (v : Value) : Except DecodeError Json :=
  match v.toJson? with
  | none => .error (.noJsonForm name v.kindName)
  | some json =>
    match shape.read? json with
    | none => .error (.refused name)
    | some result => .ok result

end Shape

end GraphQuery
