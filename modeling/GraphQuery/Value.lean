import GraphQuery.Binary.Basic
import GraphQuery.Fields
import GraphQuery.Integer
import GraphQuery.Time.Timestamp
import GraphQuery.Uuid

namespace GraphQuery

/-- The engine's own identifier of a node or a relationship. -/
structure InternalId where
  table : UInt64
  offset : UInt64
  deriving DecidableEq

namespace InternalId

/-- Table and offset with a colon between them. -/
def text (id : InternalId) : String :=
  toString id.table ++ ":" ++ toString id.offset

end InternalId

/-- A value of the engine: what a parameter is bound to, and what a cell of a result holds. The
    entries of a map and the properties of nodes and relationships are tables. -/
inductive Value where
  | null
  | bool (b : Bool)
  | int (n : SizedInt)
  | float (x : Single)
  | double (x : Double)
  | string (s : String)
  | uuid (u : Uuid)
  | timestamp (t : Timestamp)
  | date (d : Date)
  | internalId (id : InternalId)
  | list (items : List Value)
  | map (entries : List (String × Value))
  | node (id : Option InternalId) (label : String) (properties : List (String × Value))
  | rel (id : Option InternalId) (label : String) (source target : Option InternalId)
      (properties : List (String × Value))

namespace Value

/-- The name of the kind of a value in messages. -/
def kindName : Value → String
  | .null => "NULL"
  | .bool _ => "BOOL"
  | .int n => n.kind.name
  | .float _ => "FLOAT"
  | .double _ => "DOUBLE"
  | .string _ => "STRING"
  | .uuid _ => "UUID"
  | .timestamp _ => "TIMESTAMP"
  | .date _ => "DATE"
  | .internalId _ => "INTERNAL_ID"
  | .list _ => "LIST"
  | .map _ => "MAP"
  | .node .. => "NODE"
  | .rel .. => "REL"

/-- Whether a value is the absent one. -/
def isNull : Value → Bool
  | .null => true
  | _ => false

/-- Whether a value is an integer of any width. -/
def isInteger : Value → Bool
  | .int _ => true
  | _ => false

/-- Whether a value is an integer or a floating-point number. -/
def isNumeric : Value → Bool
  | .int _ | .float _ | .double _ => true
  | _ => false

/-- The integer that an integer value holds. -/
def asInt? : Value → Option Int
  | .int n => some n.val
  | _ => none

/-- The integer that an integer value holds, if it is a signed one of 64 bits. -/
def asInt64? (v : Value) : Option Int :=
  v.asInt?.filter fun n => IntKind.int64.Holds n

/-- A numeric value as a 64-bit floating-point number, rounded where it is a large integer. -/
def asDouble? : Value → Option Double
  | .int n => some (.ofInt n.val)
  | .float x => some x.widen
  | .double x => some x
  | _ => none

/-- The text that a string value holds. -/
def asString? : Value → Option String
  | .string s => some s
  | _ => none

/-- The truth value that a boolean holds. -/
def asBool? : Value → Option Bool
  | .bool b => some b
  | _ => none

/-- The items of a list value. -/
def asList? : Value → Option (List Value)
  | .list items => some items
  | _ => none

/-- The entries of a map, or the properties of a node or a relationship. -/
def asFields? : Value → Option (Fields Value)
  | .map entries => some entries
  | .node _ _ properties => some properties
  | .rel _ _ _ _ properties => some properties
  | _ => none

/-- The label of a node or a relationship. -/
def label? : Value → Option String
  | .node _ label _ => some label
  | .rel _ label _ _ _ => some label
  | _ => none

mutual

/-- Equality of values. The kinds have to be the same, and floating-point numbers are compared as
    the numbers they mean, so that a value which holds one that is not a number differs from
    itself. -/
def equals : Value → Value → Bool
  | .null, .null => true
  | .bool a, .bool b => a = b
  | .int a, .int b => a = b
  | .float a, .float b => a.equals b
  | .double a, .double b => a.equals b
  | .string a, .string b => a = b
  | .uuid a, .uuid b => a = b
  | .timestamp a, .timestamp b => a = b
  | .date a, .date b => a = b
  | .internalId a, .internalId b => a = b
  | .list a, .list b => equalItems a b
  | .map a, .map b => equalEntries a b
  | .node id label properties, .node id' label' properties' =>
    id = id' && label = label' && equalEntries properties properties'
  | .rel id label source target properties, .rel id' label' source' target' properties' =>
    id = id' && label = label' && source = source' && target = target' &&
      equalEntries properties properties'
  | _, _ => false

/-- Equality of lists of values, item by item. -/
def equalItems : List Value → List Value → Bool
  | [], [] => true
  | a :: as, b :: bs => equals a b && equalItems as bs
  | _, _ => false

/-- Equality of tables of values, entry by entry. -/
def equalEntries : List (String × Value) → List (String × Value) → Bool
  | [], [] => true
  | (name, a) :: as, (name', b) :: bs => name = name' && equals a b && equalEntries as bs
  | _, _ => false

end

end Value

end GraphQuery
