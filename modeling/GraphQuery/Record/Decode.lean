import GraphQuery.Record.Coerce
import GraphQuery.Record.Row
import GraphQuery.Schema

namespace GraphQuery

namespace Record

/-- The nodes and relationships among the cells of a row. -/
def entities (row : Row) : List Value :=
  (row.entries.map Prod.snd).filter fun v => v.label?.isSome

/-- The value in a row that holds a whole record: the first node or relationship labelled with the
    schema's name, or the only one there is, or the only cell if that is a map. -/
def entity? (schema : Schema) (row : Row) : Option (Fields Value) :=
  match (entities row).find? fun v => v.label? = some schema.name with
  | some labelled => labelled.asFields?
  | none =>
    match entities row, row.entries with
    | [single], _ => single.asFields?
    | _, [(_, .map entries)] => some entries
    | _, _ => none

end Record

namespace Model

variable {α : Type} (model : Model α)

/-- Builds a record from the values of its columns. -/
def build (value? : String → Option Value) : Except DecodeError α := do
  let fields ← Record.coerceFields id value? model.schema.properties
  match model.deserialize (.object (Fields.ofList fields)) with
  | .ok record => return record
  | .error text => .error (.unbuildable model.schema.name text)

/-- Reads a row as a record: from the value that holds the whole of it if there is one, and from the
    columns of the row otherwise. -/
def decode (row : Row) : Except DecodeError α :=
  match Record.entity? model.schema row with
  | some fields => model.build fields.get?
  | none => model.build row.get?

/-- Reads the node, the relationship or the map in one column of a row as a record. -/
def decodeColumn (row : Row) (column : String) : Except DecodeError α :=
  match row.get? column with
  | none => .error (.missingColumn column)
  | some v =>
    match v.asFields? with
    | none => .error (.unexpected column "NODE" v)
    | some fields => model.build fields.get?

/-- Reads every row as a record. -/
def decodeAll (result : ResultSet) : Except DecodeError (List α) :=
  result.allRows.mapM model.decode

/-- Reads the first row as a record, if there is a row. -/
def decodeFirst (result : ResultSet) : Except DecodeError (Option α) :=
  match result.row? 0 with
  | none => .ok none
  | some row => do return some (← model.decode row)

/-- Reads the first row as a record. There has to be a row. -/
def decodeOne (result : ResultSet) : Except DecodeError α := do
  match ← model.decodeFirst result with
  | some record => return record
  | none => .error .noResult

end Model

end GraphQuery
