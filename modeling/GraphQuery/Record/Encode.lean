import GraphQuery.Binary.Text
import GraphQuery.Record.Path
import GraphQuery.Schema
import GraphQuery.Value.Json

namespace GraphQuery

namespace Record

/-- The component that failures of encoding belong to. -/
def component : String := "record"

/-- What was read from a document, which has to be there. -/
def expect {α : Type} (path : Path) (kind : Kind) (json : Json) (found : Option α) :
    Except QueryError α :=
  match found with
  | some value => .ok value
  | none => failWith component (.unexpectedJson path kind.typeName json.kindName)

/-- The value of a kind that a text spells, which has to be well-formed. -/
def expectText (path : Path) (word text : String) (found : Option Value) :
    Except QueryError Value :=
  match found with
  | some value => .ok value
  | none => failWith component (.invalidText path word text)

/-- An integer in a width. -/
def encodeInt (path : Path) (kind : IntKind) (n : Int) : Except QueryError Value :=
  match SizedInt.ofInt? kind n with
  | some n => .ok (.int n)
  | none => failWith component (.outOfRange path (toString n) kind.name)

/-- A number in single precision. It may lose digits but must not become infinite. -/
def encodeFloat (path : Path) (x : Double) : Except QueryError Value :=
  if x.isFinite && !x.withinRange .single then
    failWith component (.outOfRange path x.plainText Kind.float.typeName)
  else .ok (.float x.narrow)

/-- A number in single precision, or the absent value. -/
def encodeElement (path : Path) (json : Json) : Except QueryError Value :=
  if json.isNull then .ok .null
  else do encodeFloat path (← expect path .float json json.asDouble?)

mutual

/-- The value of a kind that a document stands for. The absent value is one of every kind. -/
def encode (path : Path) (json : Json) (kind : Kind) : Except QueryError Value :=
  if json.isNull then .ok .null
  else match kind with
    | .string => do return .string (← expect path .string json json.asString?)
    | .bool => do return .bool (← expect path .bool json json.asBool?)
    | .int width => do encodeInt path width (← expect path (.int width) json json.asInt?)
    | .float => encodeElement path json
    | .double => do return .double (← expect path .double json json.asDouble?)
    | .uuid => do
      let text ← expect path .uuid json json.asString?
      expectText path "UUID" text ((Uuid.read? text).map .uuid)
    | .timestamp => do
      let text ← expect path .timestamp json json.asString?
      expectText path "timestamp" text ((Timestamp.read? text).map .timestamp)
    | .date => do
      let text ← expect path .date json json.asString?
      expectText path "date" text ((Date.read? text).map .date)
    | .list inner => do
      let items ← expect path (.list inner) json json.asArray?
      return .list (← path.convertItems (fun path item => encode path item inner) items)
    | .vector dimension => do
      let items ← expect path (.vector dimension) json json.asArray?
      return .list (← path.convertItems encodeElement items)
    | .struct properties => do
      let fields ← expect path (.struct properties) json json.asObject?
      return .map (Fields.ofList (← encodeFields path fields properties))

/-- The columns of a nested record. A field that is missing is left out, and so is an optional one
    that is absent. -/
def encodeFields (path : Path) (fields : Fields Json) :
    List (PropertyOf Kind) → Except QueryError (List (String × Value))
  | [] => .ok []
  | ⟨name, column, kind, _, _, isOptional⟩ :: properties =>
    match fields.get? name with
    | none => encodeFields path fields properties
    | some json =>
      if json.isNull && isOptional then encodeFields path fields properties
      else do
        let value ← encode (path.field name) json kind
        return (column.getD name, value) :: (← encodeFields path fields properties)

end

/-- The value of a property that is not absent. A vector has to have the declared length. -/
def encodeProperty (schema : Schema) (property : Property) (json : Json) :
    Except QueryError Value :=
  match property.kind.dimension?, json.asArray? with
  | some dimension, some items =>
    if items.length ≠ dimension then
      .error (.dimensionMismatch schema.name property.columnName dimension items.length)
    else encode (Path.field schema.name property.name) json property.kind
  | _, _ => encode (Path.field schema.name property.name) json property.kind

/-- The columns of declared properties, and the fields that none of them has claimed. A property
    whose field is missing is left out, and so is an optional one that is absent. -/
def encodeDeclared (schema : Schema) (fields : Fields Json) :
    List Property → Except QueryError (List (String × Value) × Fields Json)
  | [] => .ok ([], fields)
  | property :: properties =>
    match fields.get? property.name with
    | none => encodeDeclared schema fields properties
    | some json =>
      if json.isNull then
        if property.isOptional then
          encodeDeclared schema (fields.erase property.name) properties
        else failWith component (.missingValue schema.name property.name)
      else do
        let value ← encodeProperty schema property json
        let (columns, rest) ← encodeDeclared schema (fields.erase property.name) properties
        return ((property.columnName, value) :: columns, rest)

/-- The columns of fields that are not declared. They keep their names, and the absent ones are left
    out. -/
def encodeUndeclared (fields : Fields Json) : List (String × Value) :=
  fields.filterMap fun (name, json) =>
    if json.isNull then none else some (name, Value.ofJson json)

end Record

/-- The columns of a record with their values: those of the declared properties in the order of the
    schema, and then those of all other fields. -/
def Model.encode {α : Type} (model : Model α) (record : α) :
    Except QueryError (List (String × Value)) :=
  match model.serialize record with
  | .error text => failWith Record.component (.unserializable model.schema.name text)
  | .ok json =>
    match json.asObject? with
    | none => failWith Record.component (.notARecord model.schema.name)
    | some fields => do
      let (columns, rest) ← Record.encodeDeclared model.schema fields model.schema.properties
      return columns ++ Record.encodeUndeclared rest

end GraphQuery
