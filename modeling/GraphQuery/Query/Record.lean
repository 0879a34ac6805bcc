import GraphQuery.Query.Tree
import GraphQuery.Record.Encode

namespace GraphQuery

/-- An aggregate over distinct rows only. Other expressions stay as they are. -/
def Expr.distinct : Expr → Expr
  | .aggregate f argument _ => .aggregate f argument true
  | expr => expr

/-- A node with a label whose inline properties are all values. -/
def NodePattern.labelled (aliasName label : String) (columns : List (String × Value)) :
    NodePattern :=
  .mk ⟨aliasName, some label, none⟩ (columns.map fun (name, v) => (name, .value v)) none

namespace Model

variable {α : Type} (model : Model α)

/-- The clause that creates a node that holds a record. -/
def create (aliasName : String) (record : α) : Except QueryError Clause := do
  let columns ← model.encode record
  return .create [.node (.labelled aliasName model.schema.name columns)]

/-- The clause that creates an edge that holds a record, between two nodes known by alias. -/
def createEdge (aliasName source target : String) (record : α) : Except QueryError Clause := do
  let columns ← model.encode record
  let properties := columns.map fun (name, v) => (name, Expr.value v)
  let head : Head := ⟨aliasName, some model.schema.name, none⟩
  return .create [.edge (.mk { aliasName := source } [] none) head .outgoing properties none
    (.mk { aliasName := target } [] none)]

/-- The assignments of all columns of a record to what an alias stands for. -/
def assign (aliasName : String) (record : α) : Except QueryError (List Assignment) := do
  let columns ← model.encode record
  return columns.map fun (name, v) => ⟨⟨aliasName, name⟩, .value v⟩

end Model

/-- The columns that a record is looked up by: those of the given properties, or of the primary key
    if none are given. -/
def Schema.keyColumns (schema : Schema) (keys : List String) : Except QueryError (List String) :=
  if keys.isEmpty then
    match schema.primaryKey? with
    | some property => .ok [property.columnName]
    | none => failWith "merge" (.noPrimaryKey schema.name)
  else keys.mapM fun key => do return (← schema.require key).columnName

/-- The clause that brings the node of a record up to date, or creates it if there is none with the
    same keys. All columns other than the keys are set in both cases. -/
def Model.merge {α : Type} (model : Model α) (aliasName : String) (record : α)
    (keys : List String) : Except QueryError Clause := do
  let keys ← model.schema.keyColumns keys
  let columns ← model.encode record
  let (matchOn, others) := columns.partition fun (name, _) => keys.contains name
  match keys.find? fun key => !(matchOn.map Prod.fst).contains key with
  | some missing => failWith "merge" (.missingKey model.schema.name missing)
  | none =>
    return .merge (.node (.labelled aliasName model.schema.name [])) matchOn others others

end GraphQuery
