import GraphQuery.Query.Compile
import GraphQuery.Record.Decode

namespace GraphQuery

/-- What the engine answers to a statement: rows, or a failure with a message. -/
inductive Reply where
  | result (result : ResultSet)
  | failure (text : String)

/-- An engine that gives the answers it was told to give, in order, and keeps the statements it was
    given. -/
structure Engine where
  pending : List Reply := []
  executed : List Statement := []

namespace Engine

/-- What the engine is called in messages. -/
def name : String := "memory"

/-- Adds an answer behind those that are still to be given. -/
def push (engine : Engine) (reply : Reply) : Engine :=
  { engine with pending := engine.pending ++ [reply] }

/-- Executes a statement. When no answer is left, the result is empty. -/
def execute (engine : Engine) (statement : Statement) : Engine × Except String ResultSet :=
  let executed := engine.executed ++ [statement]
  match engine.pending with
  | [] => (⟨[], executed⟩, .ok .empty)
  | .result result :: pending => (⟨pending, executed⟩, .ok result)
  | .failure text :: pending => (⟨pending, executed⟩, .error text)

end Engine

/-- What can go wrong between a query and its records. -/
inductive SessionError where
  | query (error : QueryError)
  | decode (error : DecodeError)
  | execution (text : String)

/-- The wording of an error. -/
def SessionError.message : SessionError → String
  | query error => error.message
  | decode error => error.message
  | execution text => s!"statement execution failed on {Engine.name}: {text}"

/-- An engine together with the settings that queries for it are compiled under. -/
structure Session where
  config : Config
  engine : Engine := {}

namespace Session

/-- Adds an answer that the engine is to give. -/
def push (session : Session) (reply : Reply) : Session :=
  { session with engine := session.engine.push reply }

/-- Executes a statement. -/
def runStatement (session : Session) (statement : Statement) :
    Session × Except SessionError ResultSet :=
  let (engine, reply) := session.engine.execute statement
  ({ session with engine }, reply.mapError .execution)

/-- Compiles and executes a query. A query that does not compile leaves the engine alone. -/
def run (session : Session) (query : Query) : Session × Except SessionError ResultSet :=
  match compile session.config query with
  | .ok statement => session.runStatement statement
  | .error error => (session, .error (.query error))

/-- Executes a query and reads something off its result. -/
def runWith {α : Type} (session : Session) (query : Query)
    (read : ResultSet → Except DecodeError α) : Session × Except SessionError α :=
  let (session, outcome) := session.run query
  (session, outcome.bind fun result => (read result).mapError .decode)

/-- Executes a query and reads every row as a record. -/
def fetchAll {α : Type} (session : Session) (model : Model α) (query : Query) :
    Session × Except SessionError (List α) :=
  session.runWith query model.decodeAll

/-- Executes a query and reads the first row as a record. -/
def fetchOne {α : Type} (session : Session) (model : Model α) (query : Query) :
    Session × Except SessionError α :=
  session.runWith query model.decodeOne

/-- Executes a query and reads the first row as a record, if there is a row. -/
def fetchFirst {α : Type} (session : Session) (model : Model α) (query : Query) :
    Session × Except SessionError (Option α) :=
  session.runWith query model.decodeFirst

/-- Executes a query and counts the rows. -/
def execute (session : Session) (query : Query) : Session × Except SessionError Nat :=
  session.runWith query fun result => .ok result.size

end Session

end GraphQuery
