import GraphQuery.Bindings
import GraphQuery.Config
import GraphQuery.Name.Check
import GraphQuery.Name.Parameter

namespace GraphQuery

/-- What is known at one point of a compilation: how many anonymous names have been handed out, and
    the parameters of the part of the statement that is being written. -/
structure Scope where
  count : Nat := 0
  bindings : Bindings := .empty

/-- Writing a part of a statement. A name that was handed out before a failure stays used up. -/
abbrev RenderM := EStateM QueryError Scope

/-- A check that has no effect on the scope. -/
instance : MonadLift (Except QueryError) RenderM where
  monadLift check := fun scope =>
    match check with
    | .ok value => .ok value scope
    | .error error => .error error scope

namespace Scope

/-- Binds a name to a value. -/
def bind (name : String) (value : Value) : RenderM Unit := fun scope =>
  match scope.bindings.bind name value with
  | .ok bindings => .ok () { scope with bindings }
  | .error conflict => .error conflict scope

/-- Adds the parameters of a part that was written on its own. -/
def absorb (bindings : Bindings) : RenderM Unit := fun scope =>
  match scope.bindings.merge bindings with
  | (bindings, none) => .ok () { scope with bindings }
  | (bindings, some conflict) => .error conflict { scope with bindings }

/-- Hands out the next anonymous name. -/
def reserve (config : Config) : RenderM String :=
  modifyGet fun scope =>
    (Name.anonymous config.parameterStem (scope.count + 1), { scope with count := scope.count + 1 })

/-- Binds a value to an anonymous name, and gives the placeholder. -/
def bindAnonymous (config : Config) (value : Value) : RenderM String := do
  let name ← reserve config
  bind name value
  return Name.placeholder name

/-- Binds a value to the name of its alias and column, and gives the placeholder. -/
def bindSemantic (aliasName column : String) (value : Value) : RenderM String := do
  let name := Name.semantic aliasName column
  bind name value
  return Name.placeholder name

/-- Writes a part with parameters of its own. -/
def isolated (part : RenderM String) : RenderM Fragment := do
  let outer := (← get).bindings
  modify fun scope => { scope with bindings := .empty }
  let text ← part
  let inner := (← get).bindings
  modify fun scope => { scope with bindings := outer }
  return ⟨text, inner⟩

end Scope

namespace RenderM

/-- Fails with a cause that belongs to a component. -/
def fail {α : Type} (component : String) (cause : Failure) : RenderM α :=
  throw (.failure none component cause)

/-- Writes a clause, and at the top level records its position in an error. -/
def located {α : Type} (isTop : Bool) (position : Nat) (clause : RenderM α) : RenderM α :=
  if isTop then EStateM.adaptExcept (QueryError.atClause position) clause else clause

end RenderM

namespace Name

/-- The placeholder of a parameter that the caller binds. Its name must not have the form of an
    anonymous one, which would be bound to a value of the query. -/
def callerPlaceholder (config : Config) (component name : String) : Except QueryError String :=
  if !isIdentifier name then failWith component (.invalidParameter name)
  else if isAnonymous config.parameterStem name then
    failWith component (.reservedParameter name config.parameterStem)
  else .ok (placeholder name)

end Name

end GraphQuery
