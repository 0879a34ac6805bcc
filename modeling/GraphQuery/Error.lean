import GraphQuery.Config
import GraphQuery.Value.Text

namespace GraphQuery

/-- Why a component of a query cannot be compiled. -/
inductive Failure where
  | emptyAlias
  | invalidAlias (name : String)
  | emptyName
  | invalidProcedure (name : String)
  | invalidParameter (name : String)
  | reservedParameter (name stem : String)
  | invalidOption (name : String)
  | emptyColumn (aliasName : String)
  | notFinite (position : Nat) (element : Single)
  | missingArgument (function : String)
  | emptyText (subject : String)
  | neverMatches (reference operator : String)
  | notAList (reference : String) (found : Value)
  | notAString (reference operator : String) (found : Value)
  | invalidRegex (pattern : String)
  | unboundPlaceholder (name : String)
  | hopsOutOfOrder (least greatest : Nat)
  | noPattern
  | pathNotAllowed (participle : String)
  | predicateNotAllowed (participle : String)
  | bareEdge
  | openEdge
  | aliasRequired (keyword : String)
  | noPrimaryKey (schema : String)
  | missingKey (schema column : String)
  | noAssignment
  | notNumeric (reference : String) (found : Value)
  | notAppendable (reference : String) (found : Value)
  | noAlias
  | noItem (keyword : String)
  | notUnwindable (found : Value)
  | filterWithoutYield
  | emptySubquery
  | yieldNotAllowed
  | notACallBlock
  | notAVector (schema property type : String)
  | noResult
  | tooManyResults (count : Nat)
  | invalidConfig (error : ConfigError)
  | emptyQuery
  | unserializable (schema text : String)
  | notARecord (schema : String)
  | missingValue (schema property : String)
  | unexpectedJson (path expected : String) (found : String)
  | outOfRange (path number type : String)
  | invalidText (path type text : String)
  | custom (message : String)

namespace Failure

/-- The wording of a failure. -/
def message : Failure → String
  | emptyAlias => "alias must not be empty"
  | invalidAlias name => s!"'{name}' is not a valid alias"
  | emptyName => "name must not be empty"
  | invalidProcedure name => s!"'{name}' is not a valid procedure name"
  | invalidParameter name => s!"'{name}' is not a valid parameter name"
  | reservedParameter name stem =>
    s!"'{name}' is reserved for generated parameters (prefix '{stem}')"
  | invalidOption name => s!"'{name}' is not a valid option name"
  | emptyColumn aliasName => s!"column on '{aliasName}' must not be empty"
  | notFinite position element =>
    s!"vector element {position} is not finite ({element.plainText})"
  | missingArgument function => s!"{function} requires an argument"
  | emptyText subject => s!"{subject} text must not be empty"
  | neverMatches reference operator =>
    s!"{reference} {operator} NULL never matches; use is_null or is_not_null"
  | notAList reference found => s!"{reference} IN expects a list, got {found.kindName}"
  | notAString reference operator found =>
    s!"{reference} {operator} expects a string, got {found.kindName}"
  | invalidRegex pattern => s!"invalid regex '{pattern}'"
  | unboundPlaceholder name => s!"custom filter references unbound parameter ${name}"
  | hopsOutOfOrder least greatest => s!"minimum hops {least} exceeds maximum hops {greatest}"
  | noPattern => "at least one pattern is required"
  | pathNotAllowed participle => s!"variable-length paths cannot be {participle}"
  | predicateNotAllowed participle => s!"{participle} patterns cannot carry predicates"
  | bareEdge => "edge has no properties and no source or target to create it between"
  | openEdge => "edge requires both a source and a target alias"
  | aliasRequired keyword => s!"{keyword} requires the merged pattern to have an alias"
  | noPrimaryKey schema => s!"{schema} declares no primary key and no merge keys were given"
  | missingKey schema column => s!"{schema} key '{column}' has no value to match on"
  | noAssignment => "at least one assignment is required"
  | notNumeric reference found => s!"{reference} delta must be numeric, got {found.kindName}"
  | notAppendable reference found => s!"{reference} append expects a string, got {found.kindName}"
  | noAlias => "at least one alias is required"
  | noItem keyword => s!"{keyword} requires at least one item"
  | notUnwindable found => s!"expected a list, got {found.kindName}"
  | filterWithoutYield => "a filter requires a YIELD list to filter on"
  | emptySubquery => "inner query has no clauses"
  | yieldNotAllowed => "only call-block sub-queries can yield columns"
  | notACallBlock => "only call-block sub-queries stand alone as clauses"
  | notAVector schema property type => s!"{schema}.{property} is {type}, not a vector"
  | noResult => "result count must be at least 1"
  | tooManyResults count => s!"result count {count} is too large"
  | invalidConfig error => error.message
  | emptyQuery => "query has no clauses"
  | unserializable schema text => s!"cannot serialize {schema}: {text}"
  | notARecord schema => s!"{schema} does not serialize to a map of properties"
  | missingValue schema property =>
    s!"{schema}.{property} is not optional but serialized to null"
  | unexpectedJson path expected found => s!"{path}: expected {expected}, found {found}"
  | outOfRange path number type => s!"{path}: {number} does not fit in {type}"
  | invalidText path type text => s!"{path}: invalid {type} '{text}'"
  | custom message => message

end Failure

/-- What can go wrong when a query is built or compiled. A conflict and a failure know the position
    of the top-level clause they belong to once it is settled. -/
inductive QueryError where
  | conflict (clause : Option Nat) (name : String) (existing incoming : Value)
  | failure (clause : Option Nat) (component : String) (cause : Failure)
  | dimensionMismatch (schema column : String) (expected actual : Nat)
  | undeclaredProperty (schema property : String)

namespace QueryError

/-- Records the position of the clause an error belongs to. A position that is already known is
    kept. -/
def atClause (position : Nat) : QueryError → QueryError
  | conflict none name existing incoming => conflict (some position) name existing incoming
  | failure none component cause => failure (some position) component cause
  | error => error

/-- The position of the clause an error belongs to, if it is known. -/
def clause? : QueryError → Option Nat
  | conflict clause _ _ _ => clause
  | failure clause _ _ => clause
  | _ => none

/-- The note on the position of a clause at the end of a message. -/
private def clauseNote : Option Nat → String
  | none => ""
  | some position => s!" (clause {position})"

/-- The wording of an error. -/
def message : QueryError → String
  | conflict clause name existing incoming =>
    s!"parameter '${name}' is bound to conflicting values {existing.text} and {incoming.text}" ++
      clauseNote clause
  | failure clause component cause =>
    s!"cannot compile {component}: {cause.message}" ++ clauseNote clause
  | dimensionMismatch schema column expected actual =>
    s!"vector for {schema}.{column} has {actual} dimensions, expected {expected}"
  | undeclaredProperty schema property => s!"{schema} does not declare property '{property}'"

end QueryError

/-- Fails with a cause that belongs to a component, at a clause that is not known yet. -/
def failWith {α : Type} (component : String) (cause : Failure) : Except QueryError α :=
  .error (.failure none component cause)

end GraphQuery
