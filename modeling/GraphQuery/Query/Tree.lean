import GraphQuery.Bindings
import GraphQuery.Query.Reference

namespace GraphQuery

/-- A comparison of a column with an operand. -/
inductive Comparison where
  | eq
  | ne
  | lt
  | le
  | gt
  | ge
  deriving DecidableEq

/-- The right-hand side of a comparison: a value that is bound, another column, or a parameter that
    the caller binds. -/
inductive Operand where
  | value (value : Value)
  | reference (reference : Reference)
  | parameter (name : String)

/-- A test of a column against a string. -/
inductive StringMatch where
  | contains
  | startsWith
  | endsWith
  | regex
  deriving DecidableEq

/-- A function over all rows of a group. -/
inductive Aggregate where
  | count
  | sum
  | avg
  | min
  | max
  | collect
  deriving DecidableEq

/-- What a query within a query gives: one value, a list, whether there are rows, how many there
    are, or the rows themselves. -/
inductive SubqueryKind where
  | scalar
  | list
  | exists
  | count
  | call
  deriving DecidableEq

/-- The direction of an edge, seen from its source. -/
inductive Direction where
  | outgoing
  | incoming
  | undirected
  deriving DecidableEq

/-- The alias and the label of a node or an edge. An empty alias leaves it anonymous. The names of
    inline properties are those of the schema if there is one, and columns otherwise. -/
structure Head where
  aliasName : String := ""
  label : Option String := none
  schema : Option Schema := none

/-- The bounds on the number of edges of a path. -/
structure Hops where
  least : Option Nat := none
  greatest : Option Nat := none
  deriving DecidableEq

/-- What one assignment makes of its target. -/
inductive Update where
  | value (value : Value)
  | copy (source : Reference)
  | increment (delta : Value)
  | decrement (delta : Value)
  | append (suffix : Value)

/-- An update of one column. -/
structure Assignment where
  target : Reference
  update : Update

/-- The list that is turned into rows: a value that is bound, or a parameter that the caller
    binds. -/
inductive UnwindSource where
  | value (value : Value)
  | parameter (name : String)

/-- A search for the records whose vector is nearest to a given one. -/
structure VectorSearch where
  schema : Schema
  aliasName : String
  property : String
  vector : List Single
  count : Nat
  index : Option String := none
  isPipelined : Bool := false

mutual

/-- An expression: of a projection, of an inline property or of an argument. -/
inductive Expr where
  | named (name : String)
  | property (reference : Reference)
  | value (value : Value)
  | parameter (name : String)
  | function (name : String) (arguments : List Expr)
  | aggregate (aggregate : Aggregate) (argument : Option Expr) (isDistinct : Bool)
  | subquery (kind : SubqueryKind) (clauses : List Clause) (yields : List String)
  | raw (text : String)

/-- A condition. A custom condition is the caller's text with the parameters it refers to. -/
inductive Predicate where
  | compare (reference : Reference) (comparison : Comparison) (operand : Operand)
  | and (first second : Predicate)
  | or (first second : Predicate)
  | not (inner : Predicate)
  | isNull (reference : Reference)
  | isNotNull (reference : Reference)
  | isIn (reference : Reference) (values : Value)
  | stringMatch (reference : Reference) (kind : StringMatch) (value : Value)
  | existsPattern (pattern : Pattern)
  | existsQuery (clauses : List Clause)
  | literal (value : Bool)
  | custom (text : String) (bindings : Bindings)

/-- A node with inline properties and an attached condition. -/
inductive NodePattern where
  | mk (head : Head) (properties : List (String × Expr)) (filter : Option Predicate)

/-- A node, an edge between two nodes, or a path of edges between two nodes. -/
inductive Pattern where
  | node (node : NodePattern)
  | edge (source : NodePattern) (head : Head) (direction : Direction)
      (properties : List (String × Expr)) (filter : Option Predicate) (target : NodePattern)
  | path (aliasName : String) (source : NodePattern) (label : Option String) (direction : Direction)
      (hops : Hops) (target : NodePattern)

/-- An expression that is given out, under a name of its own if it has one. -/
inductive ReturnItem where
  | mk (expr : Expr) (name : Option String)

/-- A key to sort rows by. -/
inductive OrderKey where
  | mk (expr : Expr) (isDescending : Bool)

/-- What a row is turned into, and which rows are given out in which order. -/
inductive Projection where
  | mk (items : List ReturnItem) (isDistinct : Bool) (order : List OrderKey)
      (skip limit : Option Nat)

/-- A clause of a query. -/
inductive Clause where
  | matching (isOptional : Bool) (patterns : List Pattern) (filter : Option Predicate)
  | create (patterns : List Pattern)
  | merge (pattern : Pattern) (matchOn onCreate onMatch : List (String × Value))
  | set (assignments : List Assignment)
  | delete (isDetach : Bool) (aliases : List String)
  | filter (predicate : Predicate)
  | returning (projection : Projection)
  | passing (projection : Projection) (filter : Option Predicate)
  | unwind (source : UnwindSource) (aliasName : String)
  | call (procedure : String) (arguments : List Expr) (options : List (String × Expr))
      (yields : List String) (filter : Option Predicate)
  | subquery (kind : SubqueryKind) (clauses : List Clause) (yields : List String)
  | vectorSearch (search : VectorSearch) (filter : Option Predicate) (order : List OrderKey)

end

/-- A query is a list of clauses. -/
abbrev Query := List Clause

end GraphQuery
