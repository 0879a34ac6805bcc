import GraphQuery.Query.Symbol

namespace GraphQuery

namespace Predicate

/-- The conjunction of conditions, grouped from the left. -/
def all? : List Predicate → Option Predicate
  | [] => none
  | first :: rest => some (rest.foldl Predicate.and first)

/-- The disjunction of conditions, grouped from the left. -/
def any? : List Predicate → Option Predicate
  | [] => none
  | first :: rest => some (rest.foldl Predicate.or first)

end Predicate

namespace Head

/-- The head of a node or an edge of a schema. -/
def ofSchema (aliasName : String) (schema : Schema) : Head :=
  ⟨aliasName, some schema.name, some schema⟩

/-- The column that holds an inline property. -/
def columnFor (head : Head) (name : String) : String :=
  match head.schema with
  | some schema => schema.columnFor name
  | none => name

/-- A label behind its colon, and nothing without a label. -/
def labelText : Option String → Except QueryError String
  | none => .ok ""
  | some label => return ":" ++ (← Name.write "pattern" label)

/-- The alias and the label as they are written. -/
def render (head : Head) : Except QueryError String := do
  if !head.aliasName.isEmpty then Name.checkAlias "pattern" head.aliasName
  return head.aliasName ++ (← labelText head.label)

end Head

namespace Hops

/-- The range of the lengths of a path. -/
def render (hops : Hops) : Except QueryError String :=
  match hops.least, hops.greatest with
  | none, none => .ok "*"
  | some least, none => .ok s!"*{least}.."
  | none, some greatest => .ok s!"*..{greatest}"
  | some least, some greatest =>
    if greatest < least then failWith "path pattern" (.hopsOutOfOrder least greatest)
    else .ok s!"*{least}..{greatest}"

end Hops

namespace NodePattern

/-- A node without inline properties and conditions. -/
def ofHead (head : Head) : NodePattern :=
  ⟨head, [], none⟩

/-- The alias and the label of a node. -/
def head : NodePattern → Head
  | .mk head _ _ => head

/-- The condition attached to a node, if there is one. -/
def filters : NodePattern → List Predicate
  | .mk _ _ filter => filter.toList

end NodePattern

namespace Pattern

/-- The alias of the node, the edge or the path. -/
def aliasName : Pattern → String
  | .node n => n.head.aliasName
  | .edge _ head _ _ _ _ => head.aliasName
  | .path aliasName _ _ _ _ _ => aliasName

/-- The schema of the node or the edge. -/
def schema? : Pattern → Option Schema
  | .node n => n.head.schema
  | .edge _ head _ _ _ _ => head.schema
  | .path .. => none

/-- The label of the node or the edge. -/
def label? : Pattern → Option String
  | .node n => n.head.label
  | .edge _ head _ _ _ _ => head.label
  | .path .. => none

/-- The inline properties of the node or the edge. -/
def properties : Pattern → List (String × Expr)
  | .node (.mk _ properties _) => properties
  | .edge _ _ _ properties _ _ => properties
  | .path .. => []

/-- The conditions attached anywhere in the pattern: to the source, to the edge itself, and to the
    target. -/
def filters : Pattern → List Predicate
  | .node n => n.filters
  | .edge source _ _ _ filter target => source.filters ++ filter.toList ++ target.filters
  | .path _ source _ _ _ target => source.filters ++ target.filters

/-- The column that holds a property of the node or the edge. -/
def columnFor (pattern : Pattern) (name : String) : String :=
  match pattern.schema? with
  | some schema => schema.columnFor name
  | none => name

/-- Checks that a pattern can be created: it is not a path, has no conditions, and if it is an edge
    both of its ends have an alias. -/
def checkCreate (pattern : Pattern) : Except QueryError Unit :=
  match pattern with
  | .path .. => failWith "create" (.pathNotAllowed "created")
  | .node _ =>
    if pattern.filters.isEmpty then .ok () else failWith "create" (.predicateNotAllowed "created")
  | .edge source _ _ properties _ target =>
    if !pattern.filters.isEmpty then failWith "create" (.predicateNotAllowed "created")
    else if !source.head.aliasName.isEmpty && !target.head.aliasName.isEmpty then .ok ()
    else failWith "create" (if properties.isEmpty then .bareEdge else .openEdge)

/-- Checks that a pattern can be merged: it has no conditions and is not a path. -/
def checkMerge (pattern : Pattern) : Except QueryError Unit :=
  if !pattern.filters.isEmpty then failWith "merge" (.predicateNotAllowed "merged")
  else match pattern with
    | .path .. => failWith "merge" (.pathNotAllowed "merged")
    | _ => .ok ()

end Pattern

end GraphQuery
