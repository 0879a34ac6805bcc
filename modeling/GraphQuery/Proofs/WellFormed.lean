import GraphQuery.Query.Pattern

namespace GraphQuery

/-- An alias is left out or can stand in a statement. -/
def Name.IsAlias (name : String) : Prop :=
  name = "" ∨ isIdentifier name = true

/-- The operand of a test against a string is a string, and a regular expression where the test asks
    for one. -/
def StringMatch.Accepts (kind : StringMatch) (acceptsRegex : String → Bool) (v : Value) : Prop :=
  ∃ s, v = .string s ∧ (kind = .regex → acceptsRegex s = true)

/-- Of two bounds the lower one comes first. -/
def Hops.InOrder (hops : Hops) : Prop :=
  ∀ least greatest, hops.least = some least → hops.greatest = some greatest → least ≤ greatest

/-- A search names a declared vector property of the length of the given vector, which holds numbers
    only, and asks for a number of results that is an integer of the engine. -/
structure VectorSearch.WellFormed (search : VectorSearch) : Prop where
  dimension : ∃ property, search.schema.property? search.property = some property ∧
    property.kind = .vector search.vector.length
  finite : ∀ element ∈ search.vector, element.isFinite = true
  count : 1 ≤ search.count ∧ search.count ≤ 0x7fffffffffffffff

namespace Pattern

/-- A pattern is no path, and no condition is attached to any part of it. -/
def IsPlain (pattern : Pattern) : Prop :=
  (∀ aliasName source label direction hops target,
    pattern ≠ .path aliasName source label direction hops target) ∧ pattern.filters = []

/-- Both ends of an edge have an alias. -/
def HasEnds : Pattern → Prop
  | .edge source _ _ _ _ target => source.head.aliasName ≠ "" ∧ target.head.aliasName ≠ ""
  | _ => True

end Pattern

/-- The expression that is given out. -/
def ReturnItem.expr : ReturnItem → Expr
  | .mk expr _ => expr

/-- The expression that rows are sorted by. -/
def OrderKey.expr : OrderKey → Expr
  | .mk expr _ => expr

/-- All expressions of a projection. -/
def Projection.exprs : Projection → List Expr
  | .mk items _ order _ _ => items.map ReturnItem.expr ++ order.map OrderKey.expr

variable (acceptsRegex : String → Bool)

mutual

/-- An expression holds well-formed parts only, at any depth. A query within it has clauses, and
    gives out columns of its own only if it is a block that is called. -/
inductive Expr.WellFormed : Expr → Prop where
  | named (name : String) : Expr.WellFormed (.named name)
  | property (reference : Reference) : Expr.WellFormed (.property reference)
  | value (v : Value) : Expr.WellFormed (.value v)
  | parameter (name : String) : Expr.WellFormed (.parameter name)
  | function (name : String) {arguments : List Expr}
      (harguments : ∀ expr ∈ arguments, Expr.WellFormed expr) :
      Expr.WellFormed (.function name arguments)
  | aggregate (aggregate : Aggregate) {argument : Option Expr} (isDistinct : Bool)
      (hargument : ∀ expr ∈ argument, Expr.WellFormed expr) :
      Expr.WellFormed (.aggregate aggregate argument isDistinct)
  | subquery {kind : SubqueryKind} {clauses : List Clause} {yields : List String}
      (hne : clauses ≠ []) (hyields : yields ≠ [] → kind = .call)
      (hclauses : ∀ clause ∈ clauses, Clause.WellFormed clause) :
      Expr.WellFormed (.subquery kind clauses yields)
  | raw (text : String) : Expr.WellFormed (.raw text)

/-- A condition compares nothing with the absent value, looks for values in lists only and tests
    against strings only, and so do its parts at any depth. -/
inductive Predicate.WellFormed : Predicate → Prop where
  | compare (reference : Reference) (comparison : Comparison) {operand : Operand}
      (hoperand : operand ≠ .value .null) :
      Predicate.WellFormed (.compare reference comparison operand)
  | and {first second : Predicate} (hfirst : Predicate.WellFormed first)
      (hsecond : Predicate.WellFormed second) : Predicate.WellFormed (.and first second)
  | or {first second : Predicate} (hfirst : Predicate.WellFormed first)
      (hsecond : Predicate.WellFormed second) : Predicate.WellFormed (.or first second)
  | not {inner : Predicate} (hinner : Predicate.WellFormed inner) :
      Predicate.WellFormed (.not inner)
  | isNull (reference : Reference) : Predicate.WellFormed (.isNull reference)
  | isNotNull (reference : Reference) : Predicate.WellFormed (.isNotNull reference)
  | isIn (reference : Reference) (items : List Value) :
      Predicate.WellFormed (.isIn reference (.list items))
  | stringMatch (reference : Reference) {kind : StringMatch} {v : Value}
      (haccepts : kind.Accepts acceptsRegex v) :
      Predicate.WellFormed (.stringMatch reference kind v)
  | existsPattern {pattern : Pattern} (hpattern : Pattern.WellFormed pattern) :
      Predicate.WellFormed (.existsPattern pattern)
  | existsQuery {clauses : List Clause} (hne : clauses ≠ [])
      (hclauses : ∀ clause ∈ clauses, Clause.WellFormed clause) :
      Predicate.WellFormed (.existsQuery clauses)
  | literal (value : Bool) : Predicate.WellFormed (.literal value)
  | custom (text : String) (bindings : Bindings) : Predicate.WellFormed (.custom text bindings)

/-- The alias of a node can be written, and its properties and the condition attached to it are
    well-formed. -/
inductive NodePattern.WellFormed : NodePattern → Prop where
  | mk {head : Head} {properties : List (String × Expr)} {filter : Option Predicate}
      (halias : Name.IsAlias head.aliasName)
      (hproperties : ∀ property ∈ properties, Expr.WellFormed property.2)
      (hfilter : ∀ predicate ∈ filter, Predicate.WellFormed predicate) :
      NodePattern.WellFormed (.mk head properties filter)

/-- All aliases of a pattern can be written, the bounds of a path are in order, and its properties
    and the conditions attached to it are well-formed. -/
inductive Pattern.WellFormed : Pattern → Prop where
  | node {node : NodePattern} (hnode : NodePattern.WellFormed node) :
      Pattern.WellFormed (.node node)
  | edge {source target : NodePattern} {head : Head} (direction : Direction)
      {properties : List (String × Expr)} {filter : Option Predicate}
      (hsource : NodePattern.WellFormed source) (halias : Name.IsAlias head.aliasName)
      (hproperties : ∀ property ∈ properties, Expr.WellFormed property.2)
      (hfilter : ∀ predicate ∈ filter, Predicate.WellFormed predicate)
      (htarget : NodePattern.WellFormed target) :
      Pattern.WellFormed (.edge source head direction properties filter target)
  | path {aliasName : String} {source target : NodePattern} (label : Option String)
      (direction : Direction) {hops : Hops} (halias : Name.IsAlias aliasName)
      (hsource : NodePattern.WellFormed source) (hhops : hops.InOrder)
      (htarget : NodePattern.WellFormed target) :
      Pattern.WellFormed (.path aliasName source label direction hops target)

/-- A clause holds well-formed parts only. What is created or merged is a node or an edge without
    conditions, and an edge is created between two ends that are known by alias. -/
inductive Clause.WellFormed : Clause → Prop where
  | matching (isOptional : Bool) {patterns : List Pattern} {filter : Option Predicate}
      (hpatterns : ∀ pattern ∈ patterns, Pattern.WellFormed pattern)
      (hfilter : ∀ predicate ∈ filter, Predicate.WellFormed predicate) :
      Clause.WellFormed (.matching isOptional patterns filter)
  | create {patterns : List Pattern}
      (hcreated : ∀ pattern ∈ patterns, pattern.IsPlain ∧ pattern.HasEnds)
      (hpatterns : ∀ pattern ∈ patterns, Pattern.WellFormed pattern) :
      Clause.WellFormed (.create patterns)
  | merge {pattern : Pattern} (matchOn onCreate onMatch : List (String × Value))
      (hplain : pattern.IsPlain) (hpattern : Pattern.WellFormed pattern) :
      Clause.WellFormed (.merge pattern matchOn onCreate onMatch)
  | set (assignments : List Assignment) : Clause.WellFormed (.set assignments)
  | delete (isDetach : Bool) (aliases : List String) : Clause.WellFormed (.delete isDetach aliases)
  | filter {predicate : Predicate} (hpredicate : Predicate.WellFormed predicate) :
      Clause.WellFormed (.filter predicate)
  | returning {projection : Projection}
      (hexprs : ∀ expr ∈ projection.exprs, Expr.WellFormed expr) :
      Clause.WellFormed (.returning projection)
  | passing {projection : Projection} {filter : Option Predicate}
      (hexprs : ∀ expr ∈ projection.exprs, Expr.WellFormed expr)
      (hfilter : ∀ predicate ∈ filter, Predicate.WellFormed predicate) :
      Clause.WellFormed (.passing projection filter)
  | unwind (source : UnwindSource) (aliasName : String) :
      Clause.WellFormed (.unwind source aliasName)
  | call (procedure : String) {arguments : List Expr} {options : List (String × Expr)}
      (yields : List String) {filter : Option Predicate}
      (harguments : ∀ expr ∈ arguments, Expr.WellFormed expr)
      (hoptions : ∀ option ∈ options, Expr.WellFormed option.2)
      (hfilter : ∀ predicate ∈ filter, Predicate.WellFormed predicate) :
      Clause.WellFormed (.call procedure arguments options yields filter)
  | subquery {clauses : List Clause} (yields : List String) (hne : clauses ≠ [])
      (hclauses : ∀ clause ∈ clauses, Clause.WellFormed clause) :
      Clause.WellFormed (.subquery .call clauses yields)
  | vectorSearch {search : VectorSearch} {filter : Option Predicate} {order : List OrderKey}
      (hsearch : search.WellFormed)
      (hfilter : ∀ predicate ∈ filter, Predicate.WellFormed predicate)
      (horder : ∀ key ∈ order, Expr.WellFormed key.expr) :
      Clause.WellFormed (.vectorSearch search filter order)

end

/-- Without conditions, no conditions have to be well-formed. -/
theorem Pattern.IsPlain.wellFormed {acceptsRegex : String → Bool} {pattern : Pattern}
    (hplain : pattern.IsPlain)
    (hpattern : (∀ predicate ∈ pattern.filters, predicate.WellFormed acceptsRegex) →
      pattern.WellFormed acceptsRegex) :
    pattern.WellFormed acceptsRegex := by
  refine hpattern fun predicate hmem => ?_
  rw [hplain.2] at hmem
  cases hmem

/-- A query has clauses, and all of them are well-formed. -/
def Query.WellFormed (query : Query) : Prop :=
  query ≠ [] ∧ ∀ clause ∈ query, clause.WellFormed acceptsRegex

end GraphQuery
