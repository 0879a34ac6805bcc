namespace GraphQuery

/-- Named entries. Where they make up a table, names are distinct and stand in code point order. -/
abbrev Fields (α : Type u) := List (String × α)

namespace Fields

variable {α : Type u}

/-- The names of the entries, in order. -/
def names (fields : Fields α) : List String :=
  fields.map Prod.fst

/-- The first entry of a name. -/
def get? (fields : Fields α) (name : String) : Option α :=
  fields.lookup name

/-- Puts an entry into a table, in place of an entry of the same name if there is one. -/
def insert (name : String) (value : α) : Fields α → Fields α
  | [] => [(name, value)]
  | (name', value') :: rest =>
    if name < name' then (name, value) :: (name', value') :: rest
    else if name = name' then (name, value) :: rest
    else (name', value') :: insert name value rest

/-- The table of a list of entries, in which a later entry replaces an earlier one. -/
def ofList (entries : List (String × α)) : Fields α :=
  entries.foldl (fun fields (name, value) => fields.insert name value) []

/-- The table without a name. -/
def erase (fields : Fields α) (name : String) : Fields α :=
  fields.filter fun field => field.1 ≠ name

end Fields

end GraphQuery
