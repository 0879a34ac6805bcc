import GraphQuery.Error
import GraphQuery.Fields.Lemmas

namespace GraphQuery

/-- The parameters of a part of a statement, each with its value. -/
structure Bindings where
  table : Fields Value
  sorted : table.Sorted

namespace Bindings

/-- No parameters. -/
def empty : Bindings :=
  ⟨[], Fields.sorted_nil⟩

instance : Inhabited Bindings := ⟨empty⟩

/-- The parameters of a list of entries, in which a later entry replaces an earlier one. -/
def ofList (entries : List (String × Value)) : Bindings :=
  ⟨Fields.ofList entries, Fields.sorted_ofList entries⟩

/-- The value of a parameter. -/
def get? (bindings : Bindings) (name : String) : Option Value :=
  bindings.table.get? name

/-- Whether there is a parameter of a name. -/
def contains (bindings : Bindings) (name : String) : Bool :=
  (bindings.get? name).isSome

/-- The number of parameters. -/
def size (bindings : Bindings) : Nat :=
  bindings.table.length

/-- Binds a name to a value. A name that has an equal value already keeps the one it has, and a name
    that has a different value is a conflict. -/
def bind (bindings : Bindings) (name : String) (value : Value) : Except QueryError Bindings :=
  match bindings.get? name with
  | none => .ok ⟨bindings.table.insert name value, Fields.sorted_insert bindings.sorted⟩
  | some existing =>
    if existing.equals value then .ok bindings else .error (.conflict none name existing value)

/-- Binds entries one after the other, up to the first conflict. What was bound by then is kept
    beside the conflict. -/
def bindAll (bindings : Bindings) : List (String × Value) → Bindings × Option QueryError
  | [] => (bindings, none)
  | (name, value) :: rest =>
    match bindings.bind name value with
    | .ok bound => bound.bindAll rest
    | .error conflict => (bindings, some conflict)

/-- Adds the parameters of another part in the order of their names, up to the first conflict. -/
def merge (bindings other : Bindings) : Bindings × Option QueryError :=
  bindings.bindAll other.table

end Bindings

/-- A part of a statement: its text and the parameters that the text refers to. -/
structure Fragment where
  text : String
  bindings : Bindings

namespace Fragment

/-- The fragment that holds nothing. -/
def empty : Fragment :=
  ⟨"", .empty⟩

/-- Two texts with a space between them, unless one of them is empty. -/
def joinTexts (first second : String) : String :=
  if second.isEmpty then first else if first.isEmpty then second else first ++ " " ++ second

/-- Appends another fragment. The text is appended even if the parameters are in conflict. -/
def append (fragment other : Fragment) : Fragment × Option QueryError :=
  let (bindings, conflict) := fragment.bindings.merge other.bindings
  (⟨joinTexts fragment.text other.text, bindings⟩, conflict)

end Fragment

end GraphQuery
