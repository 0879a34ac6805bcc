import GraphQuery.Json
import GraphQuery.Value

namespace GraphQuery

namespace Value

mutual

/-- The value of a JSON document. Integers are signed ones of 64 bits where they fit and unsigned
    ones above, and other numbers have double precision. -/
def ofJson : Json → Value
  | .null => .null
  | .bool b => .bool b
  | .integer n =>
    if h : n.val ≤ IntKind.int64.greatest then .int ⟨.int64, n.val, n.inRange.1, h⟩
    else .int ⟨.uint64, n.val, Int.le_trans (by decide) (Int.le_of_lt (Int.not_le.mp h)),
      n.inRange.2⟩
  | .real x => .double x.val
  | .string s => .string s
  | .array items => .list (ofJsonItems items)
  | .object fields => .map (ofJsonFields fields)

/-- The values of the items of an array. -/
def ofJsonItems : List Json → List Value
  | [] => []
  | item :: items => ofJson item :: ofJsonItems items

/-- The values of the fields of an object. -/
def ofJsonFields : List (String × Json) → List (String × Value)
  | [] => []
  | (name, field) :: fields => (name, ofJson field) :: ofJsonFields fields

end

end Value

/-- JSON carries the integers of every width. -/
theorem IntKind.Holds.json_inRange {kind : IntKind} {n : Int} (hholds : kind.Holds n) :
    -0x8000000000000000 ≤ n ∧ n ≤ 0xffffffffffffffff := by
  obtain ⟨hleast, hgreatest⟩ := hholds
  cases kind <;> simp only [least, greatest] at hleast hgreatest <;> omega

namespace SizedInt

/-- The integer in JSON. -/
def toJson (n : SizedInt) : JsonInteger :=
  ⟨n.val, n.inRange.json_inRange⟩

end SizedInt

namespace Value

mutual

/-- The JSON form of a value. Identifiers and times become texts, and of a node or a relationship
    the properties are kept. A floating-point number that is not finite has no such form, and
    nothing that holds one has. -/
def toJson? : Value → Option Json
  | .null => some .null
  | .bool b => some (.bool b)
  | .int n => some (.integer n.toJson)
  | .float x => (JsonReal.ofDouble? x.widen).map .real
  | .double x => (JsonReal.ofDouble? x).map .real
  | .string s => some (.string s)
  | .uuid u => some (.string u.text)
  | .timestamp t => some (.string t.text)
  | .date d => some (.string d.text)
  | .internalId id => some (.string id.text)
  | .list items => (toJsonItems? items).map .array
  | .map entries => (toJsonFields? entries).map .object
  | .node _ _ properties => (toJsonFields? properties).map .object
  | .rel _ _ _ _ properties => (toJsonFields? properties).map .object

/-- The JSON forms of the items of a list, if all have one. -/
def toJsonItems? : List Value → Option (List Json)
  | [] => some []
  | item :: items => do
    let item ← toJson? item
    let items ← toJsonItems? items
    return item :: items

/-- The JSON forms of the entries of a table, if all have one. -/
def toJsonFields? : List (String × Value) → Option (List (String × Json))
  | [] => some []
  | (name, value) :: entries => do
    let value ← toJson? value
    let entries ← toJsonFields? entries
    return (name, value) :: entries

end

end Value

end GraphQuery
