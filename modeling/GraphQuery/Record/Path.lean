import GraphQuery.Fields

namespace GraphQuery

/-- The way to a part of a record, as it is written in messages: a property, and the fields and
    positions that lead from it to the part. -/
abbrev Path := String

namespace Path

/-- The way to a field of what a path leads to. -/
def field (path : Path) (name : String) : Path :=
  path ++ "." ++ name

/-- The way to an item of what a path leads to. -/
def item (path : Path) (position : Nat) : Path :=
  path ++ "[" ++ toString position ++ "]"

variable {α β ε : Type}

/-- Converts the items from a position on, up to the first error. -/
def convertFrom (path : Path) (convert : Path → α → Except ε β) (position : Nat) :
    List α → Except ε (List β)
  | [] => .ok []
  | item :: items => do
    let converted ← convert (path.item position) item
    return converted :: (← path.convertFrom convert (position + 1) items)

/-- Converts the items of the list that a path leads to, up to the first error. -/
def convertItems (path : Path) (convert : Path → α → Except ε β) (items : List α) :
    Except ε (List β) :=
  path.convertFrom convert 0 items

end Path

end GraphQuery
