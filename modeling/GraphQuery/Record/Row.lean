import GraphQuery.Value

namespace GraphQuery

/-- A row of a result: the names of the columns and the cells. A row may have fewer or more cells
    than there are columns. -/
structure Row where
  columns : List String
  cells : List Value

/-- The rows that the execution of a statement gives, under the names of their columns. -/
structure ResultSet where
  columns : List String
  rows : List (List Value)

namespace Row

/-- The cell of the first column of a name. Where the row is too short there is none. -/
def get? (row : Row) (name : String) : Option Value := do
  let position ← row.columns.idxOf? name
  row.cells[position]?

/-- The columns that have a cell, each with its cell. -/
def entries (row : Row) : List (String × Value) :=
  row.columns.zip row.cells

end Row

namespace ResultSet

/-- A result without columns and rows. -/
def empty : ResultSet :=
  ⟨[], []⟩

/-- The position of the first column of a name. -/
def columnIndex? (result : ResultSet) (name : String) : Option Nat :=
  result.columns.idxOf? name

/-- The rows in order. -/
def allRows (result : ResultSet) : List Row :=
  result.rows.map fun cells => ⟨result.columns, cells⟩

/-- The row at a position. -/
def row? (result : ResultSet) (position : Nat) : Option Row :=
  result.allRows[position]?

/-- The number of rows. -/
def size (result : ResultSet) : Nat :=
  result.rows.length

end ResultSet

end GraphQuery
