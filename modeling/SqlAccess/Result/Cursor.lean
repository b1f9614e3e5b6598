import SqlAccess.Result.Basic

/-!
# Cursors

A cursor walks a result once, from the first row to the last.

* `Cursor.next?` — the next row, and the cursor after it;
* `Cursor.position` — how many rows were taken.
-/

namespace SqlAccess

/-- A place in a result. -/
structure Cursor where
  result : ResultSet
  position : Nat

/-- A cursor before the first row. -/
def ResultSet.cursor (r : ResultSet) : Cursor := ⟨r, 0⟩

namespace Cursor

/-- The columns of the result. -/
def columns (c : Cursor) : List Column := c.result.columns

/-- Whether no row is left. -/
def isExhausted (c : Cursor) : Bool := decide (c.result.rows.length ≤ c.position)

/-- The rows that are left. -/
def remaining (c : Cursor) : List Row :=
  (c.result.rows.drop c.position).map fun values => ⟨c.columns, values⟩

/-- The next row and the cursor after it, unless no row is left. -/
def next? (c : Cursor) : Option (Row × Cursor) :=
  match c.result.rows[c.position]? with
  | some values => some (⟨c.columns, values⟩, ⟨c.result, c.position + 1⟩)
  | none => none

end Cursor

end SqlAccess
