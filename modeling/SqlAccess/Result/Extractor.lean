import SqlAccess.Result.Cursor

/-!
# Mappers and extractors

A mapper turns one row into an object and never moves the cursor.  An
extractor consumes a cursor and gives one result, or none.

* `singleColumn` — maps the first column to a field;
* `collect` — the extractor that maps the rows in order, up to a limit;
* `singleResult` and `optionalSingleResult` — what a list is expected to hold.
-/

namespace SqlAccess

/-- Turns a row and its number, counted from 0, into an object. -/
abbrev RowMapper (α : Type) : Type := Row → Nat → Except Error α

/-- Turns what a cursor has left into one result, or none.  The cursor comes
back where the extractor left it. -/
abbrev Extractor (α : Type) : Type := Cursor → Except Error (Option α) × Cursor

/-- Maps the first column of a row to a field. -/
def singleColumn (t : FieldType) : RowMapper t.Carrier := fun row _ => row.getField 1 t

/-- Maps up to `count` rows, the first of them having the given number, and
stops at the first error. -/
def mapRows {α : Type} (mapper : RowMapper α) :
    (count number : Nat) → Cursor → Except Error (List α) × Cursor
  | 0, _, c => (.ok [], c)
  | count + 1, number, c =>
    match c.next? with
    | none => (.ok [], c)
    | some (row, c) =>
      match mapper row number with
      | .error e => (.error e, c)
      | .ok x =>
        let (rest, c) := mapRows mapper count (number + 1) c
        (rest.map (x :: ·), c)

/-- Collects the mapped rows.  A limit other than 0 is the greatest number of
rows taken. -/
def collect {α : Type} (mapper : RowMapper α) (limit : Nat) : Extractor (List α) := fun c =>
  let count := if limit = 0 then c.remaining.length else limit
  let (items, c) := mapRows mapper count 0 c
  (items.map some, c)

/-- The greatest number of rows that a signed limit asks for. -/
def limitOf (limit : Int) : Nat := limit.natAbs

/-- At most one object is expected. -/
def optionalSingleResult {α : Type} (items : Option (List α)) : Except Error (Option α) :=
  match items.getD [] with
  | [] => .ok none
  | [x] => .ok (some x)
  | xs => .error (.incorrectResultSize 1 xs.length)

/-- Exactly one object is expected. -/
def singleResult {α : Type} (items : Option (List α)) : Except Error α := do
  match ← optionalSingleResult items with
  | some x => .ok x
  | none => .error (.incorrectResultSize 1 0)

end SqlAccess
