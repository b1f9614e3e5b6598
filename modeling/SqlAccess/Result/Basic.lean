import SqlAccess.Field
import SqlAccess.Text.Fold

/-!
# Results

What a query gives back: columns, and rows that hold one value per column.  A
row may be shorter or longer than its columns; what it lacks is an error only
where it is read.  Columns are counted from 1.

* `Column.effectiveLabel` — the name a column goes by;
* `Row.get`, `Row.getAs`, `Row.getField` — the value of a column, raw, in a
  kind, and as a field;
* `Row.getByLabel` — the value of the first column with a label;
* `ResultSet.describe` — a result with all its values, for reports.
-/

namespace SqlAccess

/-- A column of a result. -/
structure Column where
  /-- The name in the table. -/
  name : String
  /-- The alias given in the query, if any. -/
  label : Option String := none
  deriving DecidableEq

namespace Column

/-- The alias if there is one and it is not empty, else the name. -/
def effectiveLabel (c : Column) : String :=
  match c.label with
  | some label => if label = "" then c.name else label
  | none => c.name

/-- A column with its name and label. -/
def describe (c : Column) : String :=
  Text.fields "ColumnMeta"
    [("name", Text.quoted c.name), ("label", Text.optionally (c.label.map Text.quoted))]

end Column

/-- The result of a query. -/
structure ResultSet where
  columns : List Column
  rows : List (List Value)
  deriving DecidableEq

namespace ResultSet

/-- The result without columns and rows. -/
def empty : ResultSet := ⟨[], []⟩

/-- The number of rows. -/
def size (r : ResultSet) : Nat := r.rows.length

/-- The result with columns of the given names instead of its own. -/
def withColumns (r : ResultSet) (names : List String) : ResultSet :=
  { r with columns := names.map fun name => ⟨name, none⟩ }

/-- The result with one more column, whose label differs from its name. -/
def withLabeled (r : ResultSet) (name label : String) : ResultSet :=
  { r with columns := r.columns ++ [⟨name, some label⟩] }

/-- The result with one more row. -/
def withRow (r : ResultSet) (values : List Value) : ResultSet :=
  { r with rows := r.rows ++ [values] }

/-- A result with its columns and rows. -/
def describe (r : ResultSet) : String :=
  Text.fields "ResultSet"
    [("columns", Text.bracketed (r.columns.map Column.describe)),
      ("rows", Text.bracketed (r.rows.map fun row => Text.bracketed (row.map Value.describe)))]

/-- The result that gives the key an update generated, if it did. -/
def ofGeneratedKey : Option Value → ResultSet
  | some key => ⟨[⟨"GENERATED_KEY", none⟩], [[key]]⟩
  | none => empty

end ResultSet

/-- One row of a result. -/
structure Row where
  columns : List Column
  values : List Value

namespace Row

/-- Refuses an index that no column has. -/
def checkIndex (row : Row) (index : Nat) : Except Error Unit :=
  if index = 0 ∨ row.columns.length < index then
    .error (.driver (.columnOutOfRange index row.columns.length))
  else .ok ()

/-- The column at an index. -/
def column (row : Row) (index : Nat) : Except Error Column := do
  row.checkIndex index
  match row.columns[index - 1]? with
  | some c => .ok c
  | none => .error (.driver (.columnOutOfRange index row.columns.length))

/-- The raw value of a column. -/
def get (row : Row) (index : Nat) : Except Error Value := do
  row.checkIndex index
  match row.values[index - 1]? with
  | some v => .ok v
  | none => .error (.driver (.noValueInRow index))

/-- The value of a column in a kind. -/
def getAs (row : Row) (index : Nat) (kind : Kind) : Except Error Value := do
  (← row.get index).coerce kind

/-- The value of a column as a field. -/
def getField (row : Row) (index : Nat) (t : FieldType) : Except Error t.Carrier := do
  t.ofValue (← row.getAs index t.kind)

/-- The raw value of the first column with a label, ignoring case. -/
def getByLabel (row : Row) (label : String) : Except Error Value :=
  match row.columns.findIdx? (fun c => Text.sameIgnoringCase c.effectiveLabel label) with
  | some i => row.get (i + 1)
  | none => .error (.driver (.columnNotFound label))

end Row

end SqlAccess
