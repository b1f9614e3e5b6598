import SqlAccess.Calendar.Text
import SqlAccess.Number.BinaryText
import SqlAccess.Number.Decimal.Text
import SqlAccess.Text.Quoted
import SqlAccess.Value.Basic

/-!
# Values as text

* `Value.text` — a value as it is shown to a reader, and as it is read back
  where a column is fetched as text;
* `Value.describe` — a value with its type, as it appears in reports on what
  went wrong.
-/

namespace SqlAccess.Value

/-- A value as it is shown.  Bytes show their number only. -/
def text : Value → String
  | null => "NULL"
  | bool b => if b then "true" else "false"
  | int8 n => String.ofList (Text.integerText n.toInt)
  | int16 n => String.ofList (Text.integerText n.toInt)
  | int32 n => String.ofList (Text.integerText n.toInt)
  | int64 n => String.ofList (Text.integerText n.toInt)
  | float32 x => String.ofList x.text
  | float64 x => String.ofList x.text
  | decimal d => String.ofList d.text
  | string s => s
  | bytes b => s!"<{b.size} bytes>"
  | date d => String.ofList d.text
  | time t => String.ofList t.text
  | dateTime t => String.ofList t.text
  | dateTimeTz t => String.ofList t.text
  | uuid u => String.ofList u.text

/-- What stands between the parentheses of a described value. -/
def describeContent : Value → String
  | float32 x => String.ofList x.describe
  | float64 x => String.ofList x.describe
  | string s => Text.quoted s
  | bytes b => Text.bracketed (b.data.toList.map fun n => toString n.toNat)
  | dateTime t => String.ofList (t.textWith 'T')
  | dateTimeTz t => String.ofList (t.wallClock.textWith 'T' ++ t.offset.describe)
  | v => v.text

/-- A value with its type. -/
def describe : Value → String
  | null => "Null"
  | v => s!"{v.typeName}({v.describeContent})"

end SqlAccess.Value
