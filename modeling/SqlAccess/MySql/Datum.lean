import SqlAccess.Parameter
import SqlAccess.Result.Basic
import SqlAccess.Text.Digits

/-!
# Values on the wire

MySQL's protocol has fewer kinds of values than a program has: integers and
floating-point numbers of a few widths, calendar dates with times, spans of
time, and bytes for everything else.  Values are encoded for a statement's
parameters; what comes back in a result is decoded with the type of its
column, where the protocol leaves open what is meant.

* `Datum` — the values;
* `Datum.ofValue` and `Datum.ofParameter` — encoding;
* `Datum.toValue` — decoding;
* `resultSet` and `generatedKeys` — whole results.
-/

namespace SqlAccess.MySql

/-- A value as the protocol carries it. -/
inductive Datum where
  | null
  | bytes (b : ByteArray)
  | int (n : Int64)
  | uint (n : UInt64)
  | float (x : Single)
  | double (x : Double)
  /-- A date with a time of day. -/
  | date (year : UInt16) (month day hour minute second : UInt8) (micro : UInt32)
  /-- A span of time. -/
  | time (negative : Bool) (days : UInt32) (hours minutes seconds : UInt8) (micros : UInt32)
  deriving DecidableEq

namespace Datum

/-- A text, in UTF-8. -/
def ofText (s : String) : Datum := bytes s.toUTF8

/-- A truth value, which the protocol has as a number. -/
def ofBool (b : Bool) : Datum := int (if b then 1 else 0)

/-- Whole microseconds of a second. -/
def micros (t : Time) : UInt32 := .ofNat (t.nanosecond / 1000)

/-- A date-time.  The year has 16 bits. -/
def ofDateTime (t : DateTime) : Datum :=
  date (.ofInt t.date.year) (.ofNat t.date.month) (.ofNat t.date.day) (.ofNat t.time.hour)
    (.ofNat t.time.minute) (.ofNat t.time.second) (micros t.time)

/-- A date, as its midnight. -/
def ofDate (d : Date) : Datum := ofDateTime (.ofDate d)

/-- A time of day, as the span since midnight. -/
def ofTime (t : Time) : Datum :=
  time false 0 (.ofNat t.hour) (.ofNat t.minute) (.ofNat t.second) (micros t)

/-- A decimal, in its text. -/
def ofDecimal (d : Decimal) : Datum := ofText (String.ofList d.text)

/-- Encodes a value.  A timestamp with an offset goes as UTC. -/
def ofValue : Value → Datum
  | .null => null
  | .bool b => ofBool b
  | .int8 n => int n.toInt64
  | .int16 n => int n.toInt64
  | .int32 n => int n.toInt64
  | .int64 n => int n
  | .float32 x => float x
  | .float64 x => double x
  | .decimal d => ofDecimal d
  | .string s => ofText s
  | .bytes b => bytes b
  | .date d => ofDate d
  | .time t => ofTime t
  | .dateTime t => ofDateTime t
  | .dateTimeTz t => ofDateTime t.utc
  | .uuid u => ofText (String.ofList u.text)

/-- The UTC reading of a clock with an offset. -/
def utcReading (t : DateTime) (offset : Offset) : DateTime :=
  (t.advance? (-offset.seconds)).getD t

/-- Encodes a bound parameter. -/
def ofParameter : Parameter → Datum
  | .null _ => null
  | .string s | .nString s | .clob s | .nClob s => ofText s
  | .decimal d => ofDecimal d
  | .bool b => ofBool b
  | .date d _ => ofDate d
  | .time t _ => ofTime t
  | .timestamp t none => ofDateTime t
  | .timestamp t (some offset) => ofDateTime (utcReading t offset)
  | .object v _ => ofValue v

end Datum

/-- The type of a column, by the protocol's number. -/
structure ColumnType where
  code : Nat
  deriving DecidableEq

namespace ColumnType

/-- Whether a column holds decimals: `DECIMAL` and `NEWDECIMAL`. -/
def isDecimal (t : ColumnType) : Bool := t.code == 0 || t.code == 246

/-- Whether a column holds dates without a time: `DATE` and `NEWDATE`. -/
def isDate (t : ColumnType) : Bool := t.code == 10 || t.code == 14

end ColumnType

namespace Datum

/-- The text of a span of time: hours, minutes and seconds in two or more
digits, and microseconds in six or more, if there are any. -/
def spanText (negative : Bool) (hours minutes seconds micros : Nat) : List Char :=
  (if negative then ['-'] else []) ++ Text.padded 2 hours ++ ':' :: Text.padded 2 minutes ++
    ':' :: Text.padded 2 seconds ++ (if micros = 0 then [] else '.' :: Text.padded 6 micros)

/-- Decodes bytes: decimals of a decimal column that can be read, then texts
in UTF-8, and else the bytes themselves. -/
def bytesToValue (type : Option ColumnType) (b : ByteArray) : Value :=
  if type.any ColumnType.isDecimal then
    match (String.fromUTF8? b).bind fun s => Decimal.ofText? s.toList with
    | some d => .decimal d
    | none => .bytes b
  else
    match String.fromUTF8? b with
    | some s => .string s
    | none => .bytes b

/-- Decodes a date with a time.  One that no calendar has is NULL. -/
def dateToValue (type : Option ColumnType) (year month day hour minute second micro : Nat) : Value :=
  match Date.make? year month day with
  | none => .null
  | some d =>
    if type.any ColumnType.isDate then .date d
    else
      match Time.make? hour minute second (1000 * micro) with
      | some t => .dateTime ⟨d, t⟩
      | none => .null

/-- Decodes a span of time: a time of day if it is one, else the span's
text. -/
def spanToValue (negative : Bool) (hours minutes seconds micros : Nat) : Value :=
  match if negative then none else Time.make? hours minutes seconds (1000 * micros) with
  | some t => .time t
  | none => .string (String.ofList (spanText negative hours minutes seconds micros))

/-- Decodes a value of a column, whose type may be unknown. -/
def toValue (type : Option ColumnType) : Datum → Value
  | null => .null
  | bytes b => bytesToValue type b
  | int n => .int64 n
  | uint n =>
    if n.toNat < 2 ^ 63 then .int64 (.ofNat n.toNat)
    else .decimal (.ofNat n.toNat (by have := n.toNat_lt; omega))
  | float x => .float32 x
  | double x => .float64 x
  | date year month day hour minute second micro =>
    dateToValue type year.toNat month.toNat day.toNat hour.toNat minute.toNat second.toNat
      micro.toNat
  | time negative days hours minutes seconds micros =>
    spanToValue negative (days * 24 + hours.toUInt32).toNat minutes.toNat seconds.toNat
      micros.toNat

end Datum

/-- A column as the server describes it. -/
structure ColumnInfo where
  type : ColumnType
  /-- The name in the table; empty if the column is not one of a table. -/
  tableName : String
  /-- The name in the result. -/
  name : String
  deriving DecidableEq

/-- A column of a result.  One without a name in a table goes by its name in
the result alone. -/
def ColumnInfo.toColumn (c : ColumnInfo) : Column :=
  if c.tableName = "" then ⟨c.name, none⟩ else ⟨c.tableName, some c.name⟩

/-- A result with its values decoded by the types of their columns. -/
def resultSet (columns : List ColumnInfo) (rows : List (List Datum)) : ResultSet where
  columns := columns.map ColumnInfo.toColumn
  rows := rows.map fun row => row.mapIdx fun i d => d.toValue (columns[i]?.map (·.type))

/-- The result that gives the key an update generated, if it did. -/
def generatedKeys (id : Option UInt64) : ResultSet :=
  .ofGeneratedKey (id.map fun n => (Datum.uint n).toValue none)

end SqlAccess.MySql
