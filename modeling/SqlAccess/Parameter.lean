import SqlAccess.SqlType
import SqlAccess.Value.Text

/-!
# Bound parameters

What a prepared statement is given for one placeholder.  A value with a
declared type is bound by the setter of that type; where the type has none, or
the value does not suit it, the value is bound as an object and the driver
picks the conversion.

* `Parameter` — what a driver is given;
* `Parameter.ofTyped` — a value bound under a declared type;
* `Parameter.ofUntyped` — a value bound without one.
-/

namespace SqlAccess

/-- A parameter as a driver is given it. -/
inductive Parameter where
  /-- NULL of a declared type. -/
  | null (type : SqlType)
  | string (s : String)
  /-- A national string. -/
  | nString (s : String)
  /-- A text that is sent as a large object. -/
  | clob (s : String)
  | nClob (s : String)
  | decimal (d : Decimal)
  | bool (b : Bool)
  /-- A date, and the offset of the clock it was read from. -/
  | date (d : Date) (offset : Option Offset)
  | time (t : Time) (offset : Option Offset)
  | timestamp (t : DateTime) (offset : Option Offset)
  /-- A value whose conversion is the driver's. -/
  | object (v : Value) (type : Option SqlType)
  deriving DecidableEq

namespace Parameter

/-- Texts with more characters than this are sent as large objects. -/
def largeTextLength : Nat := 4000

/-- The text a value is bound as; bytes have one only if they are UTF-8. -/
def textOf? : Value → Option String
  | .bytes b => String.fromUTF8? b
  | v => some v.text

/-- A value under one of the plain string types. -/
def ofText (setter : String → Parameter) (type : SqlType) (v : Value) : Parameter :=
  match textOf? v with
  | some s => setter s
  | none => object v (some type)

/-- A text under one of the large-object types; short ones are sent inline. -/
def ofLargeText (type : SqlType) (s : String) : Parameter :=
  match decide (largeTextLength < s.length), type.isNational with
  | true, true => nClob s
  | true, false => clob s
  | false, true => nString s
  | false, false => string s

/-- A value under one of the large-object types. -/
def ofClob (type : SqlType) : Value → Parameter
  | .string s => ofLargeText type s
  | .bytes b =>
    match String.fromUTF8? b with
    | some s => ofLargeText type s
    | none => object (.bytes b) (some type)
  | v => object v (some type)

/-- A value as a date; a time of day falls on the epoch's day. -/
def ofDate : Value → Parameter
  | .dateTimeTz t => date t.wallClock.date (some t.offset)
  | .date d => date d none
  | .dateTime t => date t.date none
  | .time _ => date .epoch none
  | v => object v (some .date)

/-- A value as a time of day; a date is its midnight. -/
def ofTime : Value → Parameter
  | .dateTimeTz t => time t.wallClock.time (some t.offset)
  | .time t => time t none
  | .dateTime t => time t.time none
  | .date _ => time .midnight none
  | v => object v (some .time)

/-- A value as a timestamp.  One with an offset goes as its clock shows it,
together with the offset. -/
def ofTimestamp : Value → Parameter
  | .dateTimeTz t => timestamp t.wallClock (some t.offset)
  | .dateTime t => timestamp t none
  | .date d => timestamp (.ofDate d) none
  | .time t => timestamp ⟨.epoch, t⟩ none
  | v => object v (some .timestamp)

/-- A value bound under a declared type.  NULL keeps the type. -/
def ofTyped (type : SqlType) (v : Value) : Parameter :=
  if v.isNull then null type
  else match type, v with
    | .varChar, v | .longVarChar, v => ofText string type v
    | .nVarChar, v | .longNVarChar, v => ofText nString type v
    | .clob, v | .nClob, v => ofClob type v
    | .decimal, .decimal d | .numeric, .decimal d => decimal d
    | .boolean, .bool b => bool b
    | .date, v => ofDate v
    | .time, v => ofTime v
    | .timestamp, v => ofTimestamp v
    | type, v => object v (some type)

/-- A value bound without a declared type. -/
def ofUntyped (v : Value) : Parameter := object v none

/-- Whether two parameters compare as equal, their values being compared as
`Value.sameAs` does. -/
def sameAs : Parameter → Parameter → Bool
  | decimal x, decimal y => x.numericEq y
  | object x s, object y t => x.sameAs y && s == t
  | x, y => x == y

end Parameter

end SqlAccess
