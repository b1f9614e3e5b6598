import SqlAccess.Error
import SqlAccess.Kind
import SqlAccess.Number.Decimal.OfBinary
import SqlAccess.Value.Text

/-!
# Fetching a value in a kind

`Value.coerce` is the typed getter: it turns whatever a driver returned into
the shape that was asked for.  NULL stays NULL in every kind.  Fractions are
cut off where an integer is asked for, and an integer that the width asked for
does not hold is refused.  A timestamp with an offset gives the UTC date-time,
but the date and the time of its own clock.

* `Value.asInteger?` and `Value.asDouble?` — the number a value stands for;
* `Value.coerce?` — a value that is not NULL in a kind, if it has that shape;
* `Value.coerce` — the same for every value, with the error.
-/

namespace SqlAccess

/-- The integers that `width` bits hold. -/
def FitsBits (width : Nat) (n : Int) : Prop := -2 ^ (width - 1) ≤ n ∧ n < 2 ^ (width - 1)

instance (width : Nat) (n : Int) : Decidable (FitsBits width n) :=
  inferInstanceAs (Decidable (_ ∧ _))

/-- The integer, if `width` bits hold it. -/
def fitBits? (width : Nat) (n : Int) : Option Int := if FitsBits width n then some n else none

/-- The integer of 64 bits nearest to a floating-point number's integer part;
`nan` counts as zero. -/
def Binary.saturate {F : Format} : Binary F → Int
  | .nan => 0
  | .number negative rank =>
    match (Binary.number negative rank).truncate? with
    | some n => max (-2 ^ 63) (min n (2 ^ 63 - 1))
    | none => if negative then -2 ^ 63 else 2 ^ 63 - 1

namespace Value

/-- The number of 64 bits a value stands for.  Fractions are cut off; texts
may have blanks around the number. -/
def asInteger? : Value → Option Int
  | int8 n => some n.toInt
  | int16 n => some n.toInt
  | int32 n => some n.toInt
  | int64 n => some n.toInt
  | bool b => some (if b then 1 else 0)
  | decimal d => fitBits? 64 d.truncate
  | float32 x => some x.saturate
  | float64 x => some x.saturate
  | string s => (Text.readInteger? (Text.trim s.toList)).bind (fitBits? 64)
  | _ => none

/-- The floating-point number a value stands for. -/
def asDouble? : Value → Option Double
  | float32 x => some (x.toFormat .double)
  | float64 x => some x
  | decimal d => some d.toDouble
  | string s => Binary.ofText? .double (Text.trim s.toList)
  | v => v.asInteger?.map Binary.ofInt

/-- The truth value a word stands for. -/
def boolOfWord? (word : String) : Option Bool :=
  if word ∈ ["true", "1", "y", "yes"] then some true
  else if word ∈ ["false", "0", "n", "no"] then some false
  else none

/-- Reads a text as a date-time, a date standing for its first moment. -/
def readDateTime? (cs : List Char) : Option DateTime :=
  (DateTime.ofText? cs).or ((Date.ofText? cs).map DateTime.ofDate)

/-- The value as a text. -/
def coerceString? : Value → Option Value
  | bytes b => (String.fromUTF8? b).map string
  | v => some (string v.text)

/-- The value as a text of one character. -/
def coerceChar? : Value → Option Value
  | string s => if s.length = 1 then some (string s) else none
  | _ => none

/-- The value as a truth value: numbers are true except zero. -/
def coerceBool? : Value → Option Value
  | bool b => some (bool b)
  | string s => (boolOfWord? (String.ofList ((Text.trim s.toList).map Char.toLower))).map bool
  | v => v.asInteger?.map fun n => bool (n != 0)

/-- The value as a decimal. -/
def coerceDecimal? : Value → Option Value
  | decimal d => some (decimal d)
  | float32 x => (Decimal.ofSingle? x).map decimal
  | float64 x => (Decimal.ofDouble? x).map decimal
  | string s => (Decimal.ofText? (Text.trim s.toList)).map decimal
  | int8 n => some (decimal (.ofInt64 n.toInt64))
  | int16 n => some (decimal (.ofInt64 n.toInt64))
  | int32 n => some (decimal (.ofInt64 n.toInt64))
  | int64 n => some (decimal (.ofInt64 n))
  | _ => none

/-- The value as a date. -/
def coerceDate? : Value → Option Value
  | date d => some (date d)
  | dateTime t => some (date t.date)
  | dateTimeTz t => some (date t.wallClock.date)
  | string s => (Date.ofText? (Text.trim s.toList)).map date
  | _ => none

/-- The value as a time of day. -/
def coerceTime? : Value → Option Value
  | time t => some (time t)
  | dateTime t => some (time t.time)
  | dateTimeTz t => some (time t.wallClock.time)
  | string s => (Time.ofText? (Text.trim s.toList)).map time
  | _ => none

/-- The value as a date-time. -/
def coerceDateTime? : Value → Option Value
  | dateTime t => some (dateTime t)
  | date d => some (dateTime (.ofDate d))
  | dateTimeTz t => some (dateTime t.utc)
  | string s => (readDateTime? (Text.trim s.toList)).map dateTime
  | _ => none

/-- The value as a timestamp with an offset; a date-time is taken as UTC. -/
def coerceDateTimeTz? : Value → Option Value
  | dateTimeTz t => some (dateTimeTz t)
  | dateTime t => (OffsetDateTime.ofUtc? t .utc).map dateTimeTz
  | date d => (OffsetDateTime.ofUtc? (.ofDate d) .utc).map dateTimeTz
  | string s => (OffsetDateTime.ofText? (Text.trim s.toList)).map dateTimeTz
  | _ => none

/-- The value as bytes. -/
def coerceBytes? : Value → Option Value
  | bytes b => some (bytes b)
  | string s => some (bytes s.toUTF8)
  | uuid u => some (bytes ⟨u.bytes.toArray⟩)
  | _ => none

/-- The value as an identifier. -/
def coerceUuid? : Value → Option Value
  | uuid u => some (uuid u)
  | string s => (Uuid.ofText? (Text.trim s.toList)).map uuid
  | bytes b => (Uuid.ofBytes? b.data.toList).map uuid
  | _ => none

/-- The value as a variant's name or ordinal: integers and decimals are
ordinals, everything else is a name. -/
def coerceEnum? : Value → Option Value
  | string s => some (string s)
  | decimal d => (fitBits? 32 d.truncate).map fun n => int32 (.ofInt n)
  | v =>
    if v.isInteger then (v.asInteger?.bind (fitBits? 32)).map fun n => int32 (.ofInt n)
    else some (string v.text)

/-- A value other than NULL in a kind, if it has that shape. -/
def coerce? (v : Value) : Kind → Option Value
  | .any => some v
  | .string => v.coerceString?
  | .char => v.coerceChar?
  | .bool => v.coerceBool?
  | .int8 => (v.asInteger?.bind (fitBits? 8)).map fun n => int8 (.ofInt n)
  | .int16 => (v.asInteger?.bind (fitBits? 16)).map fun n => int16 (.ofInt n)
  | .int32 => (v.asInteger?.bind (fitBits? 32)).map fun n => int32 (.ofInt n)
  | .int64 => (v.asInteger?.bind (fitBits? 64)).map fun n => int64 (.ofInt n)
  | .float32 => v.asDouble?.map fun x => float32 (x.toFormat .single)
  | .float64 => v.asDouble?.map float64
  | .decimal => v.coerceDecimal?
  | .date => v.coerceDate?
  | .time => v.coerceTime?
  | .dateTime => v.coerceDateTime?
  | .dateTimeTz => v.coerceDateTimeTz?
  | .bytes => v.coerceBytes?
  | .uuid => v.coerceUuid?
  | .enum => v.coerceEnum?

/-- A value in a kind.  NULL has every kind. -/
def coerce (v : Value) (kind : Kind) : Except Error Value :=
  if v.isNull then .ok v
  else match v.coerce? kind with
    | some w => .ok w
    | none => .error (.typeMismatch s!"cannot read {v.typeName} value as {kind.name}")

end Value

end SqlAccess
