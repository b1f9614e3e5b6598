import SqlAccess.Calendar.DateTime
import SqlAccess.Number.Decimal.Basic
import SqlAccess.Uuid

/-!
# Values

A `Value` is one cell of a row or one parameter, independent of any driver.
-/

-- Bytes are compared as their type says, also where there are other ways.
attribute [instance (20000)] ByteArray.instDecidableEq

namespace SqlAccess

/-- A value of a database. -/
inductive Value where
  | null
  | bool (b : Bool)
  | int8 (n : Int8)
  | int16 (n : Int16)
  | int32 (n : Int32)
  | int64 (n : Int64)
  | float32 (x : Single)
  | float64 (x : Double)
  | decimal (d : Decimal)
  | string (s : String)
  | bytes (b : ByteArray)
  | date (d : Date)
  | time (t : Time)
  | dateTime (t : DateTime)
  /-- A timestamp with the offset of its clock. -/
  | dateTimeTz (t : OffsetDateTime)
  | uuid (u : Uuid)
  deriving DecidableEq

instance : Inhabited Value := ⟨.null⟩

namespace Value

/-- Whether a value is NULL. -/
def isNull : Value → Bool
  | null => true
  | _ => false

/-- Whether a value is one of the integers. -/
def isInteger : Value → Bool
  | int8 _ | int16 _ | int32 _ | int64 _ => true
  | _ => false

/-- The name of a value's type. -/
def typeName : Value → String
  | null => "NULL"
  | bool _ => "Bool"
  | int8 _ => "Int8"
  | int16 _ => "Int16"
  | int32 _ => "Int32"
  | int64 _ => "Int64"
  | float32 _ => "Float32"
  | float64 _ => "Float64"
  | decimal _ => "Decimal"
  | string _ => "String"
  | bytes _ => "Bytes"
  | date _ => "Date"
  | time _ => "Time"
  | dateTime _ => "DateTime"
  | dateTimeTz _ => "DateTimeTz"
  | uuid _ => "Uuid"

/-- The text of a string value. -/
def asString? : Value → Option String
  | string s => some s
  | _ => none

/-- Whether two values compare as equal: numbers and instants by what they
denote, so that scales, offsets and the sign of zero do not count and `nan`
differs from itself; everything else as it is. -/
def sameAs : Value → Value → Bool
  | float32 x, float32 y => x.numericEq y
  | float64 x, float64 y => x.numericEq y
  | decimal x, decimal y => x.numericEq y
  | dateTimeTz x, dateTimeTz y => x.utc == y.utc
  | x, y => x == y

end Value

end SqlAccess
