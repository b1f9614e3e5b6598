/-!
# Kinds

The shape in which a column is fetched.  Every mapped property declares one.
-/

namespace SqlAccess

/-- The shapes a column can be fetched in.  `any` takes what the driver gave;
`enum` is the name of a variant or its ordinal. -/
inductive Kind where
  | string | char | bool | int8 | int16 | int32 | int64 | float32 | float64 | decimal
  | date | time | dateTime | dateTimeTz | bytes | uuid | enum | any
  deriving DecidableEq, Repr

namespace Kind

/-- Every kind. -/
def all : List Kind :=
  [string, char, bool, int8, int16, int32, int64, float32, float64, decimal, date, time, dateTime,
    dateTimeTz, bytes, uuid, enum, any]

/-- The name of a kind. -/
def name : Kind → String
  | string => "String"
  | char => "Char"
  | bool => "Bool"
  | int8 => "Int8"
  | int16 => "Int16"
  | int32 => "Int32"
  | int64 => "Int64"
  | float32 => "Float32"
  | float64 => "Float64"
  | decimal => "Decimal"
  | date => "Date"
  | time => "Time"
  | dateTime => "DateTime"
  | dateTimeTz => "DateTimeTz"
  | bytes => "Bytes"
  | uuid => "Uuid"
  | enum => "Enum"
  | any => "Any"

/-- The kind of a name. -/
def ofName? (name : String) : Option Kind := all.find? (·.name == name)

end Kind

end SqlAccess
