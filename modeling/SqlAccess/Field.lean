import SqlAccess.Value.Coerce

/-!
# Field types

The types a column can be written into.  A field type says in which kind its
column is fetched, which values can be assigned to it, and, if it is a
primitive one, which value stands for NULL.

* `Enumeration` — a type with named variants;
* `FieldType` and `FieldType.Carrier` — the types and their elements;
* `FieldType.ofValue` — assignment, which fails on a value that does not fit;
* `FieldType.toValue` — the value a field is written back as.
-/

namespace SqlAccess

/-- A type with named variants, in order.  A column holds the name of one or
its position. -/
structure Enumeration where
  typeName : String
  variants : List String
  deriving DecidableEq

namespace Enumeration

/-- The variants, known by their positions. -/
abbrev Variant (e : Enumeration) : Type := Fin e.variants.length

/-- The name of a variant. -/
def nameOf (e : Enumeration) (v : e.Variant) : String := e.variants[v]

/-- The variant at a position. -/
def atPosition? (e : Enumeration) (n : Int) : Option e.Variant :=
  if h : 0 ≤ n ∧ n.toNat < e.variants.length then some ⟨n.toNat, h.2⟩ else none

/-- The first variant with the given name. -/
def withName? (e : Enumeration) (name : String) : Option e.Variant :=
  if h : e.variants.idxOf name < e.variants.length then some ⟨e.variants.idxOf name, h⟩
  else none

/-- The variant a value selects: a text by its name, a number by position. -/
def select? (e : Enumeration) : Value → Option e.Variant
  | .string s => e.withName? s
  | v => v.asInteger?.bind e.atPosition?

/-- The variant a value selects, or the error that there is none. -/
def ofValue (e : Enumeration) (v : Value) : Except Error e.Variant :=
  match e.select? v with
  | some x => .ok x
  | none => .error (.typeMismatch s!"no {e.typeName} variant matches {v.text}")

end Enumeration

/-- The types of fields. -/
inductive FieldType where
  | bool | int8 | int16 | int32 | int64 | float32 | float64 | char
  | string | bytes | decimal | date | time | dateTime | dateTimeTz | uuid
  /-- Any value, NULL included. -/
  | value
  | enumeration (e : Enumeration)
  /-- A field that NULL leaves empty. -/
  | optional (t : FieldType)
  deriving DecidableEq

namespace FieldType

/-- The elements of a field type. -/
@[reducible] def Carrier : FieldType → Type
  | bool => Bool
  | int8 => Int8
  | int16 => Int16
  | int32 => Int32
  | int64 => Int64
  | float32 => Single
  | float64 => Double
  | char => Char
  | string => String
  | bytes => ByteArray
  | decimal => Decimal
  | date => Date
  | time => Time
  | dateTime => DateTime
  | dateTimeTz => OffsetDateTime
  | uuid => Uuid
  | value => Value
  | enumeration e => e.Variant
  | optional t => Option t.Carrier

/-- The kind in which a column is fetched for a field. -/
def kind : FieldType → Kind
  | bool => .bool
  | int8 => .int8
  | int16 => .int16
  | int32 => .int32
  | int64 => .int64
  | float32 => .float32
  | float64 => .float64
  | char => .char
  | string => .string
  | bytes => .bytes
  | decimal => .decimal
  | date => .date
  | time => .time
  | dateTime => .dateTime
  | dateTimeTz => .dateTimeTz
  | uuid => .uuid
  | value => .any
  | enumeration _ => .enum
  | optional t => t.kind

/-- The full name of a field type, as reports give it. -/
def typeName : FieldType → String
  | bool => "bool"
  | int8 => "i8"
  | int16 => "i16"
  | int32 => "i32"
  | int64 => "i64"
  | float32 => "f32"
  | float64 => "f64"
  | char => "char"
  | string => "alloc::string::String"
  | bytes => "alloc::vec::Vec<u8>"
  | decimal => "rust_decimal::decimal::Decimal"
  | date => "chrono::naive::date::NaiveDate"
  | time => "chrono::naive::time::NaiveTime"
  | dateTime => "chrono::naive::datetime::NaiveDateTime"
  | dateTimeTz => "chrono::datetime::DateTime<chrono::offset::fixed::FixedOffset>"
  | uuid => "uuid::Uuid"
  | value => "rowforge::types::value::Value"
  | enumeration e => e.typeName
  | optional t => s!"core::option::Option<{t.typeName}>"

/-- The value that stands for NULL in a primitive field; other fields have
none. -/
def zero? : FieldType → Option Value
  | bool => some (.bool false)
  | int8 => some (.int8 0)
  | int16 => some (.int16 0)
  | int32 => some (.int32 0)
  | int64 => some (.int64 0)
  | float32 => some (.float32 .zero)
  | float64 => some (.float64 .zero)
  | char => some (.string (String.singleton '\x00'))
  | _ => none

/-- Whether a field is a primitive one. -/
def isPrimitive (t : FieldType) : Bool := t.zero?.isSome

/-- The error that a value does not fit a field. -/
def mismatch (t : FieldType) (v : Value) : Error :=
  .typeMismatch s!"cannot assign {v.typeName} value to {t.typeName}"

/-- The field a value is assigned as.  Only a value of the field's own shape
fits. -/
def ofValue : (t : FieldType) → Value → Except Error t.Carrier
  | bool, .bool b => .ok b
  | int8, .int8 n => .ok n
  | int16, .int16 n => .ok n
  | int32, .int32 n => .ok n
  | int64, .int64 n => .ok n
  | float32, .float32 x => .ok x
  | float64, .float64 x => .ok x
  | char, .string s =>
    match s.toList with
    | [c] => .ok c
    | _ => .error (mismatch .char (.string s))
  | string, .string s => .ok s
  | bytes, .bytes b => .ok b
  | decimal, .decimal d => .ok d
  | date, .date d => .ok d
  | time, .time t => .ok t
  | dateTime, .dateTime t => .ok t
  | dateTimeTz, .dateTimeTz t => .ok t
  | uuid, .uuid u => .ok u
  | value, v => .ok v
  | enumeration e, v => e.ofValue v
  | optional _, .null => .ok none
  | optional t, v => (ofValue t v).map some
  | t, v => .error (mismatch t v)

/-- The value of a field. -/
def toValue : (t : FieldType) → t.Carrier → Value
  | bool, b => .bool b
  | int8, n => .int8 n
  | int16, n => .int16 n
  | int32, n => .int32 n
  | int64, n => .int64 n
  | float32, x => .float32 x
  | float64, x => .float64 x
  | char, c => .string (String.singleton c)
  | string, s => .string s
  | bytes, b => .bytes b
  | decimal, d => .decimal d
  | date, d => .date d
  | time, t => .time t
  | dateTime, t => .dateTime t
  | dateTimeTz, t => .dateTimeTz t
  | uuid, u => .uuid u
  | value, v => v
  | enumeration e, x => .string (e.nameOf x)
  | optional _, none => .null
  | optional t, some x => t.toValue x

end FieldType

end SqlAccess
