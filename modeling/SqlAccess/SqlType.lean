/-!
# SQL types

The declared type of a bound parameter.  Each type has the code that the
common database tools use for it, so that types coming from configuration can
be reused as they are.

* `SqlType.code` and `SqlType.ofCode?` — the code of a type and back;
* `SqlType.text` — the type as SQL writes it;
* `SqlType.isNational` — whether it is bound as a national string.
-/

namespace SqlAccess

/-- The declared type of a parameter. -/
inductive SqlType where
  | bit | tinyInt | smallInt | integer | bigInt | float
  | real | double | numeric | decimal | char | varChar
  | longVarChar | date | time | timestamp | binary | varBinary
  | longVarBinary | null | other | blob | clob | boolean
  | nChar | nVarChar | longNVarChar | nClob | timeWithTimezone | timestampWithTimezone
  deriving DecidableEq, Repr

namespace SqlType

/-- Every type, in the order of declaration. -/
def all : List SqlType :=
  [bit, tinyInt, smallInt, integer, bigInt, float, real, double, numeric, decimal, char,
    varChar, longVarChar, date, time, timestamp, binary, varBinary, longVarBinary, null,
    other, blob, clob, boolean, nChar, nVarChar, longNVarChar, nClob, timeWithTimezone,
    timestampWithTimezone]

/-- The code of a type. -/
def code : SqlType → Int
  | bit => -7
  | tinyInt => -6
  | smallInt => 5
  | integer => 4
  | bigInt => -5
  | float => 6
  | real => 7
  | double => 8
  | numeric => 2
  | decimal => 3
  | char => 1
  | varChar => 12
  | longVarChar => -1
  | date => 91
  | time => 92
  | timestamp => 93
  | binary => -2
  | varBinary => -3
  | longVarBinary => -4
  | null => 0
  | other => 1111
  | blob => 2004
  | clob => 2005
  | boolean => 16
  | nChar => -15
  | nVarChar => -9
  | longNVarChar => -16
  | nClob => 2011
  | timeWithTimezone => 2013
  | timestampWithTimezone => 2014

/-- The type of a code. -/
def ofCode? (code : Int) : Option SqlType := all.find? (·.code == code)

/-- The name of a type. -/
def name : SqlType → String
  | bit => "Bit"
  | tinyInt => "TinyInt"
  | smallInt => "SmallInt"
  | integer => "Integer"
  | bigInt => "BigInt"
  | float => "Float"
  | real => "Real"
  | double => "Double"
  | numeric => "Numeric"
  | decimal => "Decimal"
  | char => "Char"
  | varChar => "VarChar"
  | longVarChar => "LongVarChar"
  | date => "Date"
  | time => "Time"
  | timestamp => "Timestamp"
  | binary => "Binary"
  | varBinary => "VarBinary"
  | longVarBinary => "LongVarBinary"
  | null => "Null"
  | other => "Other"
  | blob => "Blob"
  | clob => "Clob"
  | boolean => "Boolean"
  | nChar => "NChar"
  | nVarChar => "NVarChar"
  | longNVarChar => "LongNVarChar"
  | nClob => "NClob"
  | timeWithTimezone => "TimeWithTimezone"
  | timestampWithTimezone => "TimestampWithTimezone"

/-- The type of a name. -/
def ofName? (name : String) : Option SqlType := all.find? (·.name == name)

/-- A type as SQL writes it. -/
def text : SqlType → String
  | bit => "BIT"
  | tinyInt => "TINYINT"
  | smallInt => "SMALLINT"
  | integer => "INTEGER"
  | bigInt => "BIGINT"
  | float => "FLOAT"
  | real => "REAL"
  | double => "DOUBLE"
  | numeric => "NUMERIC"
  | decimal => "DECIMAL"
  | char => "CHAR"
  | varChar => "VARCHAR"
  | longVarChar => "LONGVARCHAR"
  | date => "DATE"
  | time => "TIME"
  | timestamp => "TIMESTAMP"
  | binary => "BINARY"
  | varBinary => "VARBINARY"
  | longVarBinary => "LONGVARBINARY"
  | null => "NULL"
  | other => "OTHER"
  | blob => "BLOB"
  | clob => "CLOB"
  | boolean => "BOOLEAN"
  | nChar => "NCHAR"
  | nVarChar => "NVARCHAR"
  | longNVarChar => "LONGNVARCHAR"
  | nClob => "NCLOB"
  | timeWithTimezone => "TIME WITH TIME ZONE"
  | timestampWithTimezone => "TIMESTAMP WITH TIME ZONE"

/-- Types bound as national strings. -/
def isNational : SqlType → Bool
  | nChar | nVarChar | longNVarChar | nClob => true
  | _ => false

end SqlType

end SqlAccess
