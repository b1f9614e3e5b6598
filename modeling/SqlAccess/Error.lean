/-!
# Errors

A driver reports a failure as a `SqlError`.  Everything else that can go wrong
is an `Error`, which says by its constructor what kind of failure it is; a
driver's failure becomes one of them as it leaves the operation that met it.

* `SqlError` — a driver's failure, with the code and state it reported;
* `Error` — a failure of this library;
* `Error.kind` and `Error.message` — its class and its wording;
* `Error.inOperation` — attaches the operation to a driver's failure and
  leaves every other error as it is.
-/

namespace SqlAccess

/-- A failure reported by a driver. -/
structure SqlError where
  message : String
  /-- The vendor's code, if there is one. -/
  code : Option Int := none
  /-- The SQLSTATE, if there is one. -/
  state : Option String := none
  deriving DecidableEq, Inhabited

namespace SqlError

/-- The message with the code behind it, a missing code being written as 0. -/
def text (e : SqlError) : String := s!"{e.message} ({e.code.getD 0})"

/-- The failure met while binding one parameter. -/
def atParameter (index : Nat) (e : SqlError) : SqlError :=
  { e with message := s!"cannot bind parameter {index}: {e.message}" }

/-- A parameter index that no placeholder has. -/
def indexOutOfRange (index count : Nat) : SqlError :=
  { message :=
      s!"Parameter index out of range ({index} > number of parameters, which is {count})." }

/-- A placeholder without a value. -/
def noValueFor (index : Nat) : SqlError :=
  { message := s!"No value specified for parameter {index}" }

/-- A column index outside of the result. -/
def columnOutOfRange (index count : Nat) : SqlError :=
  { message := s!"Column index {index} out of range (1..={count})" }

/-- A row that is too short for one of its columns. -/
def noValueInRow (index : Nat) : SqlError :=
  { message := s!"Row has no value for column {index}" }

/-- A label that no column has. -/
def columnNotFound (label : String) : SqlError :=
  { message := s!"Column not found: {label}" }

end SqlError

/-- The classes of errors. -/
inductive ErrorKind where
  | dataAccess | typeMismatch | conversion | unsupported | incorrectResultSize
  | dataSourceInit | connectionRetrieve | instantiation | invalidArgument | internal
  | taskAborted
  deriving DecidableEq

/-- The name of a class. -/
def ErrorKind.name : ErrorKind → String
  | .dataAccess => "data_access"
  | .typeMismatch => "type_mismatch"
  | .conversion => "conversion"
  | .unsupported => "unsupported"
  | .incorrectResultSize => "incorrect_result_size"
  | .dataSourceInit => "data_source_init"
  | .connectionRetrieve => "connection_retrieve"
  | .instantiation => "instantiation"
  | .invalidArgument => "invalid_argument"
  | .internal => "internal"
  | .taskAborted => "task_aborted"

/-- What can go wrong. -/
inductive Error where
  /-- A driver's failure inside an operation, whose SQL text may be known. -/
  | dataAccess (context : String) (sql : Option String) (code : Option Int) (message : String)
  /-- A driver's failure outside of any operation. -/
  | driver (e : SqlError)
  | typeMismatch (message : String)
  | conversion (converter message : String)
  | unsupported (message : String)
  | incorrectResultSize (expected actual : Nat)
  | dataSourceInit (message : String)
  | connectionRetrieve (message : String) (source : Option SqlError)
  | instantiation (target message : String)
  | invalidArgument (message : String)
  | internal (message : String)
  | taskAborted
  deriving DecidableEq

instance : Inhabited Error := ⟨.taskAborted⟩

namespace Error

/-- The class of an error. -/
def kind : Error → ErrorKind
  | dataAccess .. | driver _ => .dataAccess
  | typeMismatch _ => .typeMismatch
  | conversion .. => .conversion
  | unsupported _ => .unsupported
  | incorrectResultSize .. => .incorrectResultSize
  | dataSourceInit _ => .dataSourceInit
  | connectionRetrieve .. => .connectionRetrieve
  | instantiation .. => .instantiation
  | invalidArgument _ => .invalidArgument
  | internal _ => .internal
  | taskAborted => .taskAborted

/-- The wording of an error. -/
def message : Error → String
  | dataAccess context sql code message =>
    let sqlText := sql.getD ""
    s!"Data access failed: {context} - SQL: {sqlText} - {message} ({code.getD 0})"
  | driver e => s!"Driver error: {e.text}"
  | typeMismatch message => s!"Type mismatch: {message}"
  | conversion converter message => s!"Conversion failed in {converter}: {message}"
  | unsupported message => s!"Unsupported operation: {message}"
  | incorrectResultSize expected actual =>
    s!"Incorrect result size: expected {expected}, actual {actual}"
  | dataSourceInit message => s!"Cannot create the data source: {message}"
  | connectionRetrieve message _ => s!"Cannot retrieve a connection: {message}"
  | instantiation target message => s!"Cannot create an instance of {target}: {message}"
  | invalidArgument message => s!"Invalid argument: {message}"
  | internal message => s!"Internal error: {message}"
  | taskAborted => "Task was dropped by the executor before completing"

/-- The SQL text an error carries. -/
def sql? : Error → Option String
  | dataAccess _ sql _ _ => sql
  | _ => none

/-- The error as it leaves an operation: a driver's failure is told with the
operation's context and SQL text, every other error is unchanged. -/
def inOperation (context : String) (sql : Option String) : Error → Error
  | driver e => dataAccess context sql e.code e.message
  | e => e

/-- The error as it leaves the attempt to get a connection. -/
def inAcquisition : Error → Error
  | driver e => connectionRetrieve e.message (some e)
  | e => e

end Error

end SqlAccess
