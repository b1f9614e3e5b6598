import SqlAccess.Parameter
import SqlAccess.Result.Basic
import SqlAccess.Statement.Program

/-!
# Calls on statements

What can be asked of a plain statement and of a prepared one, and the type of
each response.  The calls that only concern a prepared statement's parameters
are kept apart: they need no server.

* `StatementCall`, `BindingCall`, `PreparedCall` — the calls;
* `StatementAction`, `PreparedAction` — work done with a statement, and the SQL
  text it exposes;
* `Program.onPrepared` — work with the parameters alone, as work with the
  prepared statement.
-/

namespace SqlAccess

/-- What can be asked of a plain statement. -/
inductive StatementCall where
  | query (sql : String)
  | update (sql : String) (returnsKeys : Bool)
  | generatedKeys
  | close

/-- The response to a call on a plain statement. -/
@[reducible] def StatementCall.Response : StatementCall → Type
  | query _ => Except SqlError ResultSet
  | update .. => Except SqlError UInt64
  | generatedKeys => Except SqlError ResultSet
  | close => Except SqlError Unit

/-- What can be asked about a prepared statement's parameters. -/
inductive BindingCall where
  /-- Gives a placeholder, counted from 1, its value. -/
  | bind (index : Nat) (p : Parameter)
  | clear
  /-- Stores the values as one entry of the batch and clears them. -/
  | addBatch
  | supportsBatch
  | sql

/-- The response to a call about parameters. -/
@[reducible] def BindingCall.Response : BindingCall → Type
  | bind .. => Except SqlError Unit
  | clear => Unit
  | addBatch => Except SqlError Unit
  | supportsBatch => Bool
  | sql => String

/-- What can be asked of a prepared statement. -/
inductive PreparedCall where
  | binding (c : BindingCall)
  | query
  | update
  | batch
  | generatedKeys
  | close

/-- The response to a call on a prepared statement. -/
@[reducible] def PreparedCall.Response : PreparedCall → Type
  | binding c => c.Response
  | query => Except SqlError ResultSet
  | update => Except SqlError UInt64
  | batch => Except SqlError (List UInt64)
  | generatedKeys => Except SqlError ResultSet
  | close => Except SqlError Unit

/-- Programs that work with a plain statement. -/
abbrev StatementProgram (α : Type) : Type := Program StatementCall StatementCall.Response α

/-- Programs that work with a prepared statement's parameters. -/
abbrev BindingProgram (α : Type) : Type := Program BindingCall BindingCall.Response α

/-- Programs that work with a prepared statement. -/
abbrev PreparedProgram (α : Type) : Type := Program PreparedCall PreparedCall.Response α

/-- The program of one call on a plain statement. -/
def StatementCall.perform (c : StatementCall) : StatementProgram c.Response := Program.perform c

/-- The program of one call about parameters. -/
def BindingCall.perform (c : BindingCall) : BindingProgram c.Response := Program.perform c

/-- The program of one call on a prepared statement. -/
def PreparedCall.perform (c : PreparedCall) : PreparedProgram c.Response := Program.perform c

/-- Work with the parameters alone, done with the whole statement. -/
def Program.onPrepared {α : Type} : BindingProgram α → PreparedProgram α
  | .done a => .done a
  | .call c next => .call (.binding c) fun r => (next r).onPrepared

/-- A response of a driver as a result of work. -/
def Program.orFail {Call : Type} {Response : Call → Type} {α : Type}
    (p : Program Call Response (Except SqlError α)) : Program Call Response (Except Error α) :=
  p.bind fun r => .done (r.mapError Error.driver)

/-- Work done with a plain statement. -/
structure StatementAction (α : Type) where
  program : StatementProgram (Except Error α)
  /-- The SQL text told with a failure, if the action knows it. -/
  sql : Option String := none

/-- Work done with a prepared statement. -/
structure PreparedAction (α : Type) where
  program : PreparedProgram (Except Error α)
  /-- The SQL text told with a failure, if the action knows it. -/
  sql : Option String := none

end SqlAccess
