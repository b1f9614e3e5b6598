import SqlAccess.Driver

/-!
# The life of a connection in an operation

Every operation takes a connection of its own and gives it back before it
returns, together with the statement it created, on success and on failure
alike.  A driver's failure is told with the operation's context and SQL text.
When the source has no connection to give, the operation has no result, and
that is told as a warning.

* `Database.execute` — work with a plain statement;
* `Database.executePrepared` — work with a newly prepared statement;
* `Creator` and `Preparer` — what is to be prepared, and work that prepares it.
-/

namespace SqlAccess

variable {D : Driver} {α : Type}

/-- What is to be prepared: a SQL text, with a request for generated keys or
without, or a refusal.  The text told with a failure may be another one. -/
structure Creator where
  sql : Option String
  plan : Except SqlError (String × Bool)

/-- The error that a SQL text holds nothing. -/
def Creator.emptySql : Error := .invalidArgument "Sql statement cannot be empty."

/-- Prepares a fixed SQL text, which must hold more than blanks. -/
def Creator.ofSql (sql : String) (returnsKeys : Bool) : Except Error Creator :=
  if Text.IsBlankText sql then .error emptySql else .ok ⟨some sql, .ok (sql, returnsKeys)⟩

/-- Work that gets a prepared statement on a connection, whatever it does on the
way.  The text told with a failure is its own choice. -/
structure Preparer (D : Driver) where
  sql : Option String
  prepare : D.Connection → Session D (Except SqlError D.Prepared)

/-- Prepares what a creator says. -/
def Creator.preparer (creator : Creator) : Preparer D where
  sql := creator.sql
  prepare c :=
    match creator.plan with
    | .error e => return .error e
    | .ok (sql, returnsKeys) => Session.onState (D.prepare c sql returnsKeys)

instance : Coe Creator (Preparer D) := ⟨Creator.preparer⟩

namespace Database

/-- The context told with a failure of a plain statement. -/
def statementContext : String := "statement callback"

/-- The context told with a failure of a prepared statement. -/
def preparedContext : String := "prepared statement callback"

/-- Takes a connection from the source. -/
def acquire : Session D (Except Error (Option D.Connection)) := do
  match ← Session.onState D.acquire with
  | .ok none =>
    Session.warn .noConnection
    return .ok none
  | r => return r.mapError Error.inAcquisition

/-- Gives a connection back; a failure to do so is told as a warning. -/
def release (c : D.Connection) : Session D Unit := do
  let (result, warnings) ← Session.onState fun state =>
    let (r, _, state) := D.release c state
    (r, state)
  warnings.forM Session.warn
  match result with
  | .ok () => return ()
  | .error e => Session.warn (.connectionNotReleased e)

/-- Closes a plain statement; a failure to do so is told as a warning. -/
def closeStatement (s : D.Statement) : Session D Unit := do
  match (← Session.runOn s StatementCall.close.perform).1 with
  | .ok () => return ()
  | .error e => Session.warn (.statementNotClosed e)

/-- Closes a prepared statement; a failure to do so is told as a warning, with
the statement's SQL text. -/
def closePrepared (s : D.Prepared) : Session D Unit := do
  let (result, s) ← Session.runOnPrepared s PreparedCall.close.perform
  match result with
  | .ok () => return ()
  | .error e =>
    let (sql, _) ← Session.runOnPrepared s (PreparedCall.binding .sql).perform
    Session.warn (.preparedNotClosed e sql)

/-- Does work with a connection of its own, which is given back. -/
def withConnection (work : D.Connection → Session D (Except Error α)) :
    Session D (Except Error (Option α)) := do
  match ← acquire with
  | .error e => return .error e
  | .ok none => return .ok none
  | .ok (some c) =>
    let result ← work c
    release c
    return result.map some

/-- Does work with a new plain statement, which is closed. -/
def withStatement (c : D.Connection) (action : StatementAction α) :
    Session D (Except Error α) := do
  match ← Session.onState (D.createStatement c) with
  | .error e => return .error (.driver e)
  | .ok s =>
    let (result, s) ← Session.runOn s action.program
    closeStatement s
    return result

/-- Does work with a newly prepared statement, which is closed. -/
def withPrepared (c : D.Connection) (preparer : Preparer D) (action : PreparedAction α) :
    Session D (Except Error α) := do
  match ← preparer.prepare c with
  | .error e => return .error (.driver e)
  | .ok s =>
    let (result, s) ← Session.runOnPrepared s action.program
    closePrepared s
    return result

/-- Runs an action with a plain statement. -/
def execute (action : StatementAction α) : Session D (Except Error (Option α)) :=
  withConnection fun c => do
    return (← withStatement c action).mapError (Error.inOperation statementContext action.sql)

/-- Runs an action with a newly prepared statement.  The SQL text told with a
failure is the preparer's, else the action's. -/
def executePrepared (preparer : Preparer D) (action : PreparedAction α) :
    Session D (Except Error (Option α)) :=
  withConnection fun c => do
    return (← withPrepared c preparer action).mapError
      (Error.inOperation preparedContext (preparer.sql.or action.sql))

/-- Prepares a SQL text and runs an action with it. -/
def executeSql (sql : String) (action : PreparedAction α) :
    Session D (Except Error (Option α)) :=
  match Creator.ofSql sql false with
  | .error e => return .error e
  | .ok creator => executePrepared creator action

/-- Ends the source.  Later operations get no connection. -/
def close : Session D (Except Error Unit) := Session.onState D.shutDown

end Database

end SqlAccess
