import SqlAccess.Statement.Call

/-!
# Drivers

A driver gives connections to a database and answers the calls on their
statements.  It has one state for everything it has opened; connections and
statements carry what is theirs alone, and every call gives them back as they
are after it.

* `Driver` — the calls;
* `Warning` — what is told of and does not fail an operation;
* `Session` — work with a driver, which keeps the warnings.
-/

namespace SqlAccess

/-- Something that went wrong without failing an operation. -/
inductive Warning where
  /-- The source had no connection to give. -/
  | noConnection
  | statementNotClosed (e : SqlError)
  | preparedNotClosed (e : SqlError) (sql : String)
  | connectionNotReleased (e : SqlError)
  /-- A connection was held longer than its pool expects. -/
  | heldTooLong (pool : String)
  deriving DecidableEq

/-- The wording of a warning. -/
def Warning.message : Warning → String
  | noConnection => "Cannot retrieve a connection."
  | statementNotClosed _ => "Could not close statement"
  | preparedNotClosed .. => "Could not close prepared statement"
  | connectionNotReleased _ => "Could not close connection"
  | heldTooLong _ => "Connection held longer than the leak detection threshold"

/-- A warning as it is told, by named texts. -/
def Warning.fields (w : Warning) : List (String × String) :=
  ("message", w.message) :: match w with
    | noConnection => []
    | statementNotClosed e | connectionNotReleased e => [("error", e.text)]
    | preparedNotClosed e sql => [("error", e.text), ("sql", sql)]
    | heldTooLong pool => [("pool", pool)]

/-- Access to a database. -/
structure Driver where
  State : Type
  Connection : Type
  /-- Plain statements. -/
  Statement : Type
  /-- Prepared statements. -/
  Prepared : Type
  /-- A connection, unless the source has none to give. -/
  acquire : State → Except Error (Option Connection) × State
  /-- Ends the source. -/
  shutDown : State → Except Error Unit × State
  createStatement : Connection → State → Except SqlError Statement × State
  /-- A statement prepared from a SQL text; generated keys are asked for here. -/
  prepare : Connection → (sql : String) → (returnsKeys : Bool) → State →
    Except SqlError Prepared × State
  supportsBatch : Connection → Bool
  /-- Gives a connection back. -/
  release : Connection → State → (Except SqlError Unit × List Warning) × Connection × State
  answer : (c : StatementCall) → Statement → State → c.Response × Statement × State
  answerPrepared : (c : PreparedCall) → Prepared → State → c.Response × Prepared × State

/-- A driver's state and the warnings so far, oldest first. -/
structure World (D : Driver) where
  state : D.State
  warnings : List Warning := []

/-- Work with a driver. -/
abbrev Session (D : Driver) (α : Type) : Type := StateM (World D) α

namespace Session

variable {D : Driver} {α β : Type}

/-- One call of the driver. -/
def onState (f : D.State → α × D.State) : Session D α := fun w =>
  let (a, state) := f w.state
  (a, { w with state })

/-- Tells a warning. -/
def warn (warning : Warning) : Session D Unit := fun w =>
  ((), { w with warnings := w.warnings ++ [warning] })

/-- Runs a program with a plain statement. -/
def runOn (statement : D.Statement) (p : StatementProgram α) : Session D (α × D.Statement) :=
  onState fun state =>
    let (a, statement, state) :=
      p.run (fun c (s : D.Statement × D.State) => D.answer c s.1 s.2) (statement, state)
    ((a, statement), state)

/-- Runs a program with a prepared statement. -/
def runOnPrepared (statement : D.Prepared) (p : PreparedProgram α) :
    Session D (α × D.Prepared) :=
  onState fun state =>
    let (a, statement, state) :=
      p.run (fun c (s : D.Prepared × D.State) => D.answerPrepared c s.1 s.2) (statement, state)
    ((a, statement), state)

/-- Work that does nothing leaves the world alone. -/
@[simp] theorem pure_apply (a : α) (w : World D) : (pure a : Session D α) w = (a, w) := rfl

/-- Work goes on in the world that the work before it left. -/
@[simp] theorem bind_apply (s : Session D α) (f : α → Session D β) (w : World D) :
    (s >>= f) w = f (s w).1 (s w).2 := rfl

/-- A change of the result leaves the world alone. -/
@[simp] theorem map_apply (f : α → β) (s : Session D α) (w : World D) :
    (f <$> s) w = (f (s w).1, (s w).2) := rfl

end Session

end SqlAccess
