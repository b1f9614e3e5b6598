import SqlAccess.Driver
import SqlAccess.Scripted.Placeholders
import SqlAccess.Scripted.State
import SqlAccess.Statement.Inputs

/-!
# The scripted source

The driver whose connections and statements share the state of one script.
Closing is counted once per connection and once per statement, however often
it is repeated.

* `Scripted.source` — the driver;
* `Faults` and `Driver.withFaults` — a driver whose calls fail on demand.
-/

namespace SqlAccess.Scripted

/-- A connection of a scripted source. -/
structure Connection where
  supportsBatch : Bool
  isClosed : Bool := false

/-- A plain statement of a scripted source. -/
structure Statement where
  generatedKey : Option Value := none
  isClosed : Bool := false

/-- A prepared statement of a scripted source. -/
structure Prepared where
  sql : String
  inputs : Inputs Parameter
  returnsKeys : Bool
  supportsBatch : Bool
  generatedKey : Option Value := none
  isClosed : Bool := false

namespace State

/-- The error that a source was closed. -/
def closedError : Error := .connectionRetrieve "in-memory source has been closed" none

/-- Gives a connection, if the source is open and has one. -/
def acquire (s : State) : Except Error (Option Connection) × State :=
  if s.isClosed then (.error closedError, s)
  else match s.availability with
    | .empty => (.ok none, s)
    | .failing message => (.error (.connectionRetrieve message none), s)
    | .available =>
      (.ok (some { supportsBatch := s.supportsBatch }),
        { s with connections := { s.connections with opened := s.connections.opened + 1 } })

/-- Counts a statement that was opened. -/
def openStatement (s : State) : State :=
  { s with statements := { s.statements with opened := s.statements.opened + 1 } }

/-- Counts a statement that was closed, unless it was closed before. -/
def closeStatement (s : State) (wasClosed : Bool) : Except SqlError Unit × State :=
  if wasClosed then (.ok (), s)
  else
    (if s.failsStatementClose then .error { message := "statement close failed" } else .ok (),
      { s with statements := { s.statements with closed := s.statements.closed + 1 } })

/-- Counts a connection that was closed, unless it was closed before. -/
def closeConnection (s : State) (c : Connection) : Connection × State :=
  if c.isClosed then (c, s)
  else
    ({ c with isClosed := true },
      { s with connections := { s.connections with closed := s.connections.closed + 1 } })

end State

/-- The statement prepared from a SQL text on a connection. -/
def Connection.prepared (c : Connection) (sql : String) (returnsKeys : Bool) : Prepared where
  sql := sql
  inputs := .ofCount (placeholders sql)
  returnsKeys := returnsKeys
  supportsBatch := c.supportsBatch

/-- The response to a call on a plain statement. -/
def Statement.answer : (c : StatementCall) → Statement → State → c.Response × Statement × State
  | .query sql, st, s =>
    let (r, s) := s.runQuery sql []
    (r, st, s)
  | .update sql returnsKeys, st, s =>
    match s.runUpdate sql [] with
    | (.ok (affected, key), s) =>
      (.ok affected, { st with generatedKey := if returnsKeys then key else none }, s)
    | (.error e, s) => (.error e, st, s)
  | .generatedKeys, st, s => (.ok (.ofGeneratedKey st.generatedKey), st, s)
  | .close, st, s =>
    let (r, s) := s.closeStatement st.isClosed
    (r, { st with isClosed := true }, s)

/-- The response to a call on a prepared statement. -/
def Prepared.answer : (c : PreparedCall) → Prepared → State → c.Response × Prepared × State
  | .binding c, p, s =>
    let (r, inputs) := Inputs.answer id p.supportsBatch p.sql c p.inputs
    (r, { p with inputs }, s)
  | .query, p, s =>
    match p.inputs.take id with
    | (.error e, _) => (.error e, p, s)
    | (.ok params, inputs) =>
      let (r, s) := s.runQuery p.sql params
      (r, { p with inputs }, s)
  | .update, p, s =>
    match p.inputs.take id with
    | (.error e, _) => (.error e, p, s)
    | (.ok params, inputs) =>
      match s.runUpdate p.sql params with
      | (.ok (affected, key), s) =>
        (.ok affected, { p with inputs, generatedKey := if p.returnsKeys then key else none }, s)
      | (.error e, s) => (.error e, { p with inputs }, s)
  | .batch, p, s =>
    let (batch, inputs) := p.inputs.takeBatch
    let (r, s) := s.runBatch p.sql batch
    (r, { p with inputs }, s)
  | .generatedKeys, p, s => (.ok (.ofGeneratedKey p.generatedKey), p, s)
  | .close, p, s =>
    let (r, s) := s.closeStatement p.isClosed
    (r, { p with isClosed := true }, s)

/-- The scripted source. -/
@[reducible] def source : Driver where
  State := State
  Connection := Connection
  Statement := Statement
  Prepared := Prepared
  acquire := State.acquire
  shutDown s := (.ok (), { s with isClosed := true })
  createStatement _ s := (.ok {}, s.openStatement)
  prepare c sql returnsKeys s := (.ok (c.prepared sql returnsKeys), s.openStatement)
  supportsBatch := Connection.supportsBatch
  release c s :=
    let (c, s) := s.closeConnection c
    ((.ok (), []), c, s)
  answer := Statement.answer
  answerPrepared := Prepared.answer

end SqlAccess.Scripted

namespace SqlAccess

/-- Calls of a driver that are to fail, and what they fail with. -/
structure Faults where
  acquire : Option Error := none
  shutDown : Option Error := none
  create : Option SqlError := none
  prepare : Option SqlError := none
  /-- The generated keys that every prepared statement gives. -/
  keys : Option ResultSet := none
  /-- The failure of a release, which is carried out all the same. -/
  release : Option SqlError := none

/-- A driver some of whose calls fail.  A call that fails does not reach the
driver, a release excepted. -/
@[reducible] def Driver.withFaults (D : Driver) (f : Faults) : Driver where
  State := D.State
  Connection := D.Connection
  Statement := D.Statement
  Prepared := D.Prepared
  acquire s :=
    match f.acquire with
    | some e => (.error e, s)
    | none => D.acquire s
  shutDown s :=
    match f.shutDown with
    | some e => (.error e, s)
    | none => D.shutDown s
  createStatement c s :=
    match f.create with
    | some e => (.error e, s)
    | none => D.createStatement c s
  prepare c sql returnsKeys s :=
    match f.prepare with
    | some e => (.error e, s)
    | none => D.prepare c sql returnsKeys s
  supportsBatch := D.supportsBatch
  release c s :=
    let ((r, warnings), c, s) := D.release c s
    match f.release with
    | some e => ((.error e, warnings), c, s)
    | none => ((r, warnings), c, s)
  answer := D.answer
  answerPrepared c p s :=
    match c, f.keys with
    | .generatedKeys, some r => (.ok r, p, s)
    | c, _ => D.answerPrepared c p s

end SqlAccess
