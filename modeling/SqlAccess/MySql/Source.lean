import SqlAccess.Credentials
import SqlAccess.Driver
import SqlAccess.MySql.Placeholders
import SqlAccess.MySql.Server
import SqlAccess.MySql.StatementCache
import SqlAccess.MySql.Url
import SqlAccess.PoolSettings
import SqlAccess.Statement.Inputs

/-!
# The MySQL source

A pool of connections to one server.  Every connection logs in when it is
taken; statements work on the connection they were made on, and fail once it
was given back or the server hung up.  Nobody waits longer for an answer than
the settings allow.

* `Pool.make` — the check of credentials and settings;
* `State` and `State.send` — what the connections share, and one command;
* `source` — the driver.
-/

namespace SqlAccess.MySql

/-- A pool, ready to take connections from. -/
structure Pool where
  name : String
  user : String
  hasPassword : Bool
  schema : Option String
  settings : PoolSettings

/-- The pool that credentials and settings describe, if its URL is accepted
and its sizes fit. -/
def Pool.make (c : Credentials) (settings : PoolSettings) : Except Error Pool :=
  let text := urlWithProperties c.url settings.properties
  match (Url.ofText? text).filter Url.isAccepted with
  | none => .error (.dataSourceInit s!"Invalid connection URL {text}")
  | some url =>
    if settings.minIdle ≤ settings.maxPoolSize then
      .ok ⟨c.pool, c.user, c.password.any (· != ""), url.schema, settings⟩
    else
      .error (.dataSourceInit
        s!"min idle ({settings.minIdle}) must not exceed max pool size ({settings.maxPoolSize})")

/-- The client's end of a connection. -/
structure Link where
  /-- Whether it was not given back yet. -/
  isOpen : Bool := true
  /-- Whether the server hung up. -/
  isLost : Bool := false
  /-- The clock when it was opened. -/
  since : Nat := 0
  cache : StatementCache := {}
  /-- The number of statements prepared so far. -/
  prepared : Nat := 0

/-- What the connections of a pool share. -/
structure State where
  server : Server
  isClosed : Bool := false
  /-- Milliseconds spent waiting in vain, all other time being short. -/
  clock : Nat := 0
  /-- All connections so far, by their numbers. -/
  links : List Link := []

/-- A plain statement. -/
structure Statement where
  link : Nat
  lastInsertId : Option UInt64 := none

/-- A prepared statement. -/
structure Prepared where
  link : Nat
  /-- Its SQL text as it was given, which the server may know with question
  marks in place of names. -/
  sql : String
  onServer : ServerStatement
  inputs : Inputs Datum
  returnsKeys : Bool
  lastInsertId : Option UInt64 := none

/-- The failure that a connection was given back. -/
def closedError : SqlError := { message := "No operations allowed after connection closed." }

/-- The failure of the command at which the server hangs up. -/
def hungUpError : SqlError :=
  { message := "Input/output error: Input/output error: connection closed" }

/-- The failure of every command after the server hung up. -/
def lostError : SqlError :=
  { message :=
      "Input/output error: Input/output error: Driver error: " ++
        "\x60Connection to the server is closed.'" }

/-- The failure that a SQL text has named and other placeholders. -/
def mixedError : SqlError :=
  { message :=
      "Driver error: \x60Named and positional parameters mixed in one statement.'" }

/-- The failure that no answer came in time. -/
def timeoutError (limit : Nat) : SqlError := { message := s!"Read timed out after {limit}ms" }

namespace State

/-- A connection by its number. -/
def link (s : State) (n : Nat) : Link := s.links.getD n { isOpen := false }

/-- Changes a connection. -/
def setLink (s : State) (n : Nat) (l : Link) : State := { s with links := s.links.set n l }

/-- Lets time pass. -/
def wait (s : State) (milliseconds : Nat) : State := { s with clock := s.clock + milliseconds }

/-- The connections that were not given back. -/
def openCount (s : State) : Nat := s.links.countP (·.isOpen)

/-- Refuses a connection that was given back, or that the server left. -/
def ready (s : State) (n : Nat) : Except SqlError Unit :=
  if !(s.link n).isOpen then .error closedError
  else if (s.link n).isLost then .error lostError
  else .ok ()

/-- A failure of a command, and what it does to its connection. -/
def fail (limit : Nat) (n : Nat) (s : State) : Failure → SqlError × State
  | .reported e => (e.toSqlError, s)
  | .hungUp => (hungUpError, s.setLink n { s.link n with isLost := true })
  | .noAnswer => (timeoutError limit, s.wait limit)

/-- Has a message answered on a connection. -/
def exchange {α : Type} (limit : Nat) (n : Nat) (ask : Server → Except Failure α × Server)
    (s : State) : Except SqlError α × State :=
  match s.ready n with
  | .error e => (.error e, s)
  | .ok () =>
    let (r, server) := ask s.server
    let s := { s with server }
    match r with
    | .ok a => (.ok a, s)
    | .error f =>
      let (e, s) := s.fail limit n f
      (.error e, s)

/-- Sends a query or an execution. -/
def send (limit : Nat) (n : Nat) (m : Message) (s : State) : Except SqlError Effect × State :=
  s.exchange limit n (·.run m)

/-- Closes statements on the server. -/
def closeOnServer (s : State) (closed : Option ServerStatement) : State :=
  match closed with
  | some statement => { s with server := s.server.receive (.closeStatement statement.sql) }
  | none => s

end State

namespace Pool

variable (p : Pool)

/-- The error that a pool has no connection to give. -/
def acquireError (what : String) : Error := .connectionRetrieve s!"{p.name} - {what}" none

/-- Waits in vain for a connection. -/
def acquireLate (s : State) : Except Error (Option Nat) × State :=
  let limit := p.settings.connectionTimeout
  (.error (p.acquireError s!"Connection is not available, request timed out after {limit}ms."),
    s.wait limit)

/-- Takes a connection, which logs in.  There are no more of them at a time
than the settings allow. -/
def acquire (s : State) : Except Error (Option Nat) × State :=
  if s.isClosed then (.error (p.acquireError "pool has been closed"), s)
  else if p.settings.maxPoolSize ≤ s.openCount then p.acquireLate s
  else match s.server.greeting with
    | .silent => p.acquireLate s
    | .absent | .refusing _ => (.error (p.acquireError "cannot open a connection"), s)
    | .accepting =>
      (.ok (some s.links.length),
        { s with
          links := s.links ++ [{ since := s.clock }]
          server := s.server.receive (.login p.user p.hasPassword p.schema) })

/-- The statement of a SQL text without names on a connection: one that is
kept, of which the server need not be told, or a new one. -/
def statementOf (n : Nat) (sql : String) (s : State) : Except SqlError ServerStatement × State :=
  match (s.link n).cache.find? sql with
  | some (statement, cache) => (.ok statement, s.setLink n { s.link n with cache })
  | none =>
    match s.exchange p.settings.socketTimeout n (·.prepare sql) with
    | (.error e, s) => (.error e, s)
    | (.ok columns, s) =>
      let l := s.link n
      let statement := ⟨l.prepared, sql, columns⟩
      let (old, cache) := l.cache.insert p.settings.cacheSize statement
      (.ok statement, (s.setLink n { l with cache, prepared := l.prepared + 1 }).closeOnServer old)

/-- Prepares a statement on a connection that was not given back.  The text is
looked at before the connection is. -/
def prepare (n : Nat) (sql : String) (returnsKeys : Bool) (s : State) :
    Except SqlError Prepared × State :=
  if !(s.link n).isOpen then (.error closedError, s)
  else match Placeholders.positional? sql with
    | none => (.error mixedError, s)
    | some known =>
      let (r, s) := p.statementOf n known s
      (r.map fun onServer =>
        { link := n, sql, onServer, inputs := .ofCount onServer.parameterCount, returnsKeys },
        s)

/-- Gives a connection back.  One that was held for too long is told of; it was
held a little longer than the clock says. -/
def release (n : Nat) (s : State) : (Except SqlError Unit × List Warning) × Nat × State :=
  let l := s.link n
  let warnings :=
    if l.isOpen && p.settings.leakThreshold ≤ s.clock - l.since then [.heldTooLong p.name] else []
  ((.ok (), warnings), n, s.setLink n { l with isOpen := false })

/-- The response to a call on a plain statement. -/
def answer : (c : StatementCall) → Statement → State → c.Response × Statement × State
  | .query sql, st, s =>
    let (r, s) := s.send p.settings.socketTimeout st.link (.query sql)
    (r.map fun e => resultSet (if e.rows.isEmpty then [] else e.columns) e.rows, st, s)
  | .update sql returnsKeys, st, s =>
    match s.send p.settings.socketTimeout st.link (.query sql) with
    | (.ok e, s) =>
      (.ok e.affected, { st with lastInsertId := if returnsKeys then e.lastInsertId else none }, s)
    | (.error e, s) => (.error e, st, s)
  | .generatedKeys, st, s => (.ok (generatedKeys st.lastInsertId), st, s)
  | .close, st, s => (.ok (), st, s)

/-- Takes the values of a prepared statement's slots and executes it. -/
def executeOnce (st : Prepared) (s : State) : Except SqlError Effect × Prepared × State :=
  match st.inputs.take Datum.ofParameter with
  | (.error e, inputs) => (.error e, { st with inputs }, s)
  | (.ok params, inputs) =>
    let (r, s) := s.send p.settings.socketTimeout st.link (.execute st.onServer.sql params)
    (r, { st with inputs }, s)

/-- Executes a statement once for each entry of a batch, up to the first
failure, and gives the counts. -/
def executeAll (n : Nat) (sql : String) :
    List (List Datum) → State → Except SqlError (List UInt64) × State
  | [], s => (.ok [], s)
  | entry :: rest, s =>
    match s.send p.settings.socketTimeout n (.execute sql entry) with
    | (.error e, s) => (.error e, s)
    | (.ok e, s) =>
      let (r, s) := executeAll n sql rest s
      (r.map (e.affected :: ·), s)

/-- Executes the entries of a batch. -/
def executeBatch (st : Prepared) (s : State) : Except SqlError (List UInt64) × Prepared × State :=
  let (batch, inputs) := st.inputs.takeBatch
  let st := { st with inputs }
  if (s.link st.link).isOpen then
    let (r, s) := p.executeAll st.link st.onServer.sql batch s
    (r, st, s)
  else (.error closedError, st, s)

/-- Closes a prepared statement, unless it is to be kept or its connection was
given back. -/
def closePrepared (st : Prepared) (s : State) : Except SqlError Unit × State :=
  if p.settings.keepsStatement st.sql || !(s.link st.link).isOpen then (.ok (), s)
  else
    let l := s.link st.link
    let s := s.setLink st.link { l with cache := l.cache.remove st.onServer.id }
    if l.isLost then (.error lostError, s) else (.ok (), s.closeOnServer (some st.onServer))

/-- The response to a call on a prepared statement. -/
def answerPrepared : (c : PreparedCall) → Prepared → State → c.Response × Prepared × State
  | .binding c, st, s =>
    let (r, inputs) := Inputs.answer Datum.ofParameter true st.sql c st.inputs
    (r, { st with inputs }, s)
  | .query, st, s =>
    let (r, st, s) := p.executeOnce st s
    (r.map fun e => resultSet st.onServer.columns e.rows, st, s)
  | .update, st, s =>
    match p.executeOnce st s with
    | (.ok e, st, s) =>
      (.ok e.affected,
        { st with lastInsertId := if st.returnsKeys then e.lastInsertId else none }, s)
    | (.error e, st, s) => (.error e, st, s)
  | .batch, st, s => p.executeBatch st s
  | .generatedKeys, st, s => (.ok (generatedKeys st.lastInsertId), st, s)
  | .close, st, s =>
    let (r, s) := p.closePrepared st s
    (r, st, s)

end Pool

/-- The source of a pool. -/
@[reducible] def source (p : Pool) : Driver where
  State := State
  Connection := Nat
  Statement := Statement
  Prepared := Prepared
  acquire := p.acquire
  shutDown s := (.ok (), { s with isClosed := true })
  createStatement n s := (.ok { link := n }, s)
  prepare := p.prepare
  supportsBatch _ := true
  release := p.release
  answer := p.answer
  answerPrepared := p.answerPrepared

end SqlAccess.MySql
