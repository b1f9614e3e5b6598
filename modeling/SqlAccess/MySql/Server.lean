import SqlAccess.Error
import SqlAccess.MySql.Datum

/-!
# A scripted server

The peer of the client's connections, for tests: it takes what it replies from
one script, whichever connection asks, and remembers what reached it.  With
nothing left in the script, everything succeeds and affects nothing.

* `Message` — what reaches the server;
* `Response` — an entry of the script;
* `Server.prepare` and `Server.run` — the answers, or the failures to answer.
-/

namespace SqlAccess.MySql

/-- What reaches a server. -/
inductive Message where
  | login (user : String) (sentPassword : Bool) (schema : Option String)
  | query (sql : String)
  | prepare (sql : String)
  | execute (sql : String) (params : List Datum)
  /-- A prepared statement is closed; there is no answer to it. -/
  | closeStatement (sql : String)
  deriving DecidableEq

/-- The SQL text of the statement that a message closes, if it closes one. -/
def Message.closed? : Message → Option String
  | closeStatement sql => some sql
  | _ => none

/-- An error that a server reports. -/
structure ServerError where
  code : UInt16
  state : String
  message : String
  deriving DecidableEq

/-- A server's error as a driver's failure. -/
def ServerError.toSqlError (e : ServerError) : SqlError where
  message := e.message
  code := some e.code.toNat
  state := some e.state

/-- How a server greets a connection. -/
inductive Greeting where
  /-- It accepts every login. -/
  | accepting
  /-- Nobody is there. -/
  | absent
  | silent
  | refusing (e : ServerError)
  deriving DecidableEq

/-- An entry of a server's script. -/
inductive Response where
  /-- Rows.  The columns told when a statement is prepared may be others. -/
  | rows (columns : List ColumnInfo) (rows : List (List Datum))
      (prepared : Option (List ColumnInfo))
  /-- A success without rows; no key was generated if the last one is 0. -/
  | ok (affected lastInsertId : UInt64)
  | error (e : ServerError)
  | hangUp
  | silence
  /-- The next statement is not prepared. -/
  | prepareError (e : ServerError)
  /-- There is no answer to the next preparation. -/
  | prepareSilence
  deriving DecidableEq

/-- A server. -/
structure Server where
  greeting : Greeting := .accepting
  responses : List Response := []
  received : List Message := []

/-- What a command that succeeded brought. -/
structure Effect where
  columns : List ColumnInfo := []
  rows : List (List Datum) := []
  affected : UInt64 := 0
  lastInsertId : Option UInt64 := none

/-- Why a command brought no effect. -/
inductive Failure where
  | reported (e : ServerError)
  | hungUp
  | noAnswer

namespace Server

/-- The SQL texts of the statements that were closed, in order. -/
def closedStatements (s : Server) : List String := s.received.filterMap Message.closed?

/-- Remembers a message. -/
def receive (s : Server) (m : Message) : Server := { s with received := s.received ++ [m] }

/-- The effect of an entry, if it is one of success.  What concerns
preparations is an empty success elsewhere. -/
def effectOf : Response → Except Failure Effect
  | .rows columns rows _ => .ok { columns, rows }
  | .ok affected id => .ok { affected, lastInsertId := if id = 0 then none else some id }
  | .error e => .error (.reported e)
  | .hangUp => .error .hungUp
  | .silence => .error .noAnswer
  | .prepareError _ | .prepareSilence => .ok {}

/-- Runs a query or a prepared statement by the next entry. -/
def run (s : Server) (m : Message) : Except Failure Effect × Server :=
  let s := s.receive m
  match s.responses with
  | [] => (.ok {}, s)
  | r :: rest => (effectOf r, { s with responses := rest })

/-- The columns a server tells at a preparation, by its next entry. -/
def columnsAhead : List Response → List ColumnInfo
  | .rows columns _ prepared :: _ => prepared.getD columns
  | _ => []

/-- Prepares a statement, whose columns are told.  Only entries for
preparations are taken. -/
def prepare (s : Server) (sql : String) : Except Failure (List ColumnInfo) × Server :=
  let s := s.receive (.prepare sql)
  match s.responses with
  | .prepareError e :: rest => (.error (.reported e), { s with responses := rest })
  | .prepareSilence :: rest => (.error .noAnswer, { s with responses := rest })
  | responses => (.ok (columnsAhead responses), s)

end Server

end SqlAccess.MySql
