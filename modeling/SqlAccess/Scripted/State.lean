import SqlAccess.Result.Basic
import SqlAccess.Parameter

/-!
# The state of a scripted source

A scripted source stands in for a database in tests.  Executions take scripted
responses in order and are recorded.  Without a response left, a query returns
no rows, an update affects nothing and a batch reports one row per entry.

* `Response` and `Execution` — what is scripted and what is recorded;
* `State` — everything the connections of a source share;
* `State.run` — one execution: it is recorded, and the next response is taken.
-/

namespace SqlAccess.Scripted

/-- A scripted response. -/
inductive Response where
  | rows (r : ResultSet)
  | update (affected : UInt64) (generatedKey : Option Value)
  | batch (counts : List UInt64)
  | error (e : SqlError)
  deriving DecidableEq

/-- A response in a report. -/
def Response.describe : Response → String
  | rows r => s!"Rows({r.describe})"
  | update affected key =>
    Text.fields "Update"
      [("affected", toString affected),
        ("generated_key", Text.optionally (key.map Value.describe))]
  | batch counts =>
    let items := Text.bracketed (counts.map toString)
    s!"Batch({items})"
  | error e =>
    let content := Text.fields "SqlError"
      [("code", Text.optionally (e.code.map toString)),
        ("state", Text.optionally (e.state.map Text.quoted)),
        ("message", Text.quoted e.message)]
    s!"Error({content})"

/-- How a statement was executed. -/
inductive ExecutionKind where
  | query | update | batch
  deriving DecidableEq

/-- The name of a kind of execution. -/
def ExecutionKind.name : ExecutionKind → String
  | query => "Query"
  | update => "Update"
  | batch => "Batch"

/-- The name of a kind of execution, with its article. -/
def ExecutionKind.phrase : ExecutionKind → String
  | query => "a query"
  | update => "an update"
  | batch => "a batch"

/-- A recorded execution. -/
structure Execution where
  sql : String
  kind : ExecutionKind
  /-- The parameters in order; plain statements have none. -/
  params : List Parameter := []
  /-- The entries of a batch. -/
  batch : List (List Parameter) := []
  deriving DecidableEq

/-- Whether a source has connections to give. -/
inductive Availability where
  | available
  | empty
  | failing (message : String)
  deriving DecidableEq

/-- How many were opened and closed. -/
structure Tally where
  opened : Nat := 0
  closed : Nat := 0
  deriving DecidableEq

/-- What the connections of a source share. -/
structure State where
  responses : List Response := []
  recorded : List Execution := []
  availability : Availability := .available
  supportsBatch : Bool := true
  failsStatementClose : Bool := false
  isClosed : Bool := false
  connections : Tally := {}
  statements : Tally := {}

namespace State

/-- Records an execution and takes the next response. -/
def run (s : State) (e : Execution) : Option Response × State :=
  (s.responses.head?,
    { s with recorded := s.recorded ++ [e], responses := s.responses.drop 1 })

/-- The failure that a response is of another kind than the execution. -/
def wrongKind (r : Response) (kind : ExecutionKind) : SqlError :=
  { message := s!"scripted response {r.describe} cannot answer {kind.phrase}" }

/-- Runs a query. -/
def runQuery (s : State) (sql : String) (params : List Parameter) :
    Except SqlError ResultSet × State :=
  let (response, s) := s.run { sql, kind := .query, params }
  match response with
  | none => (.ok .empty, s)
  | some (.rows r) => (.ok r, s)
  | some (.error e) => (.error e, s)
  | some other => (.error (wrongKind other .query), s)

/-- Runs an update; with the count comes the key it generated. -/
def runUpdate (s : State) (sql : String) (params : List Parameter) :
    Except SqlError (UInt64 × Option Value) × State :=
  let (response, s) := s.run { sql, kind := .update, params }
  match response with
  | none => (.ok (0, none), s)
  | some (.update affected key) => (.ok (affected, key), s)
  | some (.error e) => (.error e, s)
  | some other => (.error (wrongKind other .update), s)

/-- Runs a batch. -/
def runBatch (s : State) (sql : String) (batch : List (List Parameter)) :
    Except SqlError (List UInt64) × State :=
  let (response, s) := s.run { sql, kind := .batch, batch }
  match response with
  | none => (.ok (List.replicate batch.length 1), s)
  | some (.batch counts) => (.ok counts, s)
  | some (.error e) => (.error e, s)
  | some other => (.error (wrongKind other .batch), s)

/-- A query does to the state what its execution does. -/
theorem runQuery_state (s : State) (sql : String) (params : List Parameter) :
    (s.runQuery sql params).2 = (s.run { sql, kind := .query, params }).2 := by
  unfold runQuery
  rcases s.run { sql, kind := .query, params } with ⟨_ | _ | _ | _ | _, s'⟩ <;> rfl

/-- An update does to the state what its execution does. -/
theorem runUpdate_state (s : State) (sql : String) (params : List Parameter) :
    (s.runUpdate sql params).2 = (s.run { sql, kind := .update, params }).2 := by
  unfold runUpdate
  rcases s.run { sql, kind := .update, params } with ⟨_ | _ | _ | _ | _, s'⟩ <;> rfl

/-- A batch does to the state what its execution does. -/
theorem runBatch_state (s : State) (sql : String) (batch : List (List Parameter)) :
    (s.runBatch sql batch).2 = (s.run { sql, kind := .batch, batch }).2 := by
  unfold runBatch
  rcases s.run { sql, kind := .batch, batch } with ⟨_ | _ | _ | _ | _, s'⟩ <;> rfl

/-- The last recorded execution. -/
def last? (s : State) : Option Execution := s.recorded.getLast?

/-- Whether every statement and every connection that was opened was closed. -/
def isReleased (s : State) : Bool :=
  s.statements.opened == s.statements.closed && s.connections.opened == s.connections.closed

/-- Whether the last recorded execution has the given SQL text and
parameters. -/
def lastMatches (s : State) (sql : String) (params : List Parameter) : Bool :=
  match s.last? with
  | none => false
  | some e =>
    e.sql == sql && e.params.length == params.length &&
      (e.params.zip params).all fun (p, q) => p.sameAs q

end State

end SqlAccess.Scripted
