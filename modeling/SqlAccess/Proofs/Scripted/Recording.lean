import SqlAccess.Proofs.Driver.Holdings
import SqlAccess.Proofs.Statement.Alike

/-!
# What is recorded

Which calls of an interleaving execute something is known from the log: a plain
statement does with every query and update, a prepared one when no parameter is
missing, and with every batch.  Each execution is recorded and takes the next
response of the script, also when it cannot use it.

* `executions` — the executions of a log, each with what its call was told;
* `Records` — what one call does to the script and to the recorded executions;
* `FollowsScript.step` — the script is followed call by call.
-/

namespace SqlAccess.Scripted

open CallLog (callsOn textOf)

/-! ## What is executed, by the log -/

/-- What an execution is told when it takes a response of the script, or when
none is left. -/
def Execution.reply (e : Execution) : Option Response → Except SqlError Reply
  | none =>
    match e.kind with
    | .query => .ok (.rows .empty)
    | .update => .ok (.count 0)
    | .batch => .ok (.counts (List.replicate e.batch.length 1))
  | some (.error err) => .error err
  | some r =>
    match e.kind, r with
    | .query, .rows rows => .ok (.rows rows)
    | .update, .update affected _ => .ok (.count affected)
    | .batch, .batch counts => .ok (.counts counts)
    | kind, r => .error (State.wrongKind r kind)

/-- The execution that a call on a plain statement makes, if it makes one. -/
def plainExecution? : StatementCall → Option Execution
  | .query sql => some { sql, kind := .query }
  | .update sql _ => some { sql, kind := .update }
  | _ => none

/-- The execution that a call on a statement prepared from `sql` makes after
others, if it makes one. -/
def preparedExecution? (sql : String) (calls : List PreparedCall) (c : PreparedCall) :
    Option Execution :=
  let n := placeholders sql
  match c, c.executionKind?, Inputs.missing? n calls with
  | .batch, _, _ => some { sql, kind := .batch, batch := Inputs.entries n calls }
  | _, some kind, none => some { sql, kind, params := Inputs.pending n calls }
  | _, _, _ => none

/-- The execution that a call makes after those of a log, if it makes one. -/
def execution? (earlier : CallLog) : HeldCall → Option Execution
  | .ask _ c => plainExecution? c
  | .askPrepared h c => preparedExecution? (textOf earlier h) (callsOn earlier h) c
  | _ => none

/-- The executions of a log in order, each with what its call told. -/
def executions : CallLog → List (Execution × HeldReply)
  | [] => []
  | (c, t) :: earlier => executions earlier ++ (execution? earlier c).toList.map fun e => (e, t)

theorem executions_of_none {log : CallLog} {c : HeldCall} (hc : execution? log c = none)
    (t : HeldReply) : executions ((c, t) :: log) = executions log := by
  simp [executions, hc]

/-- Every execution of a log was made by one of its calls, out of what was
called before. -/
theorem executions_made {log : CallLog} {k : Nat} {e : Execution} {t : HeldReply}
    (h : (executions log)[k]? = some (e, t)) :
    ∃ later earlier c, log = later ++ (c, t) :: earlier ∧ execution? earlier c = some e ∧
      (executions earlier).length = k := by
  induction log with
  | nil => cases h
  | cons entry log ih =>
      obtain ⟨c, t'⟩ := entry
      rw [executions] at h
      by_cases hk : k < (executions log).length
      · rw [List.getElem?_append_left hk] at h
        obtain ⟨later, earlier, c', rfl, hexecution, hlength⟩ := ih h
        exact ⟨(c, t') :: later, earlier, c', rfl, hexecution, hlength⟩
      · rw [List.getElem?_append_right (by omega)] at h
        cases hc : execution? log c with
        | none => simp [hc] at h
        | some e' =>
            simp only [hc, Option.toList_some, List.map_cons, List.map_nil,
              List.getElem?_singleton] at h
            split at h
            · rename_i hlast
              cases h
              exact ⟨[], log, c, rfl, hc, by omega⟩
            · cases h

/-! ## One call and the script -/

/-- A call that makes the execution is recorded and takes the next response,
which it is told; a call that makes none does neither. -/
def Records (execution : Option Execution) (told : Except SqlError Reply) (before after : State) :
    Prop :=
  match execution with
  | none => after.recorded = before.recorded ∧ after.responses = before.responses
  | some e =>
    after.recorded = before.recorded ++ [e] ∧ after.responses = before.responses.drop 1 ∧
      told = e.reply before.responses.head?

theorem records_run {s : State} {e : Execution} {told : Except SqlError Reply}
    (h : told = e.reply s.responses.head?) : Records (some e) told s (s.run e).2 :=
  ⟨rfl, rfl, h⟩

theorem records_runQuery (s : State) (sql : String) (params : List Parameter) :
    Records (some { sql, kind := .query, params }) ((s.runQuery sql params).1.map .rows) s
      (s.runQuery sql params).2 := by
  rw [State.runQuery_state]
  apply records_run
  simp only [State.runQuery, State.run]
  rcases s.responses.head? with _ | _ | _ | _ | _ <;> rfl

theorem records_runUpdate (s : State) (sql : String) (params : List Parameter) :
    Records (some { sql, kind := .update, params })
      ((s.runUpdate sql params).1.map fun u => .count u.1) s (s.runUpdate sql params).2 := by
  rw [State.runUpdate_state]
  apply records_run
  simp only [State.runUpdate, State.run]
  rcases s.responses.head? with _ | _ | _ | _ | _ <;> rfl

theorem records_runBatch (s : State) (sql : String) (batch : List (List Parameter)) :
    Records (some { sql, kind := .batch, batch }) ((s.runBatch sql batch).1.map .counts) s
      (s.runBatch sql batch).2 := by
  rw [State.runBatch_state]
  apply records_run
  simp only [State.runBatch, State.run]
  rcases s.responses.head? with _ | _ | _ | _ | _ <;> rfl

theorem records_closeStatement (s : State) (wasClosed : Bool) (r : Except SqlError Reply) :
    Records none r s (s.closeStatement wasClosed).2 := by
  cases wasClosed with
  | true => exact ⟨rfl, rfl⟩
  | false => exact ⟨rfl, rfl⟩

theorem records_closeConnection (s : State) (c : Connection) (r : Except SqlError Reply) :
    Records none r s (s.closeConnection c).2 := by
  unfold State.closeConnection
  split <;> exact ⟨rfl, rfl⟩

theorem Statement.records_answer (c : StatementCall) (st : Statement) (s : State) :
    Records (plainExecution? c) (c.reply (st.answer c s).1) s (st.answer c s).2.2 := by
  cases c with
  | query sql => exact records_runQuery s sql []
  | update sql returnsKeys =>
      have h := records_runUpdate s sql []
      rcases hr : s.runUpdate sql [] with ⟨_ | ⟨affected, key⟩, s'⟩
      · rw [hr] at h
        simp only [Statement.answer, hr]
        exact h
      · rw [hr] at h
        simp only [Statement.answer, hr]
        exact h
  | generatedKeys => exact ⟨rfl, rfl⟩
  | close => exact records_closeStatement s _ _

theorem Prepared.records_answer {calls : List PreparedCall} {p : Prepared}
    (hp : p.inputs = .ofHistory id (placeholders p.sql) calls) (c : PreparedCall) (s : State) :
    Records (preparedExecution? p.sql calls c) (c.reply (p.answer c s).1) s (p.answer c s).2.2 := by
  have htake : (Inputs.ofHistory id (placeholders p.sql) calls).take id = _ :=
    Inputs.take_ofHistory calls
  rw [← hp] at htake
  cases c with
  | binding c => cases c <;> exact ⟨rfl, rfl⟩
  | query =>
      -- Nothing is executed while a parameter is missing.
      cases hm : Inputs.missing? (placeholders p.sql) calls with
      | some i =>
          simp only [Prepared.answer, preparedExecution?, hm, htake]
          exact ⟨rfl, rfl⟩
      | none =>
          simp only [Prepared.answer, preparedExecution?, hm, htake, List.map_id]
          exact records_runQuery s p.sql _
  | update =>
      cases hm : Inputs.missing? (placeholders p.sql) calls with
      | some i =>
          simp only [Prepared.answer, preparedExecution?, hm, htake]
          exact ⟨rfl, rfl⟩
      | none =>
          have h := records_runUpdate s p.sql (Inputs.pending (placeholders p.sql) calls)
          simp only [Prepared.answer, preparedExecution?, hm, htake, List.map_id]
          rcases hr : s.runUpdate p.sql (Inputs.pending (placeholders p.sql) calls)
            with ⟨_ | ⟨affected, key⟩, s'⟩
          · rw [hr] at h
            exact h
          · rw [hr] at h
            exact h
  | batch =>
      have hbatch : p.inputs.batch = Inputs.entries (placeholders p.sql) calls := by
        rw [hp]
        simp [Inputs.ofHistory]
      simp only [Prepared.answer, Inputs.takeBatch, hbatch]
      exact records_runBatch s p.sql _
  | generatedKeys => exact ⟨rfl, rfl⟩
  | close => exact records_closeStatement s _ _

/-- The source has recorded the executions, each of which was told the response
of its place in the script. -/
structure FollowsScript (script : List Response) (run : List (Execution × HeldReply))
    (s : State) : Prop where
  recorded : s.recorded = run.map Prod.fst
  responses : s.responses = script.drop run.length
  replies : ∀ (k : Nat) (e : Execution) (t : HeldReply), run[k]? = some (e, t) →
    t = .reply (e.reply script[k]?)

theorem FollowsScript.still {script : List Response} {run : List (Execution × HeldReply)}
    {s s' : State} (h : FollowsScript script run s) (hrecorded : s'.recorded = s.recorded)
    (hresponses : s'.responses = s.responses) : FollowsScript script run s' where
  recorded := hrecorded.trans h.recorded
  responses := hresponses.trans h.responses
  replies := h.replies

/-- One call keeps to the script, whether it executes something or not. -/
theorem FollowsScript.step {script : List Response} {run : List (Execution × HeldReply)}
    {s s' : State} {execution : Option Execution} {r : Except SqlError Reply}
    (h : FollowsScript script run s) (hr : Records execution r s s') :
    FollowsScript script (run ++ execution.toList.map fun e => (e, .reply r)) s' := by
  cases execution with
  | none =>
      obtain ⟨hrecorded, hresponses⟩ := hr
      rw [Option.toList_none, List.map_nil, List.append_nil]
      exact h.still hrecorded hresponses
  | some e =>
      obtain ⟨hrecorded, hresponses, hreply⟩ := hr
      constructor
      case recorded => simp [hrecorded, h.recorded]
      case responses => simp [hresponses, h.responses, List.drop_drop]
      case replies =>
        intro k e' t hk
        rcases Nat.lt_trichotomy k run.length with hlt | rfl | hgt
        · rw [List.getElem?_append_left hlt] at hk
          exact h.replies k e' t hk
        · have hlast : (e, HeldReply.reply r) = (e', t) := by simpa using hk
          cases hlast
          rw [hreply, h.responses, List.head?_drop]
        · rw [List.getElem?_eq_none (by simp; omega)] at hk
          cases hk

end SqlAccess.Scripted
