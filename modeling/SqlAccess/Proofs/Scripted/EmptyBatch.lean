import SqlAccess.Proofs.Scripted.PlainAndPrepared
import SqlAccess.Proofs.Scripted.TypedBatch
import SqlAccess.Proofs.Scripted.Unavailable

/-!
# Batches without entries

A batch over an empty list of rows or of items is answered at once.  A batch
setter without entries is not: its batch is run like any other, on a statement
and a connection of its own, and takes a response of the script.

* `State.afterTurn` and `executeSql_of_available` — what an operation with one
  statement does to the whole state of the source;
* `RunsEmpty` — what a batch setter without entries comes to;
* `empty_batches` — **two of the three operations do nothing without entries, and
  the third never does nothing**.
-/

namespace SqlAccess.Scripted

variable {α : Type} {sql : String} {w : World source}

/-- The source after one connection and one statement were opened and closed. -/
def State.afterTurn (s : State) : State :=
  { s with connections := s.connections.turnover 1, statements := s.statements.turnover 1 }

theorem State.afterTurn_ne (s : State) : s.afterTurn ≠ s := by
  intro h
  have hopened : s.connections.opened + 1 = s.connections.opened :=
    congrArg (fun t : State => t.connections.opened) h
  omega

/-- What an operation that prepares its statement from a SQL text gives, and what
it does to the source. -/
theorem executeSql_of_available (hopen : w.state.isClosed = false)
    (havailable : w.state.availability = .available) (hsql : ¬ Text.IsBlankText sql)
    (action : PreparedAction α) :
    let done := action.program.run answerTogether (preparedFrom w.state sql, w.state.atWork)
    let after := Database.executeSql (D := source) sql action w
    after.1 = (done.1.mapError
      (Error.inOperation Database.preparedContext (some sql))).map some ∧
    after.2.state = (State.closeConnection (done.2.2.closeStatement done.2.1.isClosed).2
      { supportsBatch := w.state.supportsBatch }).2 := by
  simp only [Database.executeSql, ofSql_eq_creatorOf hsql]
  exact executePrepared_of_available hopen havailable sql false action

/-- With support for batches, a batch without entries is executed as one. -/
theorem run_batchAction_nil (hb : w.state.supportsBatch = true) (sql : String) (s : State) :
    let done := (Database.batchAction []).program.run answerTogether (preparedFrom w.state sql, s)
    done.1 = (s.runBatch sql []).1.mapError Error.driver ∧
      done.2.1.isClosed = false ∧ done.2.2 = (s.runBatch sql []).2 := by
  have hsupport : (preparedFrom w.state sql).supportsBatch = true := hb
  rw [run_batchAction hsupport]
  exact ⟨rfl, rfl, rfl⟩

/-- Nothing but two tallies changes besides what the work itself changed. -/
theorem State.closed_of_atWork {s t : State} (c : Connection) (hc : c.isClosed = false)
    (hconnections : t.connections = s.atWork.connections)
    (hstatements : t.statements = s.atWork.statements) :
    ((t.closeStatement false).2.closeConnection c).2 =
      { t with connections := s.connections.turnover 1, statements := s.statements.turnover 1 } := by
  simp only [closeConnection, closeStatement, hc, hconnections, hstatements]
  rfl

/-- What a batch setter without entries comes to.  The first three cases are
those of every operation, the others end with one connection and one statement
more than before. -/
structure RunsEmpty (sql : String) (w : World source)
    (after : Except Error (Option (List UInt64)) × World source) : Prop where
  closed : w.state.isClosed = true → after = (.error State.closedError, w)
  failing : w.state.isClosed = false → ∀ message, w.state.availability = .failing message →
    after = (.error (.connectionRetrieve message none), w)
  empty : w.state.isClosed = false → w.state.availability = .empty →
    after = (.ok none, { w with warnings := w.warnings ++ [.noConnection] })
  unsupported : w.state.isClosed = false → w.state.availability = .available →
    w.state.supportsBatch = false →
      after.1 = .error Database.batchUnsupported ∧ after.2.state = w.state.afterTurn
  /-- The batch is recorded, and the next response is its result. -/
  executed : w.state.isClosed = false → w.state.availability = .available →
    w.state.supportsBatch = true →
      after.1 = (((w.state.runBatch sql []).1.mapError Error.driver).mapError
        (Error.inOperation Database.preparedContext (some sql))).map some ∧
      after.2.state = (w.state.run { sql, kind := .batch }).2.afterTurn

/-- Whatever the source, this is never the answer of a batch that is empty. -/
theorem RunsEmpty.ne_noop {after : Except Error (Option (List UInt64)) × World source}
    (h : RunsEmpty sql w after) : ¬ (after.1 = .ok (some []) ∧ after.2.state = w.state) := by
  rintro ⟨hresult, hstate⟩
  cases hopen : w.state.isClosed with
  | true =>
      rw [h.closed hopen] at hresult
      cases hresult
  | false =>
      cases havailable : w.state.availability with
      | empty =>
          rw [h.empty hopen havailable] at hresult
          cases hresult
      | failing message =>
          rw [h.failing hopen message havailable] at hresult
          cases hresult
      | available =>
          cases hb : w.state.supportsBatch with
          | false =>
              rw [(h.unsupported hopen havailable hb).2] at hstate
              exact w.state.afterTurn_ne hstate
          | true =>
              rw [(h.executed hopen havailable hb).2] at hstate
              have hrecorded := congrArg (fun s : State => s.recorded.length) hstate
              simp [State.afterTurn, State.run] at hrecorded

/-- Every batch setter without entries comes to that. -/
theorem runsEmpty_batchUpdate (hsql : ¬ Text.IsBlankText sql) (w : World source) {b : BatchSetter}
    (hb : b.size = 0) : RunsEmpty sql w (Database.batchUpdate sql b w) := by
  have hpasses : (Operation.batchUpdate (D := source) sql b).PassesChecks :=
    ⟨textPasses_some.mpr hsql, trivial⟩
  have hunserved (hnone : w.state.GivesNoConnection) :
      Unserved (Operation.batchUpdate (D := source) sql b) w :=
    operation_unserved _ hnone
  have hentries : b.entries = [] := by rw [BatchSetter.entries, hb, List.range_zero, List.map_nil]
  constructor
  case closed =>
    intro hclosed
    exact (hunserved (.inl hclosed)).closed hpasses hclosed
  case failing =>
    intro hopen message hfailing
    have hnone : w.state.availability ≠ .available := by simp [hfailing]
    exact (hunserved (.inr hnone)).failing hpasses hopen message hfailing
  case empty =>
    intro hopen hempty
    have hnone : w.state.availability ≠ .available := by simp [hempty]
    exact (hunserved (.inr hnone)).empty hpasses hopen hempty
  case unsupported =>
    intro hopen havailable hsupport
    obtain ⟨hresult, hstate⟩ :=
      executeSql_of_available hopen havailable hsql (Database.batchAction [])
    have hst : (preparedFrom w.state sql).supportsBatch = false := hsupport
    rw [(run_batchAction_unsupported hst [] _).1] at hresult hstate
    rw [Database.batchUpdate, hentries]
    exact ⟨hresult, hstate.trans (State.closed_of_atWork _ rfl rfl rfl)⟩
  case executed =>
    intro hopen havailable hsupport
    obtain ⟨hresult, hstate⟩ :=
      executeSql_of_available hopen havailable hsql (Database.batchAction [])
    obtain ⟨hdone, hclosed, hrun⟩ := run_batchAction_nil hsupport sql w.state.atWork
    have hresponses : w.state.atWork.responses = w.state.responses := rfl
    rw [hdone, runBatch_fst_congr hresponses] at hresult
    rw [hclosed, hrun, State.runBatch_state] at hstate
    rw [Database.batchUpdate, hentries]
    exact ⟨hresult, hstate.trans (State.closed_of_atWork _ rfl rfl rfl)⟩

/-- **Without entries, two of the batch operations do nothing and the third never
does nothing.** -/
theorem empty_batches {sql : String} (hsql : ¬ Text.IsBlankText sql) (w : World source) :
    (∀ types : List SqlType, Database.batchUpdateTyped sql [] types w = (.ok (some []), w)) ∧
    (∀ (ι : Type) (setter : ι → Setter),
      Database.batchUpdateWith sql [] setter w = (.ok (some []), w)) ∧
    ∀ b : BatchSetter, b.size = 0 →
      RunsEmpty sql w (Database.batchUpdate sql b w) ∧
        ¬ ((Database.batchUpdate sql b w).1 = .ok (some []) ∧
          (Database.batchUpdate sql b w).2.state = w.state) := by
  refine ⟨fun types => rfl, fun ι setter => ?_, fun b hb => ?_⟩
  · simp only [Database.batchUpdateWith, ofSql_eq_creatorOf hsql]
    rfl
  · have hruns := runsEmpty_batchUpdate hsql w hb
    exact ⟨hruns, hruns.ne_noop⟩

/-- Where the script has no response, a batch setter without entries gives what the
others give, but after a batch that was executed. -/
theorem empty_batches_without_response :
    let w : World source := ⟨{}, []⟩
    let b : BatchSetter := ⟨0, fun _ => .done (.ok ())⟩
    let after := Database.batchUpdate "DELETE FROM t WHERE id = ?" b w
    (¬ Text.IsBlankText "DELETE FROM t WHERE id = ?" ∧ b.size = 0) ∧
      Database.batchUpdateTyped "DELETE FROM t WHERE id = ?" [] [.integer] w =
        (.ok (some []), w) ∧
      RunsEmpty "DELETE FROM t WHERE id = ?" w after ∧
      after.1 = .ok (some []) ∧
      after.2.state.recorded = [{ sql := "DELETE FROM t WHERE id = ?", kind := .batch }] := by
  intro w b after
  have hsql : ¬ Text.IsBlankText "DELETE FROM t WHERE id = ?" := by decide
  obtain ⟨htyped, _, hsetter⟩ := empty_batches hsql w
  have hruns : RunsEmpty "DELETE FROM t WHERE id = ?" w after := (hsetter b rfl).1
  obtain ⟨hresult, hstate⟩ := hruns.executed rfl rfl rfl
  exact ⟨⟨hsql, rfl⟩, htyped [.integer], hruns, hresult, by rw [hstate]; rfl⟩

/-- Such a batch takes the response that is meant for the next one. -/
theorem empty_setter_takes_response :
    let w : World source := ⟨{ responses := [.batch [7]] }, []⟩
    let b : BatchSetter := ⟨0, fun _ => .done (.ok ())⟩
    let after := Database.batchUpdate "DELETE FROM t WHERE id = ?" b w
    ¬ Text.IsBlankText "DELETE FROM t WHERE id = ?" ∧ b.size = 0 ∧
      after.1 = .ok (some [7]) ∧ after.2.state.responses = [] ∧
      after.2.state.connections = ⟨1, 1⟩ ∧ after ≠ (.ok (some []), w) := by
  intro w b after
  have hresponses : after.2.state.responses = [] := rfl
  refine ⟨by decide, rfl, rfl, hresponses, rfl, ?_⟩
  intro hnoop
  rw [hnoop] at hresponses
  cases hresponses

end SqlAccess.Scripted
