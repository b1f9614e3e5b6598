import SqlAccess.Database.Update
import SqlAccess.Proofs.Database.Batch
import SqlAccess.Proofs.Scripted.Recording
import SqlAccess.Proofs.Scripted.Release
import SqlAccess.Proofs.Statement.Entries

/-!
# Typed batches

A typed batch on a scripted source is executed as a whole or not at all.  It is
executed if each of its rows makes an entry; the first row that does not
decides what it fails with, and nothing is recorded.

* `executePrepared_of_available` and `run_executePrepared` — an operation with a
  prepared statement does to the source, and to its script, what its action does;
* `run_addEntries_of_fits`, `run_addEntries_of_error` — the rows of a batch;
* `typed_batch_all_or_nothing` — **the whole operation**.
-/

namespace SqlAccess.Scripted

variable {α : Type} {n : Nat} {types : List SqlType} {rows : List (List Value)}

/-! ## Work with one prepared statement -/

/-- What answers the calls of a program with a prepared statement. -/
def answerTogether (c : PreparedCall) (x : Prepared × State) : c.Response × Prepared × State :=
  x.1.answer c x.2

/-- Work with the parameters alone leaves the source alone. -/
theorem run_bindings (p : BindingProgram α) (st : Prepared) (s : State) :
    p.onPrepared.run answerTogether (st, s) =
      let done := p.run (Inputs.answer id st.supportsBatch st.sql) st.inputs
      (done.1, ({ st with inputs := done.2 }, s)) := by
  induction p generalizing st with
  | done a => rfl
  | call c next ih => exact ih _ { st with inputs := _ }

theorem addEntries_cons (row : List Value) (rest : List Setter) :
    Database.addEntries (Setter.typed row types :: rest) =
      (addRow types row).onPrepared.andThen fun () => Database.addEntries rest := by
  rw [addRow, Program.onPrepared_andThen, Program.andThen_assoc]
  rfl

theorem run_row_of_fits {row : List Value} (h : FitsEntry n types row) {st : Prepared}
    {batch : List (List Parameter)} (hst : st.inputs = ⟨.ofCount n, batch⟩) (s : State) :
    (addRow types row).onPrepared.run answerTogether (st, s) =
      (.ok (), ({ st with inputs := ⟨.ofCount n, batch ++ [entryOf types row]⟩ }, s)) := by
  rw [run_bindings, hst, run_addRow_of_fits h, List.map_id]

/-- Rows that fit become entries, in their order. -/
theorem run_addEntries_of_fits (hrows : ∀ row ∈ rows, FitsEntry n types row) {st : Prepared}
    {batch : List (List Parameter)} (hst : st.inputs = ⟨.ofCount n, batch⟩) (s : State) :
    (Database.addEntries (rows.map (Setter.typed · types))).run answerTogether (st, s) =
      (.ok (), ({ st with inputs := ⟨.ofCount n, batch ++ rows.map (entryOf types)⟩ }, s)) := by
  induction rows generalizing st batch with
  | nil =>
      rw [List.map_nil, List.map_nil, List.append_nil, ← hst]
      rfl
  | cons row rest ih =>
      have hrow := run_row_of_fits (hrows row List.mem_cons_self) hst s
      have hrest : (Database.addEntries (rest.map (Setter.typed · types))).run answerTogether
          ({ st with inputs := ⟨.ofCount n, batch ++ [entryOf types row]⟩ }, s) = _ :=
        ih (fun row h => hrows row (List.mem_cons_of_mem _ h)) rfl
      rw [List.map_cons, addEntries_cons, Program.run_andThen_of_ok (congrArg Prod.fst hrow), hrow,
        hrest, List.append_assoc]
      rfl

/-- The first row that does not fit ends it all, and nothing is executed. -/
theorem run_addEntries_of_error {e : Error} (h : rows.findSome? (rowError? n types) = some e)
    {st : Prepared} {batch : List (List Parameter)} (hst : st.inputs = ⟨.ofCount n, batch⟩)
    (s : State) :
    ∃ st', (Database.addEntries (rows.map (Setter.typed · types))).run answerTogether (st, s) =
      (.error e, (st', s)) := by
  induction rows generalizing st batch with
  | nil => cases h
  | cons row rest ih =>
      rw [List.findSome?_cons] at h
      rw [List.map_cons, addEntries_cons]
      cases hrow : rowError? n types row with
      | some e' =>
          rw [hrow] at h
          cases h
          have hrun := run_bindings (addRow types row) st s
          rw [hst] at hrun
          have herror : ((addRow types row).run (Inputs.answer id st.supportsBatch st.sql)
              ⟨.ofCount n, batch⟩).1 = .error e := run_addRow_of_error hrow batch
          exact ⟨_, Program.run_andThen_eq_error (hrun.trans (Prod.ext herror rfl)) _⟩
      | none =>
          rw [hrow] at h
          have hfits := run_row_of_fits (rowError?_eq_none.mp hrow) hst s
          rw [Program.run_andThen_of_ok (congrArg Prod.fst hfits), hfits]
          exact ih h rfl

/-! ## The operation -/

/-- The statement that an operation prepares from a SQL text. -/
def preparedFrom (s : State) (sql : String) : Prepared :=
  Connection.prepared ⟨s.supportsBatch, false⟩ sql false

/-- The source while an operation works with its statement. -/
def State.atWork (s : State) : State :=
  State.openStatement { s with connections :=
    { s.connections with opened := s.connections.opened + 1 } }

/-- An operation with a prepared statement gives what its action gives.  After the
action the statement is closed and the connection given back. -/
theorem executePrepared_of_available {w : World source} (hopen : w.state.isClosed = false)
    (havailable : w.state.availability = .available) (sql : String) (returnsKeys : Bool)
    (action : PreparedAction α) :
    let done := action.program.run answerTogether
      (Connection.prepared ⟨w.state.supportsBatch, false⟩ sql returnsKeys, w.state.atWork)
    let after := Database.executePrepared (D := source)
      (Creator.preparer ⟨some sql, .ok (sql, returnsKeys)⟩) action w
    after.1 = (done.1.mapError
      (Error.inOperation Database.preparedContext (some sql))).map some ∧
    after.2.state = (State.closeConnection (done.2.2.closeStatement done.2.1.isClosed).2
      { supportsBatch := w.state.supportsBatch }).2 := by
  let c : Connection := { supportsBatch := w.state.supportsBatch }
  let s : State := { w.state with connections :=
    { w.state.connections with opened := w.state.connections.opened + 1 } }
  have hacquire : source.acquire w.state = (.ok (some c), s) := by
    simp [State.acquire, hopen, havailable, c, s]
  intro done after
  have hprepare : (Creator.preparer (D := source) ⟨some sql, .ok (sql, returnsKeys)⟩).prepare c
      { w with state := s } =
        (.ok (c.prepared sql returnsKeys), { w with state := s.openStatement }) :=
    rfl
  simp only [after, Database.executePrepared, Database.withConnection_of_some hacquire,
    Session.bind_apply, Session.pure_apply, Database.withPrepared_of_ok hprepare,
    Database.release_state, closePrepared_state]
  exact ⟨rfl, rfl⟩

/-- So it does to the script what its action does. -/
theorem run_executePrepared {w : World source} (hopen : w.state.isClosed = false)
    (havailable : w.state.availability = .available) (sql : String) (returnsKeys : Bool)
    (action : PreparedAction α) :
    ∃ s : State, (s.recorded = w.state.recorded ∧ s.responses = w.state.responses) ∧
      let done := action.program.run answerTogether
        (Connection.prepared ⟨w.state.supportsBatch, false⟩ sql returnsKeys, s)
      let after := Database.executePrepared (D := source)
        (Creator.preparer ⟨some sql, .ok (sql, returnsKeys)⟩) action w
      after.1 = (done.1.mapError
        (Error.inOperation Database.preparedContext (some sql))).map some ∧
      Records none (.ok .done) done.2.2 after.2.state := by
  refine ⟨w.state.atWork, ⟨rfl, rfl⟩, ?_⟩
  intro done after
  obtain ⟨hresult, hstate⟩ :=
    executePrepared_of_available hopen havailable sql returnsKeys action
  -- Closing the statement and the connection says nothing to the script.
  have hclose := records_closeStatement done.2.2 done.2.1.isClosed (.ok .done)
  have hrelease := records_closeConnection (done.2.2.closeStatement done.2.1.isClosed).2
    { supportsBatch := w.state.supportsBatch } (.ok .done)
  exact ⟨hresult, (congrArg State.recorded hstate).trans (hrelease.1.trans hclose.1),
    (congrArg State.responses hstate).trans (hrelease.2.trans hclose.2)⟩

/-- So does one that prepares its statement from a SQL text. -/
theorem run_executeSql {w : World source} (hopen : w.state.isClosed = false)
    (havailable : w.state.availability = .available) {sql : String}
    (hsql : ¬ Text.IsBlankText sql) (action : PreparedAction α) :
    ∃ s : State, (s.recorded = w.state.recorded ∧ s.responses = w.state.responses) ∧
      let done := action.program.run answerTogether (preparedFrom w.state sql, s)
      let after := Database.executeSql (D := source) sql action w
      after.1 = (done.1.mapError
        (Error.inOperation Database.preparedContext (some sql))).map some ∧
      Records none (.ok .done) done.2.2 after.2.state := by
  have hprepared : Database.executeSql (D := source) sql action = Database.executePrepared
      (Creator.preparer ⟨some sql, .ok (sql, false)⟩) action := by
    rw [Database.executeSql, Creator.ofSql, if_neg hsql]
  rw [hprepared]
  exact run_executePrepared hopen havailable sql false action

variable {st : Prepared}

/-- With support for batches the entries are added before the batch is run. -/
theorem run_batchAction (hst : st.supportsBatch = true) (setters : List Setter) (s : State) :
    (Database.batchAction setters).program.run answerTogether (st, s) =
      ((Database.addEntries setters).andThen fun () => PreparedCall.batch.perform.orFail).run
        answerTogether (st, s) := by
  obtain ⟨sql, inputs, returnsKeys, supportsBatch, key, isClosed⟩ := st
  obtain rfl : supportsBatch = true := hst
  rfl

/-- Without it, it is asked for, and nothing is called after that. -/
theorem run_batchAction_unsupported (hst : st.supportsBatch = false) (setters : List Setter)
    (s : State) :
    (Database.batchAction setters).program.run answerTogether (st, s) =
        (.error Database.batchUnsupported, (st, s)) ∧
      (Database.batchAction setters).program.calls answerTogether (st, s) =
        [PreparedCall.binding .supportsBatch] := by
  obtain ⟨sql, inputs, returnsKeys, supportsBatch, key, isClosed⟩ := st
  obtain rfl : supportsBatch = false := hst
  exact ⟨rfl, rfl⟩

/-- If all rows fit, they are run as one batch. -/
theorem run_batchAction_of_fits (hrows : ∀ row ∈ rows, FitsEntry n types row)
    (hst : st.supportsBatch = true) (hinputs : st.inputs = .ofCount n) (s : State) :
    let done := (Database.batchAction (rows.map (Setter.typed · types))).program.run
      answerTogether (st, s)
    let batch := s.runBatch st.sql (rows.map (entryOf types))
    done.1 = batch.1.mapError Error.driver ∧ done.2.2 = batch.2 := by
  have hentries := run_addEntries_of_fits hrows hinputs s
  rw [run_batchAction hst, Program.run_andThen_of_ok (congrArg Prod.fst hentries), hentries]
  exact ⟨rfl, rfl⟩

/-- If one does not, nothing is run. -/
theorem run_batchAction_of_error {e : Error} (h : rows.findSome? (rowError? n types) = some e)
    (hst : st.supportsBatch = true) (hinputs : st.inputs = .ofCount n) (s : State) :
    let done := (Database.batchAction (rows.map (Setter.typed · types))).program.run
      answerTogether (st, s)
    done.1 = .error e ∧ done.2.2 = s := by
  obtain ⟨st', hentries⟩ := run_addEntries_of_error h hinputs s
  rw [run_batchAction hst, Program.run_andThen_eq_error hentries]
  exact ⟨rfl, rfl⟩

/-- The result of a batch comes from the script alone. -/
theorem runBatch_fst_congr {s s' : State} (h : s.responses = s'.responses) (sql : String)
    (batch : List (List Parameter)) : (s.runBatch sql batch).1 = (s'.runBatch sql batch).1 := by
  simp only [State.runBatch, State.run, h]
  rcases s'.responses.head? with _ | _ | _ | _ | _ <;> rfl

/-- The rows were executed as one batch, with an entry for each row, bound from
this row alone; it took the next response. -/
structure Executed (sql : String) (rows : List (List Value)) (types : List SqlType)
    (before : State) (result : Except Error (Option (List UInt64))) (after : State) : Prop where
  recorded : after.recorded =
    before.recorded ++ [{ sql, kind := .batch, batch := rows.map (entryOf types) }]
  responses : after.responses = before.responses.drop 1
  result : result = (((before.runBatch sql (rows.map (entryOf types))).1.mapError
    Error.driver).mapError (Error.inOperation Database.preparedContext (some sql))).map some

/-- An operation failed, and nothing was executed. -/
structure NotExecuted (before : State) (e : Error)
    (result : Except Error (Option (List UInt64))) (after : State) : Prop where
  result : result = .error e
  recorded : after.recorded = before.recorded
  responses : after.responses = before.responses

section

variable {w : World source} {sql : String}

theorem executed_of_fits (hopen : w.state.isClosed = false)
    (havailable : w.state.availability = .available) (hsql : ¬ Text.IsBlankText sql)
    (hb : w.state.supportsBatch = true)
    (hfits : ∀ row ∈ rows, FitsEntry (placeholders sql) types row) :
    let after := Database.executeSql (D := source) sql
      (Database.batchAction (rows.map (Setter.typed · types))) w
    Executed sql rows types w.state after.1 after.2.state := by
  obtain ⟨s, ⟨hrecorded, hresponses⟩, hresult, hafter, hafter'⟩ :=
    run_executeSql hopen havailable hsql (Database.batchAction (rows.map (Setter.typed · types)))
  have hsupport : (preparedFrom w.state sql).supportsBatch = true := hb
  obtain ⟨hdone, hstate⟩ := run_batchAction_of_fits hfits hsupport rfl s
  rw [State.runBatch_state] at hstate
  rw [hstate] at hafter hafter'
  constructor
  case recorded => exact hafter.trans (congrArg (· ++ _) hrecorded)
  case responses => exact hafter'.trans (congrArg (List.drop 1) hresponses)
  case result =>
    rw [hresult, hdone, runBatch_fst_congr hresponses]
    rfl

theorem notExecuted_of_error (hopen : w.state.isClosed = false)
    (havailable : w.state.availability = .available) (hsql : ¬ Text.IsBlankText sql)
    (hb : w.state.supportsBatch = true) {e : Error}
    (he : rows.findSome? (rowError? (placeholders sql) types) = some e) :
    let after := Database.executeSql (D := source) sql
      (Database.batchAction (rows.map (Setter.typed · types))) w
    NotExecuted w.state (e.inOperation Database.preparedContext (some sql)) after.1
      after.2.state := by
  obtain ⟨s, ⟨hrecorded, hresponses⟩, hresult, hafter, hafter'⟩ :=
    run_executeSql hopen havailable hsql (Database.batchAction (rows.map (Setter.typed · types)))
  have hsupport : (preparedFrom w.state sql).supportsBatch = true := hb
  obtain ⟨hdone, hstate⟩ := run_batchAction_of_error he hsupport rfl s
  rw [hstate] at hafter hafter'
  constructor
  case result =>
    rw [hresult, hdone]
    rfl
  case recorded => exact hafter.trans hrecorded
  case responses => exact hafter'.trans hresponses

theorem notExecuted_unsupported (hopen : w.state.isClosed = false)
    (havailable : w.state.availability = .available) (hsql : ¬ Text.IsBlankText sql)
    (hb : w.state.supportsBatch = false) (setters : List Setter) :
    let after := Database.executeSql (D := source) sql (Database.batchAction setters) w
    NotExecuted w.state Database.batchUnsupported after.1 after.2.state := by
  obtain ⟨s, ⟨hrecorded, hresponses⟩, hresult, hafter, hafter'⟩ :=
    run_executeSql hopen havailable hsql (Database.batchAction setters)
  have hsupport : (preparedFrom w.state sql).supportsBatch = false := hb
  rw [(run_batchAction_unsupported hsupport setters s).1] at hresult hafter hafter'
  exact ⟨hresult, hafter.trans hrecorded, hafter'.trans hresponses⟩

end

/-- What an operation that is given a typed batch did to a source in the state
`before`. -/
structure AllOrNothing (sql : String) (rows : List (List Value)) (types : List SqlType)
    (before : State) (result : Except Error (Option (List UInt64))) (after : State) : Prop where
  /-- Something is executed just if every row fits. -/
  reaches : before.supportsBatch = true →
    (after.recorded ≠ before.recorded ↔ ∀ row ∈ rows, FitsEntry (placeholders sql) types row)
  executed : before.supportsBatch = true →
    (∀ row ∈ rows, FitsEntry (placeholders sql) types row) →
    Executed sql rows types before result after
  /-- The first row that does not fit decides the error. -/
  refused : before.supportsBatch = true →
    (¬ ∀ row ∈ rows, FitsEntry (placeholders sql) types row) →
    ∃ e, rows.findSome? (rowError? (placeholders sql) types) = some e ∧
      NotExecuted before (e.inOperation Database.preparedContext (some sql)) result after
  unsupported : before.supportsBatch = false →
    NotExecuted before Database.batchUnsupported result after
  /-- Support for batches is asked for, and then nothing is bound. -/
  unbound : before.supportsBatch = false → ∀ s : State,
    (Database.batchAction (BatchSetter.typed rows types).entries).program.calls answerTogether
      (preparedFrom before sql, s) = [PreparedCall.binding .supportsBatch]

/-- **A typed batch is executed as a whole or not at all.** -/
theorem typed_batch_all_or_nothing {w : World source} (hopen : w.state.isClosed = false)
    (havailable : w.state.availability = .available) {sql : String}
    (hsql : ¬ Text.IsBlankText sql) {rows : List (List Value)} (hrows : rows ≠ [])
    (types : List SqlType) :
    AllOrNothing sql rows types w.state
      (Database.batchUpdateTyped (D := source) sql rows types w).1
      (Database.batchUpdateTyped (D := source) sql rows types w).2.state := by
  have hbatch : Database.batchUpdateTyped (D := source) sql rows types =
      Database.executeSql sql (Database.batchAction (rows.map (Setter.typed · types))) := by
    have hsome : ¬ rows.isEmpty = true := by simpa using hrows
    rw [Database.batchUpdateTyped, if_neg hsome, Database.batchUpdate,
      (BatchSetter.typed_numbers rows types).entries_eq]
  have hrefused : (¬ ∀ row ∈ rows, FitsEntry (placeholders sql) types row) →
      ∃ e, rows.findSome? (rowError? (placeholders sql) types) = some e := by
    intro hno
    rw [← Option.isSome_iff_exists, ← Option.ne_none_iff_isSome]
    intro hnone
    apply hno
    intro row hrow
    exact rowError?_eq_none.mp (List.findSome?_eq_none_iff.mp hnone row hrow)
  rw [hbatch]
  constructor
  case reaches =>
    intro hb
    constructor
    · intro hreached
      by_cases hfits : ∀ row ∈ rows, FitsEntry (placeholders sql) types row
      · exact hfits
      · obtain ⟨e, he⟩ := hrefused hfits
        exact absurd (notExecuted_of_error hopen havailable hsql hb he).recorded hreached
    · intro hfits
      rw [(executed_of_fits hopen havailable hsql hb hfits).recorded]
      simp
  case executed =>
    intro hb hfits
    exact executed_of_fits hopen havailable hsql hb hfits
  case refused =>
    intro hb hno
    obtain ⟨e, he⟩ := hrefused hno
    exact ⟨e, he, notExecuted_of_error hopen havailable hsql hb he⟩
  case unsupported =>
    intro hb
    exact notExecuted_unsupported hopen havailable hsql hb _
  case unbound =>
    intro hb s
    exact (run_batchAction_unsupported hb _ s).2

/-- A row that is too short after one that fits does not take over its value:
the batch fails, and its response is left for another. -/
theorem typed_batch_short_row :
    let w : World source := ⟨{ responses := [.batch [1, 1]] }, []⟩
    let sql := "INSERT INTO t VALUES (?, ?)"
    let rows : List (List Value) := [[.int32 1, .string "a"], [.int32 2]]
    let types : List SqlType := [.integer, .varChar, .date]
    let after := Database.batchUpdateTyped (D := source) sql rows types w
    (w.state.isClosed = false ∧ w.state.availability = .available ∧ ¬ Text.IsBlankText sql ∧
        rows ≠ []) ∧
      AllOrNothing sql rows types w.state after.1 after.2.state ∧
      after.1 = .error (.dataAccess "prepared statement callback" (some sql) none
        "No value specified for parameter 2") ∧
      after.2.state.responses = [.batch [1, 1]] := by
  have hcount : placeholders "INSERT INTO t VALUES (?, ?)" = 2 := by rfl
  intro w sql rows types after
  have hsql : ¬ Text.IsBlankText sql := by decide
  have hrows : rows ≠ [] := by decide
  have hall : AllOrNothing sql rows types w.state after.1 after.2.state :=
    typed_batch_all_or_nothing rfl rfl hsql hrows types
  have hshort : ¬ ∀ row ∈ rows, FitsEntry (placeholders sql) types row := by
    intro hfits
    have hfit := hfits [.int32 2] (List.mem_cons_of_mem _ List.mem_cons_self)
    have hlength : 1 = 2 := hfit.1.trans hcount
    cases hlength
  obtain ⟨e, he, hfailed⟩ := hall.refused rfl hshort
  rw [show placeholders sql = 2 from hcount] at he
  obtain rfl : Error.driver (.noValueFor 2) = e := Option.some.inj he
  exact ⟨⟨rfl, rfl, hsql, hrows⟩, hall, hfailed.result, hfailed.responses⟩

end SqlAccess.Scripted
