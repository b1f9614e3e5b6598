import SqlAccess.Database.Lifecycle

/-!
# The stations of an operation

`Database.execute` and `Database.executePrepared` take a connection, get a
statement, work with it, close it and give the connection back.  Each lemma
here says what one of these stations does, for any driver: which stations come
after it, in which world, and which of them a failure passes over.

* `withConnection_of_error`, `_of_none`, `_of_some` — by what the source gives;
* `withStatement_of_error`, `_of_ok` and `withPrepared_of_error`, `_of_ok` — by
  whether there is a statement;
* `closeStatement_state`, `release_state` — giving back is one call, also where
  it fails.
-/

namespace SqlAccess.Database

variable {D : Driver} {α : Type} {w : World D}

/-- Without a connection there is no work, and the source's failure is told as
one. -/
theorem withConnection_of_error {work : D.Connection → Session D (Except Error α)} {e : Error}
    {s : D.State} (h : D.acquire w.state = (.error e, s)) :
    withConnection work w = (.error e.inAcquisition, { w with state := s }) := by
  simp only [withConnection, acquire, Session.bind_apply, Session.onState, h]
  rfl

/-- If the source has no connection to give, there is no result, and a
warning. -/
theorem withConnection_of_none {work : D.Connection → Session D (Except Error α)} {s : D.State}
    (h : D.acquire w.state = (.ok none, s)) :
    withConnection work w = (.ok none, ⟨s, w.warnings ++ [.noConnection]⟩) := by
  simp only [withConnection, acquire, Session.bind_apply, Session.onState, h]
  rfl

/-- The connection is given back whatever the work gives. -/
theorem withConnection_of_some {work : D.Connection → Session D (Except Error α)}
    {c : D.Connection} {s : D.State} (h : D.acquire w.state = (.ok (some c), s)) :
    withConnection work w =
      let done := work c { w with state := s }
      (done.1.map some, (release c done.2).2) := by
  simp only [withConnection, acquire, Session.bind_apply, Session.onState, h]
  rfl

/-- Without a plain statement there is no work. -/
theorem withStatement_of_error {c : D.Connection} {action : StatementAction α} {e : SqlError}
    {s : D.State} (h : D.createStatement c w.state = (.error e, s)) :
    withStatement c action w = (.error (.driver e), { w with state := s }) := by
  simp only [withStatement, Session.bind_apply, Session.onState, h]
  rfl

/-- A plain statement is closed whatever the work with it gives. -/
theorem withStatement_of_ok {c : D.Connection} {action : StatementAction α} {st : D.Statement}
    {s : D.State} (h : D.createStatement c w.state = (.ok st, s)) :
    withStatement c action w =
      let done := Session.runOn st action.program { w with state := s }
      (done.1.1, (closeStatement done.1.2 done.2).2) := by
  simp only [withStatement, Session.bind_apply, Session.onState, h]
  rfl

/-- Without a prepared statement there is no work. -/
theorem withPrepared_of_error {c : D.Connection} {preparer : Preparer D}
    {action : PreparedAction α} {w' : World D} {e : SqlError}
    (h : preparer.prepare c w = (.error e, w')) :
    withPrepared c preparer action w = (.error (.driver e), w') := by
  simp only [withPrepared, Session.bind_apply, h]
  rfl

/-- A prepared statement is closed whatever the work with it gives. -/
theorem withPrepared_of_ok {c : D.Connection} {preparer : Preparer D}
    {action : PreparedAction α} {w' : World D} {st : D.Prepared}
    (h : preparer.prepare c w = (.ok st, w')) :
    withPrepared c preparer action w =
      let done := Session.runOnPrepared st action.program w'
      (done.1.1, (closePrepared done.1.2 done.2).2) := by
  simp only [withPrepared, Session.bind_apply, h]
  rfl

/-- Telling warnings leaves the driver alone. -/
theorem warnAll_state (warnings : List Warning) (w : World D) :
    (warnings.forM (m := Session D) Session.warn w).2.state = w.state := by
  induction warnings generalizing w with
  | nil => rfl
  | cons warning rest ih => exact ih _

/-- Closing a plain statement is one call, also where it fails. -/
theorem closeStatement_state (st : D.Statement) (w : World D) :
    (closeStatement st w).2.state = (D.answer .close st w.state).2.2 := by
  simp only [closeStatement, Session.bind_apply]
  cases (Session.runOn st StatementCall.close.perform w).1.1 with
  | ok u => rfl
  | error e => rfl

/-- Giving a connection back is one call, also where it fails. -/
theorem release_state (c : D.Connection) (w : World D) :
    (release c w).2.state = (D.release c w.state).2.2 := by
  have hwarn := warnAll_state (D.release c w.state).1.2
    { w with state := (D.release c w.state).2.2 }
  simp only [release, Session.bind_apply, Session.onState]
  cases (D.release c w.state).1.1 with
  | ok u => exact hwarn
  | error e => exact hwarn

end SqlAccess.Database
