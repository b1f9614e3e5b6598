import SqlAccess.Proofs.Database.Lifecycle
import SqlAccess.Proofs.Database.Operation
import SqlAccess.Proofs.Statement.Replies

/-!
# How failures are told

No operation gives a driver's failure as it is.  A failure to get a connection
is told as that; a failure met with a statement is told with the operation's
SQL text; every other error comes back unchanged.  Failures come up in many
places: the statement cannot be had, a call on it is refused, or the rows that
it gave cannot be read.

* `Course.Raises` — an error comes up after a connection was had;
* `Operation.sqlText` — the SQL text told with an operation's failures;
* `Operation.TellsFailures` — what is told of each of them;
* `Operation.tells_failures` — **every operation tells its failures that way**.
-/

namespace SqlAccess

variable {D : Driver} {α β γ : Type}

namespace Error

/-- A failure to get a connection is told as one. -/
theorem inAcquisition_ne_driver (e : Error) (d : SqlError) : e.inAcquisition ≠ .driver d := by
  cases e <;> exact Error.noConfusion

/-- A failure of an operation is told as one. -/
theorem inOperation_ne_driver (context : String) (sql : Option String) (e : Error)
    (d : SqlError) : e.inOperation context sql ≠ .driver d := by
  cases e <;> exact Error.noConfusion

/-- An error that no driver reported leaves an operation unchanged. -/
theorem inOperation_of_ne_driver {e : Error} (context : String) (sql : Option String)
    (h : ∀ d, e ≠ .driver d) : e.inOperation context sql = e := by
  cases e with
  | driver d => exact absurd rfl (h d)
  | _ => rfl

theorem inAcquisition_of_ne_driver {e : Error} (h : ∀ d, e ≠ .driver d) : e.inAcquisition = e := by
  cases e with
  | driver d => exact absurd rfl (h d)
  | _ => rfl

end Error

/-- The result is not a driver's failure as it is. -/
def Told (r : Except Error α) : Prop := ∀ d, r ≠ .error (.driver d)

theorem told_ok (a : α) : Told (.ok a : Except Error α) := by
  intro d h
  cases h

/-- Going on keeps a driver's failure from coming up. -/
theorem Told.bind {r : Except Error α} {f : α → Except Error β} (hr : Told r)
    (hf : ∀ a, Told (f a)) : Told (r >>= f) := by
  cases r with
  | ok a => exact hf a
  | error e =>
      intro d h
      cases h
      exact hr d rfl

theorem Told.map {r : Except Error α} (hr : Told r) (f : α → β) : Told (r.map f) := by
  cases r with
  | ok a => exact told_ok (f a)
  | error e =>
      intro d h
      cases h
      exact hr d rfl

/-- What leaves an operation is told. -/
theorem told_inOperation (context : String) (sql : Option String) (r : Except Error α) :
    Told (r.mapError (Error.inOperation context sql)) := by
  cases r with
  | ok a => exact told_ok a
  | error e =>
      intro d h
      exact e.inOperation_ne_driver context sql d (Except.error.inj h)

/-! ## What the library's actions hear -/

namespace Database

/-- A setter that a caller may bring along, or none. -/
theorem passesOn_applySetter {setter : Option Setter}
    (h : ∀ s ∈ setter, Program.PassesOn BindingCall.protocol s) :
    Program.PassesOn PreparedCall.protocol (applySetter setter) := by
  cases setter with
  | none => exact Program.passesOn_done _
  | some s => exact (h s rfl).onPrepared

/-- A setter is given no rows. -/
theorem rowless_applySetter (setter : Option Setter) :
    Program.Rowless PreparedCall.protocol (applySetter setter) := by
  cases setter with
  | none =>
      intro σ answer s rows h
      cases h
  | some s => exact Program.rowless_onPrepared s

/-- What an update gives passes on a refusal to tell the generated keys. -/
theorem passesOn_updateResult {Call : Type} {Response : Call → Type}
    {protocol : Protocol Call Response} (returnsKeys : Bool)
    {keys : Program Call Response (Except SqlError ResultSet)}
    (hkeys : Program.PassesOn protocol keys.orFail) (affected : UInt64) :
    Program.PassesOn protocol (updateResult returnsKeys keys affected) := by
  unfold updateResult
  split
  · exact hkeys.andThen fun r => Program.passesOn_done _
  · exact Program.passesOn_done _

theorem passesOn_updateAction (sql : String) (returnsKeys : Bool) :
    Program.PassesOn StatementCall.protocol (updateAction sql returnsKeys).program :=
  (Program.passesOn_perform fun _ _ => eq_error_of_map).andThen
    (passesOn_updateResult returnsKeys (Program.passesOn_perform fun _ _ => eq_error_of_map))

theorem passesOn_queryAction (sql : String) (x : Extractor α) :
    Program.PassesOn StatementCall.protocol (queryAction sql x).program :=
  (Program.passesOn_perform fun _ _ => eq_error_of_map).andThen fun _ => Program.passesOn_done _

/-- The rows of a query are the extractor's to read. -/
theorem readsRows_queryAction (sql : String) (x : Extractor α) :
    Program.ReadsRows StatementCall.protocol (fun r e => (x r.cursor).1 = .error e)
      (queryAction sql x).program :=
  Program.readsRows_perform fun _ _ => eq_ok_of_map_rows

/-- An update with a prepared statement. -/
theorem passesOn_preparedUpdateAction {setter : Option Setter}
    (h : ∀ s ∈ setter, Program.PassesOn BindingCall.protocol s) (returnsKeys : Bool) :
    Program.PassesOn PreparedCall.protocol (preparedUpdateAction setter returnsKeys).program :=
  (passesOn_applySetter h).andThen fun _ =>
    (Program.passesOn_perform fun _ _ => eq_error_of_map).andThen
      (passesOn_updateResult returnsKeys (Program.passesOn_perform fun _ _ => eq_error_of_map))

/-- The generated keys of an update are read up to the first of them. -/
theorem readsRows_preparedUpdateAction (setter : Option Setter) (returnsKeys : Bool) :
    Program.ReadsRows PreparedCall.protocol
      (fun r e => returnsKeys = true ∧ firstKey r = .error e)
      (preparedUpdateAction setter returnsKeys).program := by
  refine (rowless_applySetter setter).andThen fun _ => ?_
  have hcount : Program.Rowless PreparedCall.protocol PreparedCall.update.perform.orFail :=
    Program.rowless_perform fun _ => map_ne_ok_rows fun _ _ => Reply.noConfusion
  refine hcount.andThen fun affected => ?_
  cases returnsKeys with
  | false => exact Program.readsRows_done _
  | true =>
      have hread : Program.ReadsRows PreparedCall.protocol (fun r e => firstKey r = .error e)
          (updateResult true PreparedCall.generatedKeys.perform affected) :=
        Program.readsRows_perform fun _ _ => eq_ok_of_map_rows
      exact hread.mono fun r e h => h.2

theorem passesOn_preparedQueryAction {setter : Option Setter}
    (h : ∀ s ∈ setter, Program.PassesOn BindingCall.protocol s) (x : Extractor α) :
    Program.PassesOn PreparedCall.protocol (preparedQueryAction setter x).program :=
  (passesOn_applySetter h).andThen fun _ =>
    (Program.passesOn_perform fun _ _ => eq_error_of_map).andThen fun _ => Program.passesOn_done _

theorem readsRows_preparedQueryAction (setter : Option Setter) (x : Extractor α) :
    Program.ReadsRows PreparedCall.protocol (fun r e => (x r.cursor).1 = .error e)
      (preparedQueryAction setter x).program :=
  (rowless_applySetter setter).andThen fun _ =>
    Program.readsRows_perform fun _ _ => eq_ok_of_map_rows

theorem passesOn_addEntries {setters : List Setter}
    (h : ∀ s ∈ setters, Program.PassesOn BindingCall.protocol s) :
    Program.PassesOn PreparedCall.protocol (addEntries setters) := by
  induction setters with
  | nil => exact Program.passesOn_done _
  | cons s rest ih =>
      have hfirst : Program.PassesOn PreparedCall.protocol (Program.onPrepared s) :=
        Program.PassesOn.onPrepared (h s List.mem_cons_self)
      have hadd : Program.PassesOn PreparedCall.protocol
          (PreparedCall.binding .addBatch).perform.orFail :=
        Program.passesOn_perform fun _ _ => eq_error_of_map
      exact hfirst.andThen fun _ => hadd.andThen fun _ =>
        ih fun t ht => h t (List.mem_cons_of_mem _ ht)

theorem passesOn_batchAction {setters : List Setter}
    (h : ∀ s ∈ setters, Program.PassesOn BindingCall.protocol s) :
    Program.PassesOn PreparedCall.protocol (batchAction setters).program := by
  refine Program.passesOn_call (fun r e hr => by cases hr) (fun r => ?_)
  cases r with
  | false => exact Program.passesOn_done _
  | true =>
      exact (passesOn_addEntries h).andThen fun _ =>
        Program.passesOn_perform fun _ _ => eq_error_of_map

end Database

/-! ## Rows that a mapper cannot map -/

/-- Mapping the rows of a cursor from a number on, a mapper raises `e` at one
of them. -/
inductive RowMapper.Fails (mapper : RowMapper α) (e : Error) : Nat → Cursor → Prop where
  | here {n : Nat} {c rest : Cursor} {row : Row} (hnext : c.next? = some (row, rest))
      (he : mapper row n = .error e) : Fails mapper e n c
  | later {n : Nat} {c rest : Cursor} {row : Row} {a : α} (hnext : c.next? = some (row, rest))
      (ha : mapper row n = .ok a) (h : Fails mapper e (n + 1) rest) : Fails mapper e n c

/-- A cursor has one row less left after each of them. -/
theorem Cursor.length_remaining_of_next? {c rest : Cursor} {row : Row}
    (h : c.next? = some (row, rest)) : c.remaining.length = rest.remaining.length + 1 := by
  unfold next? at h
  split at h
  · next values hrow =>
      cases h
      have hlt := (List.getElem?_eq_some_iff.mp hrow).1
      simp only [remaining, List.length_map, List.length_drop]
      omega
  · cases h

/-- A row that cannot be mapped ends the mapping. -/
theorem RowMapper.Fails.mapRows {mapper : RowMapper α} {e : Error} {n : Nat} {c : Cursor}
    (h : mapper.Fails e n c) :
    (SqlAccess.mapRows mapper c.remaining.length n c).1 = .error e := by
  induction h with
  | here hnext he =>
      rw [Cursor.length_remaining_of_next? hnext]
      simp only [SqlAccess.mapRows, hnext, he]
  | later hnext ha _ ih =>
      rw [Cursor.length_remaining_of_next? hnext]
      simp only [SqlAccess.mapRows, hnext, ha, ih]
      rfl

/-- It ends a query that maps all rows. -/
theorem RowMapper.Fails.all {mapper : RowMapper α} {e : Error} {r : ResultSet}
    (h : mapper.Fails e 0 r.cursor) : (Database.all mapper r.cursor).1 = .error e := by
  simp only [Database.all, collect, if_pos, h.mapRows]
  rfl

/-! ## Courses -/

namespace Course

/-- The course takes a connection. -/
def Connects : Course D β → Prop
  | atOnce _ => False
  | _ => True

/-- The context told with a driver's failure. -/
def context : Course D β → String
  | atOnce _ => ""
  | plain .. => Database.statementContext
  | prepared .. => Database.preparedContext

/-- The SQL text told with a driver's failure. -/
def sql : Course D β → Option String
  | atOnce _ => none
  | plain action _ => action.sql
  | prepared preparer action _ => preparer.sql.or action.sql

/-- With connection `c`, had in world `w`, the error comes up: the statement
cannot be had, or the work with it fails. -/
inductive Raises (c : D.Connection) (w : World D) : Course D β → Error → Prop where
  | create {α : Type} {action : StatementAction α} {finish : Option α → Except Error β}
      {e : SqlError} {s : D.State} (h : D.createStatement c w.state = (.error e, s)) :
      Raises c w (.plain action finish) (.driver e)
  | act {α : Type} {action : StatementAction α} {finish : Option α → Except Error β}
      {e : Error} {st : D.Statement} {s : D.State} (h : D.createStatement c w.state = (.ok st, s))
      (he : (Session.runOn st action.program { w with state := s }).1.1 = .error e) :
      Raises c w (.plain action finish) e
  | prepare {α : Type} {preparer : Preparer D} {action : PreparedAction α}
      {finish : Option α → Except Error β} {e : SqlError} {w' : World D}
      (h : preparer.prepare c w = (.error e, w')) :
      Raises c w (.prepared preparer action finish) (.driver e)
  | actPrepared {α : Type} {preparer : Preparer D} {action : PreparedAction α}
      {finish : Option α → Except Error β} {e : Error} {st : D.Prepared} {w' : World D}
      (h : preparer.prepare c w = (.ok st, w'))
      (he : (Session.runOnPrepared st action.program w').1.1 = .error e) :
      Raises c w (.prepared preparer action finish) e

/-- With connection `c`, had in world `w`, there is a statement, and a call on
it is given this reply. -/
inductive Hears (c : D.Connection) (w : World D) (parameter : Option Nat)
    (reply : Except SqlError Reply) : Course D β → Prop where
  | plain {α : Type} {action : StatementAction α} {finish : Option α → Except Error β}
      {st : D.Statement} {s : D.State} (h : D.createStatement c w.state = (.ok st, s))
      (hears : Program.Hears StatementCall.protocol
        (fun c (s : D.Statement × D.State) => D.answer c s.1 s.2) parameter reply
        action.program (st, s)) :
      Hears c w parameter reply (.plain action finish)
  | prepared {α : Type} {preparer : Preparer D} {action : PreparedAction α}
      {finish : Option α → Except Error β} {st : D.Prepared} {w' : World D}
      (h : preparer.prepare c w = (.ok st, w'))
      (hears : Program.Hears PreparedCall.protocol
        (fun c (s : D.Prepared × D.State) => D.answerPrepared c s.1 s.2) parameter reply
        action.program (st, w'.state)) :
      Hears c w parameter reply (.prepared preparer action finish)

/-- What an operation's telling of failures needs of its course: the SQL text
is this one, refusals are passed on if `passesOn`, rows are read as `reads`
says, and nothing made of a result afterwards is a driver's failure. -/
def Tells (sql : Option String) (passesOn : Prop) (reads : ResultSet → Error → Prop) :
    Course D β → Prop
  | atOnce r => Told r
  | plain action finish =>
    action.sql = sql ∧
    (passesOn → Program.PassesOn StatementCall.protocol action.program) ∧
    Program.ReadsRows StatementCall.protocol reads action.program ∧
    ∀ a, Told (finish a)
  | prepared preparer action finish =>
    preparer.sql.or action.sql = sql ∧
    (passesOn → Program.PassesOn PreparedCall.protocol action.program) ∧
    Program.ReadsRows PreparedCall.protocol reads action.program ∧
    ∀ a, Told (finish a)

variable {w : World D} {c : D.Connection} {s : D.State} {course : Course D β}

/-- A failure to get a connection is the course's result, and nothing else is
done. -/
theorem run_of_acquire_error {e : Error} (hcourse : course.Connects)
    (h : D.acquire w.state = (.error e, s)) :
    course.run w = (.error e.inAcquisition, { w with state := s }) := by
  cases course with
  | atOnce r => exact hcourse.elim
  | plain action finish =>
      simp only [run, Session.map_apply, Database.execute, Database.withConnection_of_error h]
      rfl
  | prepared preparer action finish =>
      simp only [run, Session.map_apply, Database.executePrepared,
        Database.withConnection_of_error h]
      rfl

/-- An error that comes up with a connection is the course's result, told as
the course's. -/
theorem run_of_raises {e : Error} (hacquire : D.acquire w.state = (.ok (some c), s))
    (h : course.Raises c { w with state := s } e) :
    (course.run w).1 = .error (e.inOperation course.context course.sql) := by
  cases h with
  | create h =>
      simp only [run, Session.map_apply, Session.bind_apply, Session.pure_apply, Database.execute,
        Database.withConnection_of_some hacquire, Database.withStatement_of_error h]
      rfl
  | act h he =>
      simp only [run, Session.map_apply, Session.bind_apply, Session.pure_apply, Database.execute,
        Database.withConnection_of_some hacquire, Database.withStatement_of_ok h, he]
      rfl
  | prepare h =>
      simp only [run, Session.map_apply, Session.bind_apply, Session.pure_apply,
        Database.executePrepared, Database.withConnection_of_some hacquire,
        Database.withPrepared_of_error h]
      rfl
  | actPrepared h he =>
      simp only [run, Session.map_apply, Session.bind_apply, Session.pure_apply,
        Database.executePrepared, Database.withConnection_of_some hacquire,
        Database.withPrepared_of_ok h, he]
      rfl

end Course

/-- No driver's failure comes out of the work with a connection if the work
tells its failures. -/
theorem Database.told_withConnection {work : D.Connection → Session D (Except Error α)}
    (hwork : ∀ c w, Told (work c w).1) (w : World D) : Told (withConnection work w).1 := by
  rcases hacquire : D.acquire w.state with ⟨e | _ | c, s⟩
  · rw [withConnection_of_error hacquire]
    intro d h
    exact e.inAcquisition_ne_driver d (Except.error.inj h)
  · rw [withConnection_of_none hacquire]
    exact told_ok none
  · rw [withConnection_of_some hacquire]
    exact (hwork c { w with state := s }).map some

namespace Course

variable {w : World D} {c : D.Connection} {s : D.State} {course : Course D β}
  {sql : Option String} {passesOn : Prop} {reads : ResultSet → Error → Prop}

/-- No driver's failure is the result as it is. -/
theorem Tells.told (h : course.Tells sql passesOn reads) (w : World D) :
    Told (course.run w).1 := by
  cases course with
  | atOnce r => exact h
  | plain action finish =>
      obtain ⟨_, _, _, hfinish⟩ := h
      have hwork : Told (Database.execute (D := D) action w).1 :=
        Database.told_withConnection (fun _ _ => told_inOperation _ _ _) w
      exact hwork.bind hfinish
  | prepared preparer action finish =>
      obtain ⟨_, _, _, hfinish⟩ := h
      have hwork : Told (Database.executePrepared preparer action w).1 :=
        Database.told_withConnection (fun _ _ => told_inOperation _ _ _) w
      exact hwork.bind hfinish

/-- An error that comes up is told with the SQL text. -/
theorem Tells.sql_of_raises {e : Error} (h : course.Tells sql passesOn reads)
    (hraises : course.Raises c w e) : course.sql = sql := by
  cases hraises with
  | create _ => exact h.1
  | act _ _ => exact h.1
  | prepare _ => exact h.1
  | actPrepared _ _ => exact h.1

/-- A refusal comes up as an error. -/
theorem Tells.raises_of_refused {n : Option Nat} {e : SqlError}
    (h : course.Tells sql passesOn reads) (hpasses : passesOn)
    (hears : course.Hears c w n (.error e)) :
    ∃ told, e.ToldAs n told ∧ course.Raises c w (.driver told) := by
  cases hears with
  | plain hstatement hears =>
      obtain ⟨told, htold, hrun⟩ := h.2.1 hpasses _ _ _ n e hears
      exact ⟨told, htold, .act hstatement hrun⟩
  | prepared hstatement hears =>
      obtain ⟨told, htold, hrun⟩ := h.2.1 hpasses _ _ _ n e hears
      exact ⟨told, htold, .actPrepared hstatement hrun⟩

/-- What reading the rows raises comes up as it is. -/
theorem Tells.raises_of_read {r : ResultSet} {e : Error} (h : course.Tells sql passesOn reads)
    (hears : course.Hears c w none (.ok (.rows r))) (hread : reads r e) :
    course.Raises c w e := by
  cases hears with
  | plain hstatement hears => exact .act hstatement (h.2.2.1 _ _ _ r e hears hread)
  | prepared hstatement hears => exact .actPrepared hstatement (h.2.2.1 _ _ _ r e hears hread)

/-! ### Courses that tell -/

/-- What is made of the result afterwards must be told, too. -/
theorem Tells.andThen {f : β → Except Error γ} (h : course.Tells sql passesOn reads)
    (hf : ∀ b, Told (f b)) : (course.andThen f).Tells sql passesOn reads := by
  cases course with
  | atOnce r => exact Told.bind h hf
  | plain action finish =>
      obtain ⟨hsql, hpasses, hreads, hfinish⟩ := h
      exact ⟨hsql, hpasses, hreads, fun a => (hfinish a).bind hf⟩
  | prepared preparer action finish =>
      obtain ⟨hsql, hpasses, hreads, hfinish⟩ := h
      exact ⟨hsql, hpasses, hreads, fun a => (hfinish a).bind hf⟩

/-- If fewer errors count as raised by the rows, the course still tells. -/
theorem Tells.mono {reads' : ResultSet → Error → Prop} (h : course.Tells sql passesOn reads)
    (himp : ∀ r e, reads' r e → reads r e) : course.Tells sql passesOn reads' := by
  cases course with
  | atOnce r => exact h
  | plain action finish =>
      obtain ⟨hsql, hpasses, hreads, hfinish⟩ := h
      exact ⟨hsql, hpasses, hreads.mono himp, hfinish⟩
  | prepared preparer action finish =>
      obtain ⟨hsql, hpasses, hreads, hfinish⟩ := h
      exact ⟨hsql, hpasses, hreads.mono himp, hfinish⟩

/-- A SQL text that is blank is refused with another error; else it is what a
failure is told with. -/
theorem tells_ofSql {text : String} {returnsKeys : Bool} {next : Preparer D → Course D β}
    (h : ∀ preparer : Preparer D, preparer.sql = some text →
      (next preparer).Tells (some text) passesOn reads) :
    (ofSql text returnsKeys next).Tells (some text) passesOn reads := by
  unfold ofSql Creator.ofSql
  split
  · next e heq =>
      split at heq
      · cases heq
        intro d h
        cases h
      · cases heq
  · next creator heq =>
      split at heq
      · cases heq
      · cases heq
        exact h _ rfl

/-- An update with a prepared statement. -/
theorem tells_preparedUpdate {setter : Option Setter} {returnsKeys : Bool}
    {preparer : Preparer D} (hsql : preparer.sql = sql)
    (hsetter : passesOn → ∀ s ∈ setter, Program.PassesOn BindingCall.protocol s) :
    (preparedUpdate setter returnsKeys preparer).Tells sql passesOn
      fun r e => returnsKeys = true ∧ Database.firstKey r = .error e := by
  refine ⟨?_, fun h => ?_, ?_, told_ok⟩
  · rw [hsql]
    exact Option.or_none
  · exact Database.passesOn_preparedUpdateAction (hsetter h) returnsKeys
  · exact Database.readsRows_preparedUpdateAction setter returnsKeys

theorem tells_preparedQuery {setter : Option Setter} {x : Extractor α} {preparer : Preparer D}
    (hsql : preparer.sql = sql)
    (hsetter : passesOn → ∀ s ∈ setter, Program.PassesOn BindingCall.protocol s) :
    (preparedQuery setter x preparer).Tells sql passesOn fun r e => (x r.cursor).1 = .error e := by
  refine ⟨?_, fun h => ?_, ?_, fun a => told_ok _⟩
  · rw [hsql]
    exact Option.or_none
  · exact Database.passesOn_preparedQueryAction (hsetter h) x
  · exact Database.readsRows_preparedQueryAction setter x

/-- A query, however its arguments are given. -/
theorem tells_query (text : String) (args : Arguments) (x : Extractor α) :
    (query (D := D) text args x).Tells (some text) True fun r e => (x r.cursor).1 = .error e := by
  cases args with
  | none =>
      refine ⟨rfl, fun _ => ?_, ?_, fun a => told_ok _⟩
      · exact Database.passesOn_queryAction text x
      · exact Database.readsRows_queryAction text x
  | untyped values =>
      refine tells_ofSql fun preparer hsql => tells_preparedQuery hsql fun _ s hs => ?_
      cases hs
      exact Setter.passesOn_untyped values
  | typed values types =>
      refine tells_ofSql fun preparer hsql => tells_preparedQuery hsql fun _ s hs => ?_
      cases hs
      exact Setter.passesOn_typed values types

theorem tells_batch {setters : List Setter} (text : String)
    (h : passesOn → ∀ s ∈ setters, Program.PassesOn BindingCall.protocol s) :
    (batch (D := D) text setters).Tells (some text) passesOn fun _ _ => False := by
  refine tells_ofSql fun preparer hsql => ⟨?_, fun hp => ?_, ?_, told_ok⟩
  · rw [hsql]
    rfl
  · exact Database.passesOn_batchAction (h hp)
  · exact Program.readsRows_false _

end Course

/-- A list of another length than expected is told as such. -/
theorem told_optionalSingleResult (items : Option (List α)) :
    Told (optionalSingleResult items) := by
  intro d h
  unfold optionalSingleResult at h
  split at h <;> cases h

theorem told_singleResult (items : Option (List α)) : Told (singleResult items) := by
  refine (told_optionalSingleResult items).bind fun item => ?_
  cases item with
  | some a => exact told_ok a
  | none =>
      intro d h
      cases h

/-! ## Operations -/

namespace Operation

/-- The SQL text told with an operation's failures: the preparer's, else the
action's, if the caller brings them along. -/
def sqlText : Operation D β → Option String
  | execute action => action.sql
  | executePrepared preparer action => preparer.sql.or action.sql
  | updatePrepared preparer .. | queryPrepared preparer .. => preparer.sql
  | executeSql sql .. | update sql .. | updateWith sql .. | updateTyped sql ..
  | batchUpdate sql .. | batchUpdateTyped sql .. | batchUpdateWith sql ..
  | queryWith sql .. | query sql .. | queryOrElse sql .. | queryList sql ..
  | queryListOrElse sql .. | queryObject sql .. | queryObjectOrElse sql .. => some sql

/-- The caller's own work with the statement passes refusals on. -/
def CallerPassesOn : Operation D β → Prop
  | execute action => Program.PassesOn StatementCall.protocol action.program
  | executePrepared _ action | executeSql _ action =>
    Program.PassesOn PreparedCall.protocol action.program
  | updatePrepared _ setter _ | updateWith _ setter _ | queryPrepared _ setter _
  | queryWith _ setter _ => ∀ s ∈ setter, Program.PassesOn BindingCall.protocol s
  | batchUpdate _ setter => ∀ s ∈ setter.entries, Program.PassesOn BindingCall.protocol s
  | batchUpdateWith _ items setter =>
    ∀ s ∈ items.map setter, Program.PassesOn BindingCall.protocol s
  | _ => True

/-- Reading the rows `r` that the operation's statement gave raises `e`: the
extractor does so, the mapper at some row, or the getter of the first generated
key. -/
def ReadRaises (r : ResultSet) (e : Error) : Operation D β → Prop
  | update _ returnsKeys | updatePrepared _ _ returnsKeys | updateWith _ _ returnsKeys
  | updateTyped _ _ _ returnsKeys => returnsKeys = true ∧ Database.firstKey r = .error e
  | queryPrepared _ _ x | queryWith _ _ x | query _ _ x | queryOrElse _ _ x _ =>
    (x r.cursor).1 = .error e
  | queryList _ _ mapper | queryListOrElse _ _ mapper _ | queryObject _ _ mapper
  | queryObjectOrElse _ _ mapper _ => mapper.Fails e 0 r.cursor
  | _ => False

/-- Every operation's course tells its failures. -/
theorem course_tells (op : Operation D β) :
    op.course.Tells op.sqlText op.CallerPassesOn fun r e => op.ReadRaises r e := by
  have hlist : ∀ {α : Type} (sql : String) (args : Arguments) (mapper : RowMapper α),
      (Course.query (D := D) sql args (Database.all mapper)).Tells (some sql) True
        fun r e => mapper.Fails e 0 r.cursor :=
    fun sql args mapper => (Course.tells_query sql args _).mono fun _ _ h => h.all
  -- What passes on by itself needs nothing of the caller; `id` hands on what is the caller's.
  cases op with
  | execute action => exact ⟨rfl, id, Program.readsRows_false _, told_ok⟩
  | executePrepared preparer action => exact ⟨rfl, id, Program.readsRows_false _, told_ok⟩
  | executeSql sql action =>
      have hnext : ∀ preparer : Preparer D, preparer.sql = some sql →
          (Course.prepared preparer action .ok).Tells (some sql)
            (Program.PassesOn PreparedCall.protocol action.program) fun _ _ => False := by
        intro preparer hsql
        refine ⟨?_, id, Program.readsRows_false _, told_ok⟩
        rw [hsql]
        rfl
      exact Course.tells_ofSql hnext
  | update sql returnsKeys =>
      cases returnsKeys with
      | true =>
          refine Course.tells_ofSql fun preparer hsql => ?_
          exact Course.tells_preparedUpdate hsql fun _ s hs => by cases hs
      | false =>
          refine ⟨rfl, fun _ => Database.passesOn_updateAction sql false, ?_, told_ok⟩
          exact fun _ _ _ _ _ _ hread => Bool.noConfusion hread.1
  | updatePrepared preparer setter returnsKeys => exact Course.tells_preparedUpdate rfl id
  | updateWith sql setter returnsKeys =>
      exact Course.tells_ofSql fun preparer hsql => Course.tells_preparedUpdate hsql id
  | updateTyped sql values types returnsKeys =>
      refine Course.tells_ofSql fun preparer hsql => ?_
      refine Course.tells_preparedUpdate hsql fun _ s hs => ?_
      cases hs
      exact Setter.passesOn_typed values types
  | batchUpdate sql setter => exact Course.tells_batch sql id
  | batchUpdateTyped sql rows types =>
      simp only [course]
      split
      · exact told_ok _
      · refine Course.tells_batch sql fun _ s hs => ?_
        obtain ⟨i, _, rfl⟩ := List.mem_map.mp hs
        exact BatchSetter.passesOn_typed rows types i
  | batchUpdateWith sql items setter =>
      simp only [course]
      split
      · exact Course.tells_ofSql fun _ _ => told_ok _
      · exact Course.tells_batch sql id
  | queryPrepared preparer setter x => exact Course.tells_preparedQuery rfl id
  | queryWith sql setter x =>
      exact Course.tells_ofSql fun preparer hsql => Course.tells_preparedQuery hsql id
  | query sql args x => exact Course.tells_query sql args x
  | queryOrElse sql args x fallback =>
      exact (Course.tells_query sql args x).andThen fun _ => told_ok _
  | queryList sql args mapper => exact hlist sql args mapper
  | queryListOrElse sql args mapper fallback =>
      exact (hlist sql args mapper).andThen fun _ => told_ok _
  | queryObject sql args mapper =>
      refine (hlist sql args mapper).andThen fun items => ?_
      cases items with
      | none => exact told_ok none
      | some items => exact (told_singleResult _).map some
  | queryObjectOrElse sql args mapper fallback =>
      refine (hlist sql args mapper).andThen fun items => ?_
      exact (told_optionalSingleResult items).bind fun _ => told_ok _

/-- How an operation done in world `w` tells its failures. -/
structure TellsFailures (op : Operation D β) (w : World D) : Prop where
  /-- A driver's failure is never the result as it is. -/
  told : ∀ e, (op.run w).1 ≠ .error (.driver e)
  /-- A driver's failure to give a connection is told as that. -/
  acquire_driver : op.course.Connects → ∀ e s, D.acquire w.state = (.error (.driver e), s) →
    (op.run w).1 = .error (.connectionRetrieve e.message (some e))
  /-- Another error from the source comes back unchanged. -/
  acquire_other : op.course.Connects → ∀ e s, D.acquire w.state = (.error e, s) →
    (∀ d, e ≠ .driver d) → (op.run w).1 = .error e
  /-- A driver's failure that comes up later is told with the SQL text. -/
  raised_driver : ∀ c s, D.acquire w.state = (.ok (some c), s) →
    ∀ e, op.course.Raises c { w with state := s } (.driver e) →
      (op.run w).1 = .error (.dataAccess op.course.context op.sqlText e.code e.message)
  /-- Another error that comes up comes back unchanged. -/
  raised_other : ∀ c s, D.acquire w.state = (.ok (some c), s) →
    ∀ e, op.course.Raises c { w with state := s } e → (∀ d, e ≠ .driver d) →
      (op.run w).1 = .error e
  /-- A call that is refused comes up so, whichever it is. -/
  refused : op.CallerPassesOn → ∀ c w' n e, op.course.Hears c w' n (.error e) →
    ∃ told, e.ToldAs n told ∧ op.course.Raises c w' (.driver told)
  /-- What reading the rows raises comes up so. -/
  unreadable : ∀ c w' r e, op.course.Hears c w' none (.ok (.rows r)) → op.ReadRaises r e →
    op.course.Raises c w' e

/-- **Every operation tells its failures**: to get a connection, to get a
statement, to work with it and to read what it gave. -/
theorem tells_failures (op : Operation D β) (w : World D) : op.TellsFailures w := by
  have hcourse := op.course_tells
  have hraises : ∀ c s, D.acquire w.state = (.ok (some c), s) →
      ∀ e, op.course.Raises c { w with state := s } e →
        (op.run w).1 = .error (e.inOperation op.course.context op.sqlText) := by
    intro c s hacquire e h
    rw [run_eq_course, Course.run_of_raises hacquire h, hcourse.sql_of_raises h]
  have hacquire : op.course.Connects → ∀ e s, D.acquire w.state = (.error e, s) →
      (op.run w).1 = .error e.inAcquisition := by
    intro hconnects e s h
    rw [run_eq_course, Course.run_of_acquire_error hconnects h]
  refine ⟨?_, ?_, ?_, ?_, ?_, ?_, ?_⟩
  · rw [run_eq_course]
    exact hcourse.told w
  · intro hconnects e s h
    exact hacquire hconnects _ s h
  · intro hconnects e s h hother
    rw [hacquire hconnects e s h, Error.inAcquisition_of_ne_driver hother]
  · intro c s h e hraised
    exact hraises c s h _ hraised
  · intro c s h e hraised hother
    rw [hraises c s h e hraised, Error.inOperation_of_ne_driver _ _ hother]
  · intro hcaller c w' n e hears
    exact hcourse.raises_of_refused hcaller hears
  · intro c w' r e hears hread
    exact hcourse.raises_of_read hears hread

end Operation

end SqlAccess
