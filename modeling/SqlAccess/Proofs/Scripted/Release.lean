import SqlAccess.Proofs.Database.Lifecycle
import SqlAccess.Proofs.Database.Operation
import SqlAccess.Scripted.Source

/-!
# Nothing stays open

A scripted source counts the connections and statements it opened and those
that were closed.  After an operation as many more are closed as are open more,
whatever the operation met on its way: no connection, a refused statement, a
setter that stops, a scripted failure, an extractor that fails, a close that
fails.

* `KeepsCounters` — what work with one statement may do to the counters;
* `answer_keeps` and `runOn_keeps` — no call does more, and no run;
* `OpensItsStatement` — preparers that open the statement they give and nothing
  else;
* `session_closes_what_it_opens` — the counters after each operation of a
  session.
-/

namespace SqlAccess.Scripted

variable {α β : Type}

/-! ## Work with one statement -/

/-- The counters of `after` are those of `before`, but the statement at work
counted as closed before if `was` holds, and does now if `is` holds. -/
structure KeepsCounters (was is : Bool) (before after : State) : Prop where
  connections : after.connections = before.connections
  opened : after.statements.opened = before.statements.opened
  closed : after.statements.closed + was.toNat = before.statements.closed + is.toNat

theorem KeepsCounters.refl (b : Bool) (s : State) : KeepsCounters b b s s := ⟨rfl, rfl, rfl⟩

theorem KeepsCounters.trans {a b c : Bool} {s t u : State} (h : KeepsCounters a b s t)
    (h' : KeepsCounters b c t u) : KeepsCounters a c s u where
  connections := h'.connections.trans h.connections
  opened := h'.opened.trans h.opened
  closed := by
    have h1 := h.closed
    have h2 := h'.closed
    omega

/-- An execution is recorded, but not counted. -/
theorem State.run_keeps (s : State) (e : Execution) (b : Bool) :
    KeepsCounters b b s (s.run e).2 :=
  ⟨rfl, rfl, rfl⟩

/-- A statement is counted when it is first closed, also if closing fails. -/
theorem State.closeStatement_keeps (s : State) (wasClosed : Bool) :
    KeepsCounters wasClosed true s (s.closeStatement wasClosed).2 := by
  cases wasClosed with
  | true => exact .refl true s
  | false => exact ⟨rfl, rfl, rfl⟩

/-- No call on a plain statement does more to the counters than closing it. -/
theorem Statement.answer_keeps (c : StatementCall) (st : Statement) (s : State) :
    KeepsCounters st.isClosed (st.answer c s).2.1.isClosed s (st.answer c s).2.2 := by
  cases c with
  | query sql =>
      have h := s.run_keeps { sql, kind := .query } st.isClosed
      rw [← s.runQuery_state] at h
      exact h
  | update sql returnsKeys =>
      have h := s.run_keeps { sql, kind := .update } st.isClosed
      rw [← s.runUpdate_state] at h
      simp only [Statement.answer]
      rcases hr : s.runUpdate sql [] with ⟨_ | ⟨affected, key⟩, s'⟩
      · simpa [hr] using h
      · simpa [hr] using h
  | generatedKeys => exact .refl _ s
  | close => exact s.closeStatement_keeps st.isClosed

/-- No call on a prepared statement does more to the counters than closing
it. -/
theorem Prepared.answer_keeps (c : PreparedCall) (p : Prepared) (s : State) :
    KeepsCounters p.isClosed (p.answer c s).2.1.isClosed s (p.answer c s).2.2 := by
  cases c with
  | binding c => exact .refl _ s
  | query =>
      -- Nothing is executed while a parameter is missing.
      simp only [Prepared.answer]
      rcases p.inputs.take id with ⟨_ | params, inputs⟩
      · exact .refl _ s
      · simp only [s.runQuery_state]
        exact s.run_keeps _ _
  | update =>
      simp only [Prepared.answer]
      rcases p.inputs.take id with ⟨_ | params, inputs⟩
      · exact .refl _ s
      · have h := s.run_keeps { sql := p.sql, kind := .update, params } p.isClosed
        rw [← s.runUpdate_state] at h
        rcases hr : s.runUpdate p.sql params with ⟨_ | ⟨affected, key⟩, s'⟩
        · simpa [hr] using h
        · simpa [hr] using h
  | batch =>
      simp only [Prepared.answer, s.runBatch_state]
      exact s.run_keeps _ _
  | generatedKeys => exact .refl _ s
  | close => exact s.closeStatement_keeps p.isClosed

/-- No program does more to the counters than closing the plain statement it
works with. -/
theorem runOn_keeps (st : Statement) (p : StatementProgram α) (w : World source) :
    KeepsCounters st.isClosed (Session.runOn (D := source) st p w).1.2.isClosed w.state
      (Session.runOn (D := source) st p w).2.state :=
  p.run_rel (R := fun a b : Statement × State => KeepsCounters a.1.isClosed b.1.isClosed a.2 b.2)
    (fun a => .refl _ a.2) (fun h h' => h.trans h')
    (fun c a => a.1.answer_keeps c a.2) (st, w.state)

/-- No program does more to the counters than closing the prepared statement it
works with. -/
theorem runOnPrepared_keeps (st : Prepared) (p : PreparedProgram α) (w : World source) :
    KeepsCounters st.isClosed (Session.runOnPrepared (D := source) st p w).1.2.isClosed w.state
      (Session.runOnPrepared (D := source) st p w).2.state :=
  p.run_rel (R := fun a b : Prepared × State => KeepsCounters a.1.isClosed b.1.isClosed a.2 b.2)
    (fun a => .refl _ a.2) (fun h h' => h.trans h')
    (fun c a => a.1.answer_keeps c a.2) (st, w.state)

/-- After an operation closed its plain statement, it counts as closed. -/
theorem closeStatement_keeps (st : Statement) (w : World source) :
    KeepsCounters st.isClosed true w.state
      (Database.closeStatement (D := source) st w).2.state := by
  rw [Database.closeStatement_state]
  exact w.state.closeStatement_keeps st.isClosed

/-- Closing a prepared statement is one call, also where it fails; a failure only
asks for the SQL text. -/
theorem closePrepared_state (st : Prepared) (w : World source) :
    (Database.closePrepared (D := source) st w).2.state =
      (w.state.closeStatement st.isClosed).2 := by
  simp only [Database.closePrepared, Session.bind_apply]
  cases (Session.runOnPrepared st PreparedCall.close.perform w).1.1 with
  | ok u => rfl
  | error e => rfl

/-- After an operation closed its prepared statement, it counts as closed. -/
theorem closePrepared_keeps (st : Prepared) (w : World source) :
    KeepsCounters st.isClosed true w.state
      (Database.closePrepared (D := source) st w).2.state := by
  rw [closePrepared_state]
  exact w.state.closeStatement_keeps st.isClosed

/-! ## Whole operations -/

/-- A tally with `n` more opened and `n` more closed. -/
def Tally.turnover (t : Tally) (n : Nat) : Tally := ⟨t.opened + n, t.closed + n⟩

/-- The preparer opens the statement it gives and nothing else, and opens
nothing when it fails.  It may work with the statement before. -/
structure OpensItsStatement (preparer : Preparer source) : Prop where
  connections : ∀ c w, (preparer.prepare c w).2.state.connections = w.state.connections
  given : ∀ c w st, (preparer.prepare c w).1 = .ok st →
    (preparer.prepare c w).2.state.statements =
      ⟨w.state.statements.opened + 1, w.state.statements.closed + st.isClosed.toNat⟩
  refused : ∀ c w e, (preparer.prepare c w).1 = .error e →
    (preparer.prepare c w).2.state.statements = w.state.statements

/-- What a creator says to prepare is all that is opened. -/
theorem opensItsStatement_creator (creator : Creator) : OpensItsStatement creator.preparer := by
  obtain ⟨text, plan⟩ := creator
  cases plan with
  | error e =>
      refine ⟨fun _ _ => rfl, fun _ _ _ h => ?_, fun _ _ _ _ => rfl⟩
      cases h
  | ok plan =>
      refine ⟨fun _ _ => rfl, fun _ _ _ h => ?_, fun _ _ _ h => ?_⟩
      · cases h
        rfl
      · cases h

/-- A statement that was opened by the work and counts as closed at its end
leaves one turn in the tally. -/
theorem KeepsCounters.turnover_one {was : Bool} {before after : State} {t : Tally}
    (h : KeepsCounters was true before after)
    (hopen : before.statements = ⟨t.opened + 1, t.closed + was.toNat⟩) :
    after.statements = t.turnover 1 := by
  have hopened : after.statements.opened = t.opened + 1 := by rw [h.opened, hopen]
  have hclosed : after.statements.closed = t.closed + 1 := by
    have hcount := h.closed
    simp only [hopen, Bool.toNat_true] at hcount
    omega
  calc after.statements
      = ⟨after.statements.opened, after.statements.closed⟩ := rfl
    _ = t.turnover 1 := by rw [hopened, hclosed, Tally.turnover]

/-- What an operation did to the counters: it opened one connection and, with
it, one statement at most, and closed what it opened. -/
def Settles (before after : State) : Prop :=
  ∃ m n, n ≤ m ∧ m ≤ 1 ∧ after.connections = before.connections.turnover m ∧
    after.statements = before.statements.turnover n

theorem Settles.of_eq {before after : State} (hc : after.connections = before.connections)
    (hs : after.statements = before.statements) : Settles before after :=
  ⟨0, 0, Nat.le_refl 0, Nat.zero_le 1, hc, hs⟩

/-- Work with a plain statement opens one statement and closes it. -/
theorem withStatement_counters (c : Connection) (action : StatementAction α) (w : World source) :
    (Database.withStatement (D := source) c action w).2.state.connections = w.state.connections ∧
      (Database.withStatement (D := source) c action w).2.state.statements =
        w.state.statements.turnover 1 := by
  have hcreate : source.createStatement c w.state = (.ok {}, w.state.openStatement) := rfl
  have hrun := runOn_keeps {} action.program { w with state := w.state.openStatement }
  have h := hrun.trans (closeStatement_keeps _ _)
  rw [Database.withStatement_of_ok hcreate]
  exact ⟨h.connections, h.turnover_one rfl⟩

/-- Work with a prepared statement opens one statement and closes it, or opens
none. -/
theorem withPrepared_counters {preparer : Preparer source} (hp : OpensItsStatement preparer)
    (c : Connection) (action : PreparedAction α) (w : World source) :
    (Database.withPrepared c preparer action w).2.state.connections = w.state.connections ∧
      ∃ n, n ≤ 1 ∧ (Database.withPrepared c preparer action w).2.state.statements =
        w.state.statements.turnover n := by
  rcases hprepare : preparer.prepare c w with ⟨e | st, w'⟩
  · have hc := hp.connections c w
    have hs := hp.refused c w e (by rw [hprepare])
    rw [hprepare] at hc hs
    rw [Database.withPrepared_of_error hprepare]
    exact ⟨hc, 0, Nat.zero_le 1, hs⟩
  · have hc := hp.connections c w
    have hs := hp.given c w st (by rw [hprepare])
    rw [hprepare] at hc hs
    have hrun := runOnPrepared_keeps st action.program w'
    have h := hrun.trans (closePrepared_keeps _ _)
    rw [Database.withPrepared_of_ok hprepare]
    exact ⟨h.connections.trans hc, 1, Nat.le_refl 1, h.turnover_one hs⟩

/-- Taking a connection counts it; without one to take nothing changes. -/
theorem State.acquire_cases (s : State) :
    (∃ e, s.acquire = (.error e, s)) ∨ s.acquire = (.ok none, s) ∨
      s.acquire = (.ok (some { supportsBatch := s.supportsBatch }),
        { s with connections := { s.connections with opened := s.connections.opened + 1 } }) := by
  unfold acquire
  cases s.isClosed with
  | true => exact Or.inl ⟨_, rfl⟩
  | false =>
      cases s.availability with
      | available => exact Or.inr (Or.inr rfl)
      | empty => exact Or.inr (Or.inl rfl)
      | failing message => exact Or.inl ⟨_, rfl⟩

/-- A connection that is open counts as closed after it is given back. -/
theorem release_connections {c : Connection} (hc : c.isClosed = false) (s : State) :
    (source.release c s).2.2.connections = ⟨s.connections.opened, s.connections.closed + 1⟩ := by
  simp only [State.closeConnection, hc]
  rfl

theorem release_statements (c : Connection) (s : State) :
    (source.release c s).2.2.statements = s.statements := by
  simp only [State.closeConnection]
  split <;> rfl

/-- A connection that was taken is given back after the work. -/
theorem withConnection_settles {work : Connection → Session source (Except Error α)}
    (hwork : ∀ c w, (work c w).2.state.connections = w.state.connections ∧
      ∃ n, n ≤ 1 ∧ (work c w).2.state.statements = w.state.statements.turnover n)
    (w : World source) :
    Settles w.state (Database.withConnection (D := source) work w).2.state := by
  rcases w.state.acquire_cases with ⟨e, h⟩ | h | h
  · rw [Database.withConnection_of_error h]
    exact .of_eq rfl rfl
  · rw [Database.withConnection_of_none h]
    exact .of_eq rfl rfl
  · rw [Database.withConnection_of_some h]
    obtain ⟨hc, n, hn, hs⟩ := hwork { supportsBatch := w.state.supportsBatch } { w with
      state := { w.state with connections :=
        { w.state.connections with opened := w.state.connections.opened + 1 } } }
    refine ⟨1, n, hn, Nat.le_refl 1, ?_, ?_⟩
    · rw [Database.release_state, release_connections rfl, hc]
      rfl
    · rw [Database.release_state, release_statements]
      exact hs

/-- A course settles if its preparer, where it has one, opens just the
statement it gives. -/
theorem course_settles {course : Course source β} (hp : course.Uses OpensItsStatement)
    (w : World source) : Settles w.state (course.run w).2.state := by
  cases course with
  | atOnce r => exact .of_eq rfl rfl
  | plain action finish =>
      refine withConnection_settles (fun c w => ?_) w
      obtain ⟨hc, hs⟩ := withStatement_counters c action w
      exact ⟨hc, 1, Nat.le_refl 1, hs⟩
  | prepared preparer action finish =>
      refine withConnection_settles (fun c w => ?_) w
      exact withPrepared_counters hp c action w

/-- Every operation settles. -/
theorem operation_settles (op : Operation source β)
    (hp : ∀ preparer ∈ op.preparers, OpensItsStatement preparer) (w : World source) :
    Settles w.state (op.run w).2.state := by
  rw [op.run_eq_course]
  exact course_settles (op.course_uses opensItsStatement_creator hp) w

/-- What settles leaves nothing open that was not open before. -/
theorem Settles.isReleased {before after : State} (h : Settles before after)
    (hb : before.isReleased = true) : after.isReleased = true := by
  obtain ⟨m, n, _, _, hc, hs⟩ := h
  simp only [State.isReleased, Bool.and_eq_true, beq_iff_eq] at hb ⊢
  rw [hc, hs]
  simp only [Tally.turnover]
  omega

/-- **Nothing stays open.**  Each operation of a session closes as many
connections and as many statements as it opens, one of each at most; so what
was released before an operation is released after it, and a session that
begins released is released after each of its operations. -/
theorem session_closes_what_it_opens (ops : List (AnyOperation source)) (w : World source)
    (hown : ∀ op ∈ ops, ∀ preparer ∈ op.2.preparers, OpensItsStatement preparer) :
    (∀ step ∈ Operation.history ops w,
      (∃ m n, m ≤ 1 ∧ n ≤ 1 ∧
        step.2.state.connections =
          ⟨step.1.state.connections.opened + m, step.1.state.connections.closed + m⟩ ∧
        step.2.state.statements =
          ⟨step.1.state.statements.opened + n, step.1.state.statements.closed + n⟩) ∧
      (step.1.state.isReleased = true → step.2.state.isReleased = true)) ∧
    (w.state.isReleased = true →
      ∀ step ∈ Operation.history ops w, step.2.state.isReleased = true) := by
  have hsettles : ∀ op ∈ ops, ∀ w : World source, Settles w.state (op.2.run w).2.state :=
    fun op hop w => operation_settles op.2 (hown op hop) w
  constructor
  · intro step hstep
    have h : Settles step.1.state step.2.state :=
      Operation.history_step (P := fun v w => Settles v.state w.state) hsettles w step hstep
    refine ⟨?_, h.isReleased⟩
    obtain ⟨m, n, hn, hm, hc, hs⟩ := h
    exact ⟨m, n, hm, Nat.le_trans hn hm, hc, hs⟩
  · intro hw
    exact Operation.history_invariant (I := fun w : World source => w.state.isReleased = true)
      (fun op hop w hw => (hsettles op hop w).isReleased hw) hw

/-- A session in which the parameter of the first operation is never bound, the
second one meets a scripted failure, and no statement closes without one. -/
theorem failing_session_closes_what_it_opens :
    let unbound : Preparer source :=
      Creator.preparer ⟨none, .ok ("DELETE FROM t WHERE id = ?", true)⟩
    let ops : List (AnyOperation source) :=
      [⟨_, .updatePrepared unbound none true⟩,
        ⟨_, .queryList "SELECT id FROM t" .none (singleColumn .int64)⟩]
    let w : World source :=
      ⟨{ responses := [.error { message := "lock timeout" }], failsStatementClose := true }, []⟩
    (∀ op ∈ ops, ∀ preparer ∈ op.2.preparers, OpensItsStatement preparer) ∧
      ∀ step ∈ Operation.history ops w, step.2.state.isReleased = true := by
  intro unbound ops w
  have hown : ∀ op ∈ ops, ∀ preparer ∈ op.2.preparers, OpensItsStatement preparer := by
    intro op hop preparer hp
    rcases List.mem_cons.mp hop with rfl | hop
    · rw [List.mem_singleton.mp hp]
      exact opensItsStatement_creator _
    · rw [List.mem_singleton.mp hop] at hp
      cases hp
  exact ⟨hown, (session_closes_what_it_opens ops w hown).2 rfl⟩

end SqlAccess.Scripted
