import Mathlib.Data.List.Forall2
import SqlAccess.Proofs.Database.Closing
import SqlAccess.Scripted.Source

/-!
# Failing to close

Closing a statement may fail.  By then its operation has its result, and the
failure is only told as a warning.  So two runs of the same operations, in one of
which no statement closes without a failure, come to the same.

The two runs are compared station by station.  Between the stations the failing
run is in step with the sound one: its source is in the same state, and it has
told the same warnings and one more for each statement closed since the start.

* `SparesClosing` — calls that do not depend on whether closing fails;
* `InStep` and `KeepsInStep` — the failing run beside the sound one, and work
  that keeps it there;
* `InStep.afterClosing` — the one station that tells the runs apart;
* `close_failures_change_no_outcome` — **failures to close change no outcome of
  a session**.
-/

namespace SqlAccess.Scripted

variable {α β ρ τ : Type}

/-! ## Calls that do not depend on whether closing fails -/

/-- The state of a source whose statements fail to close. -/
def State.failingClose (s : State) : State := { s with failsStatementClose := true }

/-- What a failing source fails to close a statement with. -/
def closeFailure : SqlError := { message := "statement close failed" }

/-- The call gives and does the same on a source whose statements fail to close, and
closes no statement. -/
structure SparesClosing (f : State → ρ × State) : Prop where
  alike : ∀ s, f s.failingClose = ((f s).1, (f s).2.failingClose)
  failsStatementClose : ∀ s, (f s).2.failsStatementClose = s.failsStatementClose
  closed : ∀ s, (f s).2.statements.closed = s.statements.closed

namespace SparesClosing

theorem pure (r : ρ) : SparesClosing fun s => (r, s) := ⟨fun _ => rfl, fun _ => rfl, fun _ => rfl⟩

/-- A call that comes to the same as such a call. -/
theorem congr {f g : State → ρ × State} (hf : SparesClosing f) (h : ∀ s, g s = f s) :
    SparesClosing g := by
  rw [funext h]
  exact hf

/-- A call that has nothing to do with the state. -/
theorem of_still {f : State → ρ × State} (hresult : ∀ s t, (f s).1 = (f t).1)
    (hstate : ∀ s, (f s).2 = s) : SparesClosing f where
  alike s := Prod.ext (hresult _ _) (by rw [hstate, hstate])
  failsStatementClose s := by rw [hstate]
  closed s := by rw [hstate]

/-- A call that is an execution. -/
theorem of_run {f : State → ρ × State} {e : Execution}
    (halike : ∀ s, f s.failingClose = ((f s).1, (f s).2.failingClose))
    (hstate : ∀ s, (f s).2 = (s.run e).2) : SparesClosing f where
  alike := halike
  failsStatementClose s := by
    rw [hstate]
    rfl
  closed s := by
    rw [hstate]
    rfl

/-- One call after the other. -/
theorem bind {f : State → ρ × State} {g : ρ → State → τ × State} (hf : SparesClosing f)
    (hg : ∀ r, SparesClosing (g r)) : SparesClosing fun s => g (f s).1 (f s).2 where
  alike s := by rw [hf.alike, (hg _).alike]
  failsStatementClose s := ((hg _).failsStatementClose _).trans (hf.failsStatementClose s)
  closed s := ((hg _).closed _).trans (hf.closed s)

/-- Something else made of what a call gives. -/
theorem map {f : State → ρ × State} (hf : SparesClosing f) (g : ρ → τ) :
    SparesClosing fun s => (g (f s).1, (f s).2) :=
  hf.bind fun r => pure (g r)

end SparesClosing

namespace State

/-- An execution does not depend on whether closing fails, whatever its response. -/
theorem runQuery_sparesClosing (sql : String) (params : List Parameter) :
    SparesClosing fun s => s.runQuery sql params := by
  refine .of_run (fun s => ?_) fun s => s.runQuery_state sql params
  simp only [runQuery, run, failingClose]
  rcases s.responses.head? with _ | _ | _ | _ | _ <;> rfl

theorem runUpdate_sparesClosing (sql : String) (params : List Parameter) :
    SparesClosing fun s => s.runUpdate sql params := by
  refine .of_run (fun s => ?_) fun s => s.runUpdate_state sql params
  simp only [runUpdate, run, failingClose]
  rcases s.responses.head? with _ | _ | _ | _ | _ <;> rfl

theorem runBatch_sparesClosing (sql : String) (batch : List (List Parameter)) :
    SparesClosing fun s => s.runBatch sql batch := by
  refine .of_run (fun s => ?_) fun s => s.runBatch_state sql batch
  simp only [runBatch, run, failingClose]
  rcases s.responses.head? with _ | _ | _ | _ | _ <;> rfl

/-- Nor does taking a connection. -/
theorem acquire_sparesClosing : SparesClosing acquire := by
  refine ⟨?_, ?_, ?_⟩
  -- What is given depends on the availability and on whether the source was closed.
  all_goals rintro ⟨_, _, _ | _ | _, _, _, _ | _, _, _⟩ <;> rfl

theorem closeConnection_sparesClosing (c : Connection) :
    SparesClosing fun s => s.closeConnection c := by
  unfold closeConnection
  cases c.isClosed with
  | true => exact .pure c
  | false => exact ⟨fun _ => rfl, fun _ => rfl, fun _ => rfl⟩

theorem openStatement_sparesClosing (r : ρ) : SparesClosing fun s => (r, s.openStatement) :=
  ⟨fun _ => rfl, fun _ => rfl, fun _ => rfl⟩

end State

/-- What work with a statement gives, with the statement as it is after it. -/
def regroup (x : ρ × τ × State) : (ρ × τ) × State := ((x.1, x.2.1), x.2.2)

/-- No call on a plain statement but the one that closes it depends on whether
closing fails. -/
theorem Statement.answer_sparesClosing (c : StatementCall) (hc : c ≠ .close) (st : Statement) :
    SparesClosing fun s => regroup (st.answer c s) := by
  cases c with
  | query sql => exact (State.runQuery_sparesClosing sql []).map fun r => (r, st)
  | update sql returnsKeys =>
      refine ((State.runUpdate_sparesClosing sql []).map fun
        | .ok (affected, key) =>
          (.ok affected, { st with generatedKey := if returnsKeys then key else none })
        | .error e => (.error e, st)).congr fun s => ?_
      simp only [Statement.answer]
      rcases s.runUpdate sql [] with ⟨e | ⟨affected, key⟩, s'⟩
      · rfl
      · rfl
  | generatedKeys => exact .of_still (fun _ _ => rfl) fun _ => rfl
  | close => exact absurd rfl hc

theorem Prepared.answer_sparesClosing (c : PreparedCall) (hc : c ≠ .close) (p : Prepared) :
    SparesClosing fun s => regroup (p.answer c s) := by
  cases c with
  | binding c => exact .of_still (fun _ _ => rfl) fun _ => rfl
  | query =>
      simp only [Prepared.answer]
      rcases p.inputs.take id with ⟨e | params, inputs⟩
      · exact .of_still (fun _ _ => rfl) fun _ => rfl
      · exact (State.runQuery_sparesClosing p.sql params).map fun r => (r, { p with inputs })
  | update =>
      simp only [Prepared.answer]
      rcases p.inputs.take id with ⟨e | params, inputs⟩
      · exact .of_still (fun _ _ => rfl) fun _ => rfl
      · refine ((State.runUpdate_sparesClosing p.sql params).map fun
          | .ok (affected, key) =>
            (.ok affected,
              { p with inputs, generatedKey := if p.returnsKeys then key else none })
          | .error e => (.error e, { p with inputs })).congr fun s => ?_
        dsimp only
        rcases s.runUpdate p.sql params with ⟨e | ⟨affected, key⟩, s'⟩
        · rfl
        · rfl
  | batch =>
      exact (State.runBatch_sparesClosing p.sql p.inputs.takeBatch.1).map fun r =>
        (r, { p with inputs := p.inputs.takeBatch.2 })
  | generatedKeys => exact .of_still (fun _ _ => rfl) fun _ => rfl
  | close => exact absurd rfl hc

/-- A program does not depend on it if none of its calls does. -/
theorem sparesClosing_run {Call : Type} {Response : Call → Type} {P : Call → Prop}
    {answer : (c : Call) → τ → State → Response c × τ × State}
    (h : ∀ c, P c → ∀ t, SparesClosing fun s => regroup (answer c t s))
    {p : Program Call Response α} (hp : p.OnlyCalls P) (t : τ) :
    SparesClosing fun s =>
      regroup (p.run (fun c (x : τ × State) => answer c x.1 x.2) (t, s)) := by
  induction p generalizing t with
  | done a => exact .pure (a, t)
  | call c next ih => exact (h c hp.1 t).bind fun r => ih r.1 (hp.2 r.1) r.2

/-! ## The failing run beside the sound one -/

/-- A warning that a statement failed to close. -/
inductive IsCloseFailure : Warning → Prop where
  | plain : IsCloseFailure (.statementNotClosed closeFailure)
  | prepared (sql : String) : IsCloseFailure (.preparedNotClosed closeFailure sql)

/-- The second list of warnings is the first with `n` more, which tell of statements
that failed to close. -/
inductive WithCloseFailures : Nat → List Warning → List Warning → Prop where
  | refl (ws : List Warning) : WithCloseFailures 0 ws ws
  | both {n : Nat} {ws ws' : List Warning} (h : WithCloseFailures n ws ws') (warning : Warning) :
      WithCloseFailures n (ws ++ [warning]) (ws' ++ [warning])
  | more {n : Nat} {ws ws' : List Warning} (h : WithCloseFailures n ws ws') {warning : Warning}
      (hwarning : IsCloseFailure warning) : WithCloseFailures (n + 1) ws (ws' ++ [warning])

/-- `w'` is where the failing run is when the sound one is at `w`; when both began,
`start` statements had been closed. -/
structure InStep (start : Nat) (w w' : World source) : Prop where
  sound : w.state.failsStatementClose = false
  state : w'.state = w.state.failingClose
  warnings : ∃ n, w.state.statements.closed = start + n ∧
    WithCloseFailures n w.warnings w'.warnings

/-- The work gives the same in the failing run as in the sound one, and leaves the
failing run in step. -/
def KeepsInStep (work : Session source α) : Prop :=
  ∀ start w w', InStep start w w' → (work w').1 = (work w).1 ∧ InStep start (work w).2 (work w').2

namespace KeepsInStep

theorem pure (a : α) : KeepsInStep (pure a : Session source α) := fun _ _ _ h => ⟨rfl, h⟩

/-- Work that goes on with other work. -/
theorem bind {work : Session source α} {next : α → Session source β} (h : KeepsInStep work)
    (hnext : ∀ a, KeepsInStep (next a)) : KeepsInStep (work >>= next) := by
  intro start w w' hw
  obtain ⟨hresult, hafter⟩ := h start w w' hw
  simp only [Session.bind_apply, hresult]
  exact hnext _ start _ _ hafter

theorem map {work : Session source α} (h : KeepsInStep work) (f : α → β) :
    KeepsInStep (f <$> work) := by
  intro start w w' hw
  obtain ⟨hresult, hafter⟩ := h start w w' hw
  exact ⟨congrArg f hresult, hafter⟩

theorem warn (warning : Warning) : KeepsInStep (Session.warn (D := source) warning) := by
  intro start w w' hw
  obtain ⟨n, hn, hwarnings⟩ := hw.warnings
  exact ⟨rfl, hw.sound, hw.state, n, hn, hwarnings.both warning⟩

/-- A call that does not depend on whether closing fails. -/
theorem onState {f : State → α × State} (hf : SparesClosing f) :
    KeepsInStep (Session.onState (D := source) f) := by
  intro start w w' hw
  obtain ⟨n, hn, hwarnings⟩ := hw.warnings
  simp only [Session.onState, hw.state, hf.alike, true_and]
  exact ⟨(hf.failsStatementClose _).trans hw.sound, rfl, n, (hf.closed _).trans hn,
    hwarnings⟩

theorem runOn (st : Statement) {p : StatementProgram α} (hp : p.OnlyCalls (· ≠ .close)) :
    KeepsInStep (Session.runOn (D := source) st p) :=
  onState (sparesClosing_run Statement.answer_sparesClosing hp st)

theorem runOnPrepared (st : Prepared) {p : PreparedProgram α} (hp : p.OnlyCalls (· ≠ .close)) :
    KeepsInStep (Session.runOnPrepared (D := source) st p) :=
  onState (sparesClosing_run Prepared.answer_sparesClosing hp st)

end KeepsInStep

/-- The world after a statement is closed, where a failure is told as a warning. -/
def afterClosing (wasClosed : Bool) (tell : SqlError → Warning) (w : World source) :
    World source :=
  match w.state.closeStatement wasClosed with
  | (.ok (), s) => { w with state := s }
  | (.error e, s) => ⟨s, w.warnings ++ [tell e]⟩

theorem closeStatement_world (st : Statement) (w : World source) :
    (Database.closeStatement (D := source) st w).2 =
      afterClosing st.isClosed .statementNotClosed w := by
  simp only [Database.closeStatement, Session.bind_apply, Session.runOn, Session.onState,
    StatementCall.perform, Program.perform, Program.run, Statement.answer, afterClosing]
  rcases w.state.closeStatement st.isClosed with ⟨_ | _, s⟩ <;> rfl

theorem closePrepared_world (st : Prepared) (w : World source) :
    (Database.closePrepared (D := source) st w).2 =
      afterClosing st.isClosed (.preparedNotClosed · st.sql) w := by
  simp only [Database.closePrepared, Session.bind_apply, Session.runOnPrepared, Session.onState,
    PreparedCall.perform, Program.perform, Program.run, Prepared.answer, afterClosing]
  rcases w.state.closeStatement st.isClosed with ⟨_ | _, s⟩ <;> rfl

/-- **Closing a statement counts in both runs, and one of them tells of a
failure.**  A statement that was closed before changes neither. -/
theorem InStep.afterClosing {start : Nat} {w w' : World source} (h : InStep start w w')
    (wasClosed : Bool) {tell : SqlError → Warning} (htell : IsCloseFailure (tell closeFailure)) :
    InStep start (afterClosing wasClosed tell w) (afterClosing wasClosed tell w') := by
  obtain ⟨s, warnings⟩ := w
  obtain ⟨_, warnings'⟩ := w'
  obtain ⟨hsound, rfl, n, hn, hwarnings⟩ := h
  cases wasClosed with
  | true => exact ⟨hsound, rfl, n, hn, hwarnings⟩
  | false =>
      replace hsound : s.failsStatementClose = false := hsound
      have hquiet : Scripted.afterClosing false tell ⟨s, warnings⟩ =
          ⟨(s.closeStatement false).2, warnings⟩ := by
        simp only [Scripted.afterClosing, State.closeStatement, hsound]
        rfl
      have htold : Scripted.afterClosing false tell ⟨s.failingClose, warnings'⟩ =
          ⟨(s.closeStatement false).2.failingClose, warnings' ++ [tell closeFailure]⟩ := rfl
      rw [hquiet, htold]
      refine ⟨hsound, rfl, n + 1, ?_, hwarnings.more htell⟩
      have hcount : (s.closeStatement false).2.statements.closed = s.statements.closed + 1 := rfl
      rw [hcount]
      exact congrArg (· + 1) hn

/-- Closing at the end of an operation. -/
theorem keepsInStep_closeStatement (st : Statement) :
    KeepsInStep (Database.closeStatement (D := source) st) := by
  intro start w w' hw
  rw [closeStatement_world, closeStatement_world]
  exact ⟨rfl, hw.afterClosing st.isClosed .plain⟩

theorem keepsInStep_closePrepared (st : Prepared) :
    KeepsInStep (Database.closePrepared (D := source) st) := by
  intro start w w' hw
  rw [closePrepared_world, closePrepared_world]
  exact ⟨rfl, hw.afterClosing st.isClosed (.prepared st.sql)⟩

/-! ## Whole operations -/

/-- Warnings are told in both runs. -/
theorem keepsInStep_warnAll (warnings : List Warning) :
    KeepsInStep (warnings.forM (m := Session source) Session.warn) := by
  induction warnings with
  | nil => exact .pure ()
  | cons warning rest ih => exact (KeepsInStep.warn warning).bind fun _ => ih

/-- Giving back a connection does not depend on how statements close. -/
theorem keepsInStep_release (c : Connection) : KeepsInStep (Database.release (D := source) c) := by
  have hrelease : SparesClosing fun s => ((source.release c s).1, (source.release c s).2.2) :=
    (State.closeConnection_sparesClosing c).map fun _ =>
      ((.ok (), []) : Except SqlError Unit × List Warning)
  refine (KeepsInStep.onState hrelease).bind fun r => ?_
  refine (keepsInStep_warnAll r.2).bind fun _ => ?_
  cases r.1 with
  | ok u => exact .pure ()
  | error e => exact .warn _

theorem keepsInStep_acquire : KeepsInStep (Database.acquire (D := source)) := by
  refine (KeepsInStep.onState State.acquire_sparesClosing).bind fun r => ?_
  rcases r with e | _ | c
  · exact .pure _
  · exact (KeepsInStep.warn .noConnection).bind fun _ => .pure _
  · exact .pure _

/-- Work with a connection of its own. -/
theorem keepsInStep_withConnection {work : Connection → Session source (Except Error α)}
    (hwork : ∀ c, KeepsInStep (work c)) :
    KeepsInStep (Database.withConnection (D := source) work) := by
  refine keepsInStep_acquire.bind fun r => ?_
  rcases r with e | _ | c
  · exact .pure _
  · exact .pure _
  · exact (hwork c).bind fun _ => (keepsInStep_release c).bind fun _ => .pure _

theorem keepsInStep_withStatement (c : Connection) {action : StatementAction α}
    (h : action.program.OnlyCalls (· ≠ .close)) :
    KeepsInStep (Database.withStatement (D := source) c action) := by
  refine (KeepsInStep.onState (State.openStatement_sparesClosing _)).bind fun r => ?_
  cases r with
  | error e => exact .pure _
  | ok st =>
      exact (KeepsInStep.runOn st h).bind fun x =>
        (keepsInStep_closeStatement x.2).bind fun _ => .pure _

theorem keepsInStep_withPrepared (c : Connection) {preparer : Preparer source}
    (hprepare : KeepsInStep (preparer.prepare c)) {action : PreparedAction α}
    (h : action.program.OnlyCalls (· ≠ .close)) :
    KeepsInStep (Database.withPrepared c preparer action) := by
  refine hprepare.bind fun r => ?_
  cases r with
  | error e => exact .pure _
  | ok st =>
      exact (KeepsInStep.runOnPrepared st h).bind fun x =>
        (keepsInStep_closePrepared x.2).bind fun _ => .pure _

/-- Preparing a statement does not depend on how statements close, if it is left to
the library. -/
theorem keepsInStep_creator (creator : Creator) (c : Connection) :
    KeepsInStep (creator.preparer (D := source) |>.prepare c) := by
  obtain ⟨text, plan⟩ := creator
  cases plan with
  | error e => exact .pure _
  | ok plan => exact .onState (State.openStatement_sparesClosing _)

/-- A course keeps in step if its action and its preparer leave closing to the
library. -/
theorem keepsInStep_course {course : Course source β} (h : course.LeavesClosing)
    (hp : course.Uses fun preparer => ∀ c, KeepsInStep (preparer.prepare c)) :
    KeepsInStep course.run := by
  cases course with
  | atOnce r => exact .pure r
  | plain action finish =>
      refine KeepsInStep.map (keepsInStep_withConnection fun c => ?_) _
      exact (keepsInStep_withStatement c h).bind fun _ => .pure _
  | prepared preparer action finish =>
      refine KeepsInStep.map (keepsInStep_withConnection fun c => ?_) _
      exact (keepsInStep_withPrepared c (hp c) h).bind fun _ => .pure _

theorem keepsInStep_operation {op : Operation source β} (h : op.LeavesClosing)
    (hown : ∀ preparer ∈ op.preparers, ∀ c, KeepsInStep (preparer.prepare c)) :
    KeepsInStep op.run := by
  rw [op.run_eq_course]
  exact keepsInStep_course (op.course_leavesClosing h) (op.course_uses keepsInStep_creator hown)

/-! ## Sessions -/

/-- What each of some operations gives, done one after the other, and the world after
it. -/
def outcomes : List (AnyOperation source) → World source →
    List ((Σ β : Type, Except Error β) × World source)
  | [], _ => []
  | op :: rest, w => (⟨op.1, (op.2.run w).1⟩, (op.2.run w).2) :: outcomes rest (op.2.run w).2

/-- Operations that keep in step give the same, one after the other. -/
theorem outcomes_inStep {ops : List (AnyOperation source)}
    (h : ∀ op ∈ ops, KeepsInStep op.2.run) {start : Nat} {w w' : World source}
    (hw : InStep start w w') :
    List.Forall₂ (fun sound failing => failing.1 = sound.1 ∧ InStep start sound.2 failing.2)
      (outcomes ops w) (outcomes ops w') := by
  induction ops generalizing w w' with
  | nil => exact .nil
  | cons op rest ih =>
      obtain ⟨hresult, hafter⟩ := h op List.mem_cons_self start w w' hw
      refine .cons ⟨?_, hafter⟩ (ih (fun o ho => h o (List.mem_cons_of_mem _ ho)) hafter)
      exact congrArg (Sigma.mk op.1) hresult

/-- **Failures to close change no outcome.**  The same operations are done on a source
whose statements close and on one whose statements fail to.  After each of them both
runs have given the same result and left the source in the same state, with what was
recorded, the responses that remain and the counters; the failing run has told one
warning more for each statement that it has closed.  A caller's own work with a
statement, or to prepare one, must leave closing to the library. -/
theorem close_failures_change_no_outcome (ops : List (AnyOperation source)) (w : World source)
    (hcaller : ∀ op ∈ ops, op.2.LeavesClosing)
    (hown : ∀ op ∈ ops, ∀ preparer ∈ op.2.preparers, ∀ c, KeepsInStep (preparer.prepare c)) :
    List.Forall₂
      (fun sound failing => failing.1 = sound.1 ∧
        failing.2.state = { sound.2.state with failsStatementClose := true } ∧
        ∃ n, failing.2.state.statements.closed = w.state.statements.closed + n ∧
          WithCloseFailures n sound.2.warnings failing.2.warnings)
      (outcomes ops { w with state := { w.state with failsStatementClose := false } })
      (outcomes ops { w with state := { w.state with failsStatementClose := true } }) := by
  have hstart : InStep w.state.statements.closed
      { w with state := { w.state with failsStatementClose := false } }
      { w with state := { w.state with failsStatementClose := true } } :=
    ⟨rfl, rfl, 0, rfl, .refl w.warnings⟩
  have hsteps : ∀ op ∈ ops, KeepsInStep op.2.run := fun op hop =>
    keepsInStep_operation (hcaller op hop) (hown op hop)
  refine (outcomes_inStep hsteps hstart).imp fun sound failing h => ?_
  obtain ⟨n, hn, hwarnings⟩ := h.2.warnings
  refine ⟨h.1, h.2.state, n, ?_, hwarnings⟩
  rw [h.2.state]
  exact hn

/-- A query whose script holds an error, and an update with a parameter that was not
bound: each fails as it would if its statement closed, and each closes one. -/
theorem close_failures_after_errors :
    let creator : Creator := ⟨none, .ok ("DELETE FROM t WHERE id = ?", false)⟩
    let ops : List (AnyOperation source) :=
      [⟨_, .queryList "SELECT id FROM t" .none (singleColumn .int64)⟩,
        ⟨_, .updatePrepared creator none false⟩]
    let s : State := { responses := [.error { message := "lock timeout" }] }
    let failing : World source := ⟨{ s with failsStatementClose := true }, []⟩
    ((∀ op ∈ ops, op.2.LeavesClosing) ∧
        ∀ op ∈ ops, ∀ preparer ∈ op.2.preparers, ∀ c, KeepsInStep (preparer.prepare c)) ∧
      (outcomes ops failing).map (·.1) = (outcomes ops ⟨s, []⟩).map (·.1) ∧
      (outcomes ops failing).map (·.2.warnings) =
        [[.statementNotClosed closeFailure],
          [.statementNotClosed closeFailure,
            .preparedNotClosed closeFailure "DELETE FROM t WHERE id = ?"]] := by
  intro creator ops s failing
  have hcaller : ∀ op ∈ ops, op.2.LeavesClosing := by
    intro op hop
    rcases List.mem_cons.mp hop with rfl | hop
    · trivial
    · rw [List.mem_singleton.mp hop]
      trivial
  have hown : ∀ op ∈ ops, ∀ preparer ∈ op.2.preparers, ∀ c,
      KeepsInStep (preparer.prepare c) := by
    intro op hop preparer hpreparer
    rcases List.mem_cons.mp hop with rfl | hop
    · cases hpreparer
    · rw [List.mem_singleton.mp hop] at hpreparer
      rw [List.mem_singleton.mp hpreparer]
      exact keepsInStep_creator creator
  have hsame := close_failures_change_no_outcome ops ⟨s, []⟩ hcaller hown
  have hresults : List.Forall₂ (· = ·) ((outcomes ops failing).map (·.1))
      ((outcomes ops ⟨s, []⟩).map (·.1)) := by
    rw [List.forall₂_map_left_iff, List.forall₂_map_right_iff]
    exact hsame.flip.imp fun _ _ h => h.1
  rw [List.forall₂_eq_eq_eq] at hresults
  exact ⟨⟨hcaller, hown⟩, hresults, rfl⟩

end SqlAccess.Scripted
