import SqlAccess.Proofs.Database.Failure
import SqlAccess.Scripted.Source

/-!
# No connection, no effect

An operation first checks what it was given: a SQL text must hold more than
blanks, and a batch without entries is done at once.  Then it asks the source
for a connection.  A scripted source that was closed, that fails or that has no
connection to give leaves nothing to do after that.

* `Operation.PassesChecks` and `connects_iff` — the operations that ask for a
  connection;
* `Operation.absent` — what an operation gives without one;
* `State.GivesNoConnection` and `operation_unserved` — what an operation comes
  to on such a source;
* `SessionStep` — operations, and closing the source;
* `no_connection_no_effect` — **no step of a session has an effect on a source
  that gives no connection, and a closed source stays closed**.
-/

namespace SqlAccess

variable {D : Driver} {α β γ : Type}

/-! ## Checks of SQL texts -/

/-- The SQL text that is checked, if there is one, holds more than blanks. -/
def TextPasses (text : Option String) : Prop := ∀ sql ∈ text, ¬ Text.IsBlankText sql

theorem textPasses_none : TextPasses none := by
  intro sql h
  cases h

theorem textPasses_some {sql : String} : TextPasses (some sql) ↔ ¬ Text.IsBlankText sql := by
  simp only [TextPasses, Option.mem_some_iff, forall_eq']

/-- The SQL text that is checked before a query with such arguments. -/
def Arguments.checkedText? (sql : String) : Arguments → Option String
  | none => .none
  | untyped _ | typed .. => some sql

/-! ## Courses without a connection -/

namespace Course

/-- What the course gives if there is no connection for it. -/
def absent : Course D β → Except Error β
  | atOnce r => r
  | plain _ finish => finish none
  | prepared _ _ finish => finish none

variable {w : World D} {s : D.State} {course : Course D β}

/-- A course that takes no connection leaves the world alone. -/
theorem run_of_not_connects (h : ¬ course.Connects) : (course.run w).2 = w := by
  cases course with
  | atOnce r => rfl
  | plain action finish => exact absurd trivial h
  | prepared preparer action finish => exact absurd trivial h

/-- Where there is no connection to take, nothing is done but to warn. -/
theorem run_of_acquire_none (hcourse : course.Connects)
    (h : D.acquire w.state = (.ok none, s)) :
    course.run w = (course.absent, ⟨s, w.warnings ++ [.noConnection]⟩) := by
  cases course with
  | atOnce r => exact hcourse.elim
  | plain action finish =>
      simp only [run, Session.map_apply, Database.execute, Database.withConnection_of_none h]
      rfl
  | prepared preparer action finish =>
      simp only [run, Session.map_apply, Database.executePrepared,
        Database.withConnection_of_none h]
      rfl

/-- What is made of a result afterwards takes no connection. -/
theorem connects_andThen (course : Course D β) (f : β → Except Error γ) :
    (course.andThen f).Connects ↔ course.Connects := by
  cases course with
  | atOnce r => rfl
  | plain action finish => rfl
  | prepared preparer action finish => rfl

theorem absent_andThen (course : Course D β) (f : β → Except Error γ) :
    (course.andThen f).absent = course.absent >>= f := by
  cases course with
  | atOnce r => rfl
  | plain action finish => rfl
  | prepared preparer action finish => rfl

/-- Work with a statement prepared from a SQL text takes a connection if the text
passes. -/
theorem connects_ofSql (sql : String) (returnsKeys : Bool) (action : PreparedAction α)
    (finish : Option α → Except Error β) :
    (ofSql (D := D) sql returnsKeys fun preparer => prepared preparer action finish).Connects ↔
      TextPasses (some sql) := by
  rw [textPasses_some]
  unfold ofSql Creator.ofSql
  by_cases hsql : Text.IsBlankText sql
  · rw [if_pos hsql]
    exact ⟨False.elim, fun hpasses => hpasses hsql⟩
  · rw [if_neg hsql]
    exact iff_of_true trivial hsql

theorem absent_ofSql {sql : String} {returnsKeys : Bool} {action : PreparedAction α}
    {finish : Option α → Except Error β} (h : TextPasses (some sql)) :
    (ofSql (D := D) sql returnsKeys fun preparer => prepared preparer action finish).absent =
      finish none := by
  unfold ofSql Creator.ofSql
  rw [if_neg (textPasses_some.mp h)]
  rfl

/-- Nothing but the check of a SQL text takes no connection. -/
theorem not_connects_check (sql : String) (r : Except Error β) :
    ¬ (ofSql (D := D) sql false fun _ => atOnce r).Connects := by
  unfold ofSql
  cases Creator.ofSql sql false with
  | error e => exact id
  | ok creator => exact id

/-- A query checks its SQL text if it prepares a statement from it. -/
theorem connects_query (sql : String) (args : Arguments) (x : Extractor α) :
    (query (D := D) sql args x).Connects ↔ TextPasses (args.checkedText? sql) := by
  cases args with
  | none => exact iff_of_true trivial textPasses_none
  | untyped values => exact connects_ofSql sql _ _ _
  | typed values types => exact connects_ofSql sql _ _ _

theorem absent_query {sql : String} {args : Arguments} (x : Extractor α)
    (h : TextPasses (args.checkedText? sql)) :
    (query (D := D) sql args x).absent = .ok none := by
  cases args with
  | none => rfl
  | untyped values => exact absent_ofSql h
  | typed values types => exact absent_ofSql h

end Course

/-! ## Operations without a connection -/

namespace Operation

/-- The SQL text that the operation checks before it asks for a connection. -/
def checkedText? : Operation D β → Option String
  | execute _ | executePrepared .. | updatePrepared .. | queryPrepared .. => none
  | update sql returnsKeys => if returnsKeys then some sql else none
  | executeSql sql _ | updateWith sql .. | updateTyped sql .. | batchUpdate sql ..
  | batchUpdateTyped sql .. | batchUpdateWith sql .. | queryWith sql .. => some sql
  | query sql args _ | queryOrElse sql args .. | queryList sql args _
  | queryListOrElse sql args .. | queryObject sql args _ | queryObjectOrElse sql args .. =>
    args.checkedText? sql

/-- The operation is no batch over an empty list. -/
def HasEntries : Operation D β → Prop
  | batchUpdateTyped _ rows _ => rows ≠ []
  | batchUpdateWith _ items _ => items ≠ []
  | _ => True

/-- The operation's checks of what it was given pass, and it has something to
do. -/
def PassesChecks (op : Operation D β) : Prop := TextPasses op.checkedText? ∧ op.HasEntries

/-- What the operation gives if there is no connection for it: nothing, or the
fallback. -/
def absent : Operation D β → β
  | execute _ | executePrepared .. | executeSql .. | update .. | updatePrepared ..
  | updateWith .. | updateTyped .. | batchUpdate .. | batchUpdateTyped .. | batchUpdateWith ..
  | queryPrepared .. | queryWith .. | query .. | queryList .. | queryObject .. => none
  | queryOrElse _ _ _ fallback => fallback
  | queryListOrElse _ _ _ fallback => fallback
  | queryObjectOrElse _ _ _ fallback => fallback

/-- **An operation asks for a connection just if its checks pass.** -/
theorem connects_iff (op : Operation D β) : op.course.Connects ↔ op.PassesChecks := by
  have hentries : op.HasEntries → (op.course.Connects ↔ TextPasses op.checkedText?) →
      (op.course.Connects ↔ op.PassesChecks) :=
    fun h htext => htext.trans (and_iff_left h).symm
  have hempty : ¬ op.HasEntries → ¬ op.course.Connects →
      (op.course.Connects ↔ op.PassesChecks) :=
    fun h hcourse => iff_of_false hcourse fun hpasses => h hpasses.2
  cases op with
  | execute action => exact hentries trivial (iff_of_true trivial textPasses_none)
  | executePrepared preparer action =>
      exact hentries trivial (iff_of_true trivial textPasses_none)
  | executeSql sql action => exact hentries trivial (Course.connects_ofSql sql _ _ _)
  | update sql returnsKeys =>
      cases returnsKeys with
      | true => exact hentries trivial (Course.connects_ofSql sql _ _ _)
      | false => exact hentries trivial (iff_of_true trivial textPasses_none)
  | updatePrepared preparer setter returnsKeys =>
      exact hentries trivial (iff_of_true trivial textPasses_none)
  | updateWith sql setter returnsKeys =>
      exact hentries trivial (Course.connects_ofSql sql _ _ _)
  | updateTyped sql values types returnsKeys =>
      exact hentries trivial (Course.connects_ofSql sql _ _ _)
  | batchUpdate sql setter => exact hentries trivial (Course.connects_ofSql sql _ _ _)
  | batchUpdateTyped sql rows types =>
      cases rows with
      | nil => exact hempty (fun h => h rfl) id
      | cons row rest =>
          exact hentries (List.cons_ne_nil row rest) (Course.connects_ofSql sql _ _ _)
  | batchUpdateWith sql items setter =>
      cases items with
      | nil => exact hempty (fun h => h rfl) (Course.not_connects_check sql _)
      | cons item rest =>
          exact hentries (List.cons_ne_nil item rest) (Course.connects_ofSql sql _ _ _)
  | queryPrepared preparer setter x => exact hentries trivial (iff_of_true trivial textPasses_none)
  | queryWith sql setter x => exact hentries trivial (Course.connects_ofSql sql _ _ _)
  | query sql args x => exact hentries trivial (Course.connects_query sql args x)
  | queryOrElse sql args x fallback =>
      exact hentries trivial
        ((Course.connects_andThen _ _).trans (Course.connects_query sql args x))
  | queryList sql args mapper => exact hentries trivial (Course.connects_query sql args _)
  | queryListOrElse sql args mapper fallback =>
      exact hentries trivial
        ((Course.connects_andThen _ _).trans (Course.connects_query sql args _))
  | queryObject sql args mapper =>
      exact hentries trivial
        ((Course.connects_andThen _ _).trans (Course.connects_query sql args _))
  | queryObjectOrElse sql args mapper fallback =>
      exact hentries trivial
        ((Course.connects_andThen _ _).trans (Course.connects_query sql args _))

/-- Without a connection, an operation whose checks pass gives nothing, or the
fallback. -/
theorem course_absent (op : Operation D β) (h : op.PassesChecks) :
    op.course.absent = .ok op.absent := by
  obtain ⟨htext, hentries⟩ := h
  cases op with
  | execute action => rfl
  | executePrepared preparer action => rfl
  | executeSql sql action => exact Course.absent_ofSql htext
  | update sql returnsKeys =>
      cases returnsKeys with
      | true => exact Course.absent_ofSql htext
      | false => rfl
  | updatePrepared preparer setter returnsKeys => rfl
  | updateWith sql setter returnsKeys => exact Course.absent_ofSql htext
  | updateTyped sql values types returnsKeys => exact Course.absent_ofSql htext
  | batchUpdate sql setter => exact Course.absent_ofSql htext
  | batchUpdateTyped sql rows types =>
      cases rows with
      | nil => exact absurd rfl hentries
      | cons row rest => exact Course.absent_ofSql htext
  | batchUpdateWith sql items setter =>
      cases items with
      | nil => exact absurd rfl hentries
      | cons item rest => exact Course.absent_ofSql htext
  | queryPrepared preparer setter x => rfl
  | queryWith sql setter x => exact Course.absent_ofSql htext
  | query sql args x => exact Course.absent_query x htext
  | queryOrElse sql args x fallback =>
      simp only [course, Course.absent_andThen, Course.absent_query x htext]
      rfl
  | queryList sql args mapper => exact Course.absent_query _ htext
  | queryListOrElse sql args mapper fallback =>
      simp only [course, Course.absent_andThen, Course.absent_query _ htext]
      rfl
  | queryObject sql args mapper =>
      simp only [course, Course.absent_andThen, Course.absent_query _ htext]
      rfl
  | queryObjectOrElse sql args mapper fallback =>
      simp only [course, Course.absent_andThen, Course.absent_query _ htext]
      rfl

end Operation

namespace Scripted

/-! ## A source that gives no connection -/

namespace State

/-- The source was closed, or has no connection to give. -/
def GivesNoConnection (s : State) : Prop := s.isClosed = true ∨ s.availability ≠ .available

theorem acquire_of_closed {s : State} (h : s.isClosed = true) :
    s.acquire = (.error closedError, s) := by
  simp only [acquire, h, if_true]

theorem acquire_of_failing {s : State} {message : String} (hopen : s.isClosed = false)
    (h : s.availability = .failing message) :
    s.acquire = (.error (.connectionRetrieve message none), s) := by
  simp only [acquire, hopen, h]
  rfl

theorem acquire_of_empty {s : State} (hopen : s.isClosed = false) (h : s.availability = .empty) :
    s.acquire = (.ok none, s) := by
  simp only [acquire, hopen, h]
  rfl

end State

/-- What an operation comes to in a world whose source gives no connection. -/
structure Unserved (op : Operation source β) (w : World source) : Prop where
  /-- Nothing is opened, closed, recorded or consumed. -/
  state : (op.run w).2.state = w.state
  /-- What its own checks decide is not even warned of. -/
  decided : ¬ op.PassesChecks → (op.run w).2 = w
  /-- That the source was closed is told before anything else. -/
  closed : op.PassesChecks → w.state.isClosed = true → op.run w = (.error State.closedError, w)
  failing : op.PassesChecks → w.state.isClosed = false → ∀ message,
    w.state.availability = .failing message →
      op.run w = (.error (.connectionRetrieve message none), w)
  /-- That there merely is no connection is warned of once. -/
  empty : op.PassesChecks → w.state.isClosed = false → w.state.availability = .empty →
    op.run w = (.ok op.absent, { w with warnings := w.warnings ++ [.noConnection] })

/-- Every operation comes to that. -/
theorem operation_unserved (op : Operation source β) {w : World source}
    (h : w.state.GivesNoConnection) : Unserved op w := by
  have hdecided : ¬ op.PassesChecks → (op.run w).2 = w := by
    intro hchecks
    rw [op.run_eq_course]
    exact Course.run_of_not_connects fun hcourse => hchecks (op.connects_iff.mp hcourse)
  have hclosed : op.PassesChecks → w.state.isClosed = true →
      op.run w = (.error State.closedError, w) := by
    intro hchecks hclosed
    rw [op.run_eq_course]
    exact Course.run_of_acquire_error (op.connects_iff.mpr hchecks)
      (State.acquire_of_closed hclosed)
  have hfailing : op.PassesChecks → w.state.isClosed = false → ∀ message,
      w.state.availability = .failing message →
        op.run w = (.error (.connectionRetrieve message none), w) := by
    intro hchecks hopen message hfailing
    rw [op.run_eq_course]
    exact Course.run_of_acquire_error (op.connects_iff.mpr hchecks)
      (State.acquire_of_failing hopen hfailing)
  have hempty : op.PassesChecks → w.state.isClosed = false → w.state.availability = .empty →
      op.run w = (.ok op.absent, { w with warnings := w.warnings ++ [.noConnection] }) := by
    intro hchecks hopen hempty
    rw [op.run_eq_course, ← op.course_absent hchecks]
    exact Course.run_of_acquire_none (op.connects_iff.mpr hchecks)
      (State.acquire_of_empty hopen hempty)
  refine ⟨?_, hdecided, hclosed, hfailing, hempty⟩
  by_cases hchecks : op.PassesChecks
  · cases hopen : w.state.isClosed with
    | true => rw [hclosed hchecks hopen]
    | false =>
        cases hmode : w.state.availability with
        | available =>
            rcases h with hclosed | hnone
            · rw [hopen] at hclosed
              cases hclosed
            · exact absurd hmode hnone
        | empty => rw [hempty hchecks hopen hmode]
        | failing message => rw [hfailing hchecks hopen message hmode]
  · rw [hdecided hchecks]

end Scripted

/-! ## Sessions in which the source may be closed -/

/-- A step of a session: an operation, or closing the source. -/
inductive SessionStep (D : Driver) : Type 1 where
  | operation (op : AnyOperation D)
  | close

namespace SessionStep

/-- The world after a step. -/
def run : SessionStep D → World D → World D
  | operation op, w => (op.2.run w).2
  | close, w => (Database.close w).2

/-- Some steps, taken one after the other, each with the world before it. -/
def history : List (SessionStep D) → World D → List (SessionStep D × World D)
  | [], _ => []
  | step :: rest, w => (step, w) :: history rest (step.run w)

/-- What every step keeps holds before each of them. -/
theorem history_invariant {I : World D → Prop} (hstep : ∀ (step : SessionStep D) w, I w →
    I (step.run w)) (steps : List (SessionStep D)) {w : World D} (hw : I w) :
    ∀ x ∈ history steps w, I x.2 := by
  induction steps generalizing w with
  | nil =>
      intro x hx
      cases hx
  | cons step rest ih =>
      intro x hx
      rcases List.mem_cons.mp hx with rfl | hx
      · exact hw
      · exact ih (hstep step w hw) x hx

end SessionStep

namespace Scripted

/-- The source is as it was, but that it may have been closed. -/
def SameButClosed (s t : State) : Prop := t = { s with isClosed := t.isClosed }

/-- What a step comes to in a world whose source gives no connection. -/
def WithoutEffect : SessionStep source → World source → Prop
  | .operation op, w => Unserved op.2 w
  | .close, w =>
    Database.close w = (.ok (), { w with state := { w.state with isClosed := true } })

/-- Every step comes to that. -/
theorem step_without_effect (step : SessionStep source) {w : World source}
    (h : w.state.GivesNoConnection) : WithoutEffect step w := by
  cases step with
  | operation op => exact operation_unserved op.2 h
  | close => rfl

/-- After a step without effect the source is as it was, or closed. -/
theorem WithoutEffect.state {step : SessionStep source} {w : World source}
    (h : WithoutEffect step w) :
    (step.run w).state = w.state ∨ (step.run w).state = { w.state with isClosed := true } := by
  cases step with
  | operation op => exact .inl (Unserved.state h)
  | close => exact .inr rfl

/-- A source that gives no connection gives none after a step, either. -/
theorem WithoutEffect.givesNoConnection {step : SessionStep source} {w : World source}
    (h : WithoutEffect step w) (hw : w.state.GivesNoConnection) :
    (step.run w).state.GivesNoConnection := by
  rcases h.state with hstate | hstate
  · rw [hstate]
    exact hw
  · rw [hstate]
    exact .inl rfl

theorem WithoutEffect.sameButClosed {step : SessionStep source} {w : World source}
    (h : WithoutEffect step w) {s : State} (hw : SameButClosed s w.state) :
    SameButClosed s (step.run w).state := by
  rcases h.state with hstate | hstate
  · rw [hstate]
    exact hw
  · rw [SameButClosed, hstate, hw]

/-- Nothing opens a source again. -/
theorem isClosed_of_step (step : SessionStep source) {w : World source}
    (h : w.state.isClosed = true) : (step.run w).state.isClosed = true := by
  rcases (step_without_effect step (.inl h)).state with hstate | hstate
  · rw [hstate]
    exact h
  · rw [hstate]

/-- **Without a connection nothing has an effect.**  A source that was closed,
that fails or that has no connection to give stays so, whatever steps follow: no
step opens a connection or a statement, records an execution or takes a
response.  An operation whose checks pass tells that the source was closed, else
its failure; where there merely is no connection, it gives nothing, or its
fallback, with one warning.  And whatever the source, once it was closed it is
closed before and after each later step. -/
theorem no_connection_no_effect (steps : List (SessionStep source)) (w : World source) :
    (w.state.GivesNoConnection → ∀ x ∈ SessionStep.history steps w,
      WithoutEffect x.1 x.2 ∧
        x.2.state.GivesNoConnection ∧ SameButClosed w.state x.2.state ∧
        (x.1.run x.2).state.GivesNoConnection ∧ SameButClosed w.state (x.1.run x.2).state) ∧
    (SessionStep.history steps w).Pairwise fun x y =>
      (x.1.run x.2).state.isClosed = true →
        y.2.state.isClosed = true ∧ (y.1.run y.2).state.isClosed = true := by
  constructor
  · intro hw x hx
    have hbefore : x.2.state.GivesNoConnection ∧ SameButClosed w.state x.2.state := by
      refine SessionStep.history_invariant
        (I := fun v : World source => v.state.GivesNoConnection ∧ SameButClosed w.state v.state)
        (fun step v hv => ?_) steps ⟨hw, rfl⟩ x hx
      have hstep := step_without_effect step hv.1
      exact ⟨hstep.givesNoConnection hv.1, hstep.sameButClosed hv.2⟩
    have heffect := step_without_effect x.1 hbefore.1
    exact ⟨heffect, hbefore.1, hbefore.2, heffect.givesNoConnection hbefore.1,
      heffect.sameButClosed hbefore.2⟩
  · induction steps generalizing w with
    | nil => exact .nil
    | cons step rest ih =>
        refine .cons (fun y hy hclosed => ?_) (ih _)
        have hbefore : y.2.state.isClosed = true :=
          SessionStep.history_invariant (I := fun v : World source => v.state.isClosed = true)
            (fun step v => isClosed_of_step step) rest hclosed y hy
        exact ⟨hbefore, isClosed_of_step y.1 hbefore⟩

/-- A source that has no connection to give answers with the fallback, then it is
closed, and an update is told so; a response and the batch without rows are left
alone. -/
theorem no_effect_on_empty_source :
    let lookUp : Operation source Int64 :=
      .queryObjectOrElse "SELECT n FROM t WHERE id = ?" (.untyped [.int64 7])
        (singleColumn .int64) 5
    let remove : Operation source (Option Int64) := .updateWith "DELETE FROM t" none true
    let nothing : Operation source (Option (List UInt64)) := .batchUpdateTyped "" [] []
    let s : State := { responses := [.update 1 none], availability := .empty }
    let steps : List (SessionStep source) :=
      [.operation ⟨_, lookUp⟩, .close, .operation ⟨_, remove⟩, .operation ⟨_, nothing⟩]
    s.GivesNoConnection ∧
      lookUp.run ⟨s, []⟩ = (.ok 5, ⟨s, [.noConnection]⟩) ∧
      remove.run ⟨{ s with isClosed := true }, [.noConnection]⟩ =
        (.error (.connectionRetrieve "in-memory source has been closed" none),
          ⟨{ s with isClosed := true }, [.noConnection]⟩) ∧
      ∀ x ∈ SessionStep.history steps ⟨s, []⟩, SameButClosed s (x.1.run x.2).state := by
  intro lookUp remove nothing s steps
  have hs : s.GivesNoConnection := .inr (by decide)
  have hlookUp : lookUp.PassesChecks := ⟨textPasses_some.mpr (by decide), trivial⟩
  have hremove : remove.PassesChecks := ⟨textPasses_some.mpr (by decide), trivial⟩
  have heffect := (no_connection_no_effect steps ⟨s, []⟩).1 hs
  have hfirst : Unserved lookUp ⟨s, []⟩ := (heffect _ List.mem_cons_self).1
  have hfound := hfirst.empty hlookUp rfl rfl
  have hthird : Unserved remove (SessionStep.close.run (lookUp.run ⟨s, []⟩).2) :=
    (heffect _ (List.mem_cons_of_mem _ (List.mem_cons_of_mem _ List.mem_cons_self))).1
  rw [hfound] at hthird
  exact ⟨hs, hfound, hthird.closed hremove rfl, fun x hx => (heffect x hx).2.2.2.2⟩

end Scripted

end SqlAccess
