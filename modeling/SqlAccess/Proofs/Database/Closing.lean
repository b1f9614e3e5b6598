import SqlAccess.Proofs.Database.Operation
import SqlAccess.Proofs.Statement.Program

/-!
# Who closes a statement

The library closes the statement of every operation when the work with it is
done.  The programs that it runs with the statement before that make no call to
close it, whatever setters bind its parameters.  A caller's own program may.

* `Database.onlyCalls_*` — the library's programs do not close their statement;
* `Operation.LeavesClosing` — operations that leave closing to the library;
* `Operation.course_leavesClosing` — their courses do, too.
-/

namespace SqlAccess

variable {α β γ ε : Type}

/-! ## Calls of one sort -/

namespace Program

variable {Call : Type} {Response : Call → Type} {P : Call → Prop}

theorem OnlyCalls.orFail {p : Program Call Response (Except SqlError α)} (hp : p.OnlyCalls P) :
    p.orFail.OnlyCalls P :=
  hp.bind fun _ => trivial

/-- Work with the parameters makes calls about parameters only. -/
theorem onlyCalls_onPrepared {P : PreparedCall → Prop} (h : ∀ c, P (.binding c))
    (p : BindingProgram α) : p.onPrepared.OnlyCalls P := by
  induction p with
  | done a => trivial
  | call c next ih => exact ⟨h c, ih⟩

end Program

/-! ## The library's programs -/

namespace Database

/-- The program of an update asks for the generated keys at most, once it has the
count. -/
theorem onlyCalls_updateResult {Call : Type} {Response : Call → Type} {P : Call → Prop}
    (returnsKeys : Bool) {keys : Program Call Response (Except SqlError ResultSet)}
    (h : keys.OnlyCalls P) (affected : UInt64) :
    (updateResult returnsKeys keys affected).OnlyCalls P := by
  cases returnsKeys with
  | true => exact h.orFail.andThen fun _ => trivial
  | false => trivial

/-- A plain statement is not closed by the programs that the library runs with
it. -/
theorem onlyCalls_updateAction (sql : String) (returnsKeys : Bool) :
    (updateAction sql returnsKeys).program.OnlyCalls (· ≠ .close) := by
  have hupdate : (StatementCall.update sql returnsKeys).perform.OnlyCalls (· ≠ .close) :=
    ⟨StatementCall.noConfusion, fun _ => trivial⟩
  have hkeys : StatementCall.generatedKeys.perform.OnlyCalls (· ≠ .close) :=
    ⟨StatementCall.noConfusion, fun _ => trivial⟩
  exact hupdate.orFail.andThen (onlyCalls_updateResult returnsKeys hkeys)

theorem onlyCalls_queryAction (sql : String) (x : Extractor α) :
    (queryAction sql x).program.OnlyCalls (· ≠ .close) := by
  have hquery : (StatementCall.query sql).perform.OnlyCalls (· ≠ .close) :=
    ⟨StatementCall.noConfusion, fun _ => trivial⟩
  exact hquery.orFail.andThen fun _ => trivial

/-- Nor is a prepared one, whatever the setters do. -/
theorem onlyCalls_applySetter (setter : Option Setter) :
    (applySetter setter).OnlyCalls (· ≠ .close) := by
  cases setter with
  | none => trivial
  | some s => exact Program.onlyCalls_onPrepared (fun _ => PreparedCall.noConfusion) s

theorem onlyCalls_preparedUpdateAction (setter : Option Setter) (returnsKeys : Bool) :
    (preparedUpdateAction setter returnsKeys).program.OnlyCalls (· ≠ .close) := by
  have hupdate : PreparedCall.update.perform.OnlyCalls (· ≠ .close) :=
    ⟨PreparedCall.noConfusion, fun _ => trivial⟩
  have hkeys : PreparedCall.generatedKeys.perform.OnlyCalls (· ≠ .close) :=
    ⟨PreparedCall.noConfusion, fun _ => trivial⟩
  exact (onlyCalls_applySetter setter).andThen fun _ =>
    hupdate.orFail.andThen (onlyCalls_updateResult returnsKeys hkeys)

theorem onlyCalls_preparedQueryAction (setter : Option Setter) (x : Extractor α) :
    (preparedQueryAction setter x).program.OnlyCalls (· ≠ .close) := by
  have hquery : PreparedCall.query.perform.OnlyCalls (· ≠ .close) :=
    ⟨PreparedCall.noConfusion, fun _ => trivial⟩
  exact (onlyCalls_applySetter setter).andThen fun _ => hquery.orFail.andThen fun _ => trivial

theorem onlyCalls_addEntries (setters : List Setter) :
    (addEntries setters).OnlyCalls (· ≠ .close) := by
  have hadd : (PreparedCall.binding .addBatch).perform.OnlyCalls (· ≠ .close) :=
    ⟨PreparedCall.noConfusion, fun _ => trivial⟩
  induction setters with
  | nil => trivial
  | cons s rest ih =>
      have hfirst := Program.onlyCalls_onPrepared (P := (· ≠ .close))
        (fun _ => PreparedCall.noConfusion) s
      exact hfirst.andThen fun _ => hadd.orFail.andThen fun _ => ih

theorem onlyCalls_batchAction (setters : List Setter) :
    (batchAction setters).program.OnlyCalls (· ≠ .close) := by
  have hbatch : PreparedCall.batch.perform.OnlyCalls (· ≠ .close) :=
    ⟨PreparedCall.noConfusion, fun _ => trivial⟩
  refine ⟨PreparedCall.noConfusion, fun supported => ?_⟩
  cases supported with
  | false => trivial
  | true => exact (onlyCalls_addEntries setters).andThen fun _ => hbatch.orFail

end Database

/-! ## Courses and operations -/

/-- The course's action leaves closing its statement to the library. -/
def Course.LeavesClosing {D : Driver} : Course D β → Prop
  | atOnce _ => True
  | plain action _ => action.program.OnlyCalls (· ≠ .close)
  | prepared _ action _ => action.program.OnlyCalls (· ≠ .close)

/-- The operation leaves closing its statement to the library.  Updates, queries and
batches always do; where the caller's own program works with the statement, it makes
no call to close it. -/
def Operation.LeavesClosing {D : Driver} : Operation D β → Prop
  | execute action => action.program.OnlyCalls (· ≠ .close)
  | executePrepared _ action | executeSql _ action => action.program.OnlyCalls (· ≠ .close)
  | _ => True

section

variable {D : Driver}

theorem Course.LeavesClosing.andThen {course : Course D β} (h : course.LeavesClosing)
    (f : β → Except Error γ) : (course.andThen f).LeavesClosing := by
  cases course with
  | atOnce r => trivial
  | plain action finish => exact h
  | prepared preparer action finish => exact h

theorem Course.leavesClosing_ofSql (sql : String) (returnsKeys : Bool)
    {next : Preparer D → Course D β} (h : ∀ preparer, (next preparer).LeavesClosing) :
    (ofSql sql returnsKeys next).LeavesClosing := by
  unfold ofSql
  cases Creator.ofSql sql returnsKeys with
  | error e => trivial
  | ok creator => exact h creator

theorem Course.leavesClosing_preparedUpdate (setter : Option Setter) (returnsKeys : Bool)
    (preparer : Preparer D) : (preparedUpdate setter returnsKeys preparer).LeavesClosing :=
  Database.onlyCalls_preparedUpdateAction setter returnsKeys

theorem Course.leavesClosing_preparedQuery (setter : Option Setter) (x : Extractor α)
    (preparer : Preparer D) : (preparedQuery setter x preparer).LeavesClosing :=
  Database.onlyCalls_preparedQueryAction setter x

theorem Course.leavesClosing_batch (sql : String) (setters : List Setter) :
    (batch (D := D) sql setters).LeavesClosing :=
  leavesClosing_ofSql sql false fun _ => Database.onlyCalls_batchAction setters

theorem Course.leavesClosing_query (sql : String) (args : Arguments) (x : Extractor α) :
    (query (D := D) sql args x).LeavesClosing := by
  cases args with
  | none => exact Database.onlyCalls_queryAction sql x
  | untyped values => exact leavesClosing_ofSql sql false (leavesClosing_preparedQuery _ x)
  | typed values types => exact leavesClosing_ofSql sql false (leavesClosing_preparedQuery _ x)

theorem Operation.course_leavesClosing (op : Operation D β) (h : op.LeavesClosing) :
    op.course.LeavesClosing := by
  cases op with
  | execute action => exact h
  | executePrepared preparer action => exact h
  | executeSql sql action =>
      simp only [course]
      exact Course.leavesClosing_ofSql sql false fun _ => h
  | update sql returnsKeys =>
      cases returnsKeys with
      | true => exact Course.leavesClosing_ofSql sql true (Course.leavesClosing_preparedUpdate _ _)
      | false => exact Database.onlyCalls_updateAction sql false
  | updatePrepared preparer setter returnsKeys =>
      exact Course.leavesClosing_preparedUpdate setter returnsKeys preparer
  | updateWith sql setter returnsKeys =>
      exact Course.leavesClosing_ofSql sql returnsKeys (Course.leavesClosing_preparedUpdate _ _)
  | updateTyped sql values types returnsKeys =>
      exact Course.leavesClosing_ofSql sql returnsKeys (Course.leavesClosing_preparedUpdate _ _)
  | batchUpdate sql setter => exact Course.leavesClosing_batch sql _
  | batchUpdateTyped sql rows types =>
      simp only [course]
      split
      · trivial
      · exact Course.leavesClosing_batch sql _
  | batchUpdateWith sql items setter =>
      simp only [course]
      split
      · exact Course.leavesClosing_ofSql sql false fun _ => trivial
      · exact Course.leavesClosing_batch sql _
  | queryPrepared preparer setter x => exact Course.leavesClosing_preparedQuery setter x preparer
  | queryWith sql setter x =>
      exact Course.leavesClosing_ofSql sql false (Course.leavesClosing_preparedQuery _ x)
  | query sql args x => exact Course.leavesClosing_query sql args x
  | queryOrElse sql args x fallback => exact (Course.leavesClosing_query sql args x).andThen _
  | queryList sql args mapper => exact Course.leavesClosing_query sql args _
  | queryListOrElse sql args mapper fallback =>
      exact (Course.leavesClosing_query sql args _).andThen _
  | queryObject sql args mapper => exact (Course.leavesClosing_query sql args _).andThen _
  | queryObjectOrElse sql args mapper fallback =>
      exact (Course.leavesClosing_query sql args _).andThen _

end

end SqlAccess
