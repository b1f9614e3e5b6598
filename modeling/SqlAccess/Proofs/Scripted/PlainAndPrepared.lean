import SqlAccess.Database.Query
import SqlAccess.Proofs.Scripted.Release
import SqlAccess.Proofs.Statement.Entries

/-!
# Plain statements and prepared ones

A SQL text without placeholders can be run by a plain statement, or by one that
is prepared from it and has nothing bound.  On a scripted source this makes no
difference but for the context that is told with a failure.

The two kinds of statements are compared call by call.  A plain statement has a
twin among the prepared ones.  The twin answers the counterpart of a call as the
statement answers the call, and is the twin of what the statement is after it;
and so it goes on for a whole program.

* `Statement.twin` — the prepared statement that is a plain one's twin;
* `Mirrors` — programs that make the same calls on them;
* `Mirrors.run_twin` — **a twin answers such programs as the statement does**;
* `execute_agrees` — operations with either kind of statement;
* `plain_and_prepared_agree` — queries and updates, however they are called.
-/

namespace SqlAccess

/-- The same error, told in the context of a plain statement and in that of a
prepared one, if it is told in one. -/
inductive Error.SameButContext : Error → Error → Prop where
  | same (e : Error) : SameButContext e e
  | context (sql : Option String) (code : Option Int) (message : String) :
    SameButContext (.dataAccess Database.statementContext sql code message)
      (.dataAccess Database.preparedContext sql code message)

namespace Scripted

variable {α β : Type} {sql : String} {returnsKeys supportsBatch : Bool}

/-! ## Twins -/

/-- The statement prepared from a SQL text without placeholders that was asked
what the plain statement was asked. -/
def Statement.twin (sql : String) (returnsKeys supportsBatch : Bool) (st : Statement) :
    Prepared where
  sql := sql
  inputs := .ofCount 0
  returnsKeys := returnsKeys
  supportsBatch := supportsBatch
  generatedKey := st.generatedKey
  isClosed := st.isClosed

/-- What work with a statement came to, with the statement's twin instead. -/
def withTwin {ρ : Type} (sql : String) (returnsKeys supportsBatch : Bool)
    (x : ρ × Statement × State) : ρ × Prepared × State :=
  (x.1, x.2.1.twin sql returnsKeys supportsBatch, x.2.2)

section

variable (st : Statement) (s : State)

theorem answer_query_twin : (st.twin sql returnsKeys supportsBatch).answer .query s =
    withTwin sql returnsKeys supportsBatch (st.answer (.query sql) s) := rfl

theorem answer_update_twin : (st.twin sql returnsKeys supportsBatch).answer .update s =
    withTwin sql returnsKeys supportsBatch (st.answer (.update sql returnsKeys) s) := by
  have htake : (.ofCount 0 : Inputs Parameter).take id = (.ok [], .ofCount 0) := rfl
  simp only [Prepared.answer, Statement.answer, Statement.twin, htake]
  rcases s.runUpdate sql [] with ⟨e | ⟨affected, key⟩, s'⟩
  · rfl
  · rfl

theorem answer_generatedKeys_twin :
    (st.twin sql returnsKeys supportsBatch).answer .generatedKeys s =
      withTwin sql returnsKeys supportsBatch (st.answer .generatedKeys s) := rfl

theorem answer_close_twin : (st.twin sql returnsKeys supportsBatch).answer .close s =
    withTwin sql returnsKeys supportsBatch (st.answer .close s) := rfl

end

/-! ## Programs -/

/-- A program on a plain statement and one on a statement prepared from `sql`
that make the same calls; the first names the SQL text in each of them. -/
inductive Mirrors (sql : String) (returnsKeys : Bool) :
    StatementProgram α → PreparedProgram α → Prop where
  | done (a : α) : Mirrors sql returnsKeys (.done a) (.done a)
  | query {next : Except SqlError ResultSet → StatementProgram α}
      {next' : Except SqlError ResultSet → PreparedProgram α}
      (h : ∀ r, Mirrors sql returnsKeys (next r) (next' r)) :
      Mirrors sql returnsKeys (.call (.query sql) next) (.call .query next')
  | update {next : Except SqlError UInt64 → StatementProgram α}
      {next' : Except SqlError UInt64 → PreparedProgram α}
      (h : ∀ r, Mirrors sql returnsKeys (next r) (next' r)) :
      Mirrors sql returnsKeys (.call (.update sql returnsKeys) next) (.call .update next')
  | generatedKeys {next : Except SqlError ResultSet → StatementProgram α}
      {next' : Except SqlError ResultSet → PreparedProgram α}
      (h : ∀ r, Mirrors sql returnsKeys (next r) (next' r)) :
      Mirrors sql returnsKeys (.call .generatedKeys next) (.call .generatedKeys next')
  | close {next : Except SqlError Unit → StatementProgram α}
      {next' : Except SqlError Unit → PreparedProgram α}
      (h : ∀ r, Mirrors sql returnsKeys (next r) (next' r)) :
      Mirrors sql returnsKeys (.call .close next) (.call .close next')

/-- **A twin answers a program's mirror as the statement answers the program.** -/
theorem Mirrors.run_twin {plain : StatementProgram α} {prepared : PreparedProgram α}
    (h : Mirrors sql returnsKeys plain prepared) (st : Statement) (s : State) :
    prepared.run (fun c (x : Prepared × State) => x.1.answer c x.2)
        (st.twin sql returnsKeys supportsBatch, s) =
      withTwin sql returnsKeys supportsBatch
        (plain.run (fun c (x : Statement × State) => x.1.answer c x.2) (st, s)) := by
  induction h generalizing st s with
  | done a => rfl
  | query _ ih =>
      rw [Program.run, answer_query_twin]
      exact ih _ _ _
  | update _ ih =>
      rw [Program.run, answer_update_twin]
      exact ih _ _ _
  | generatedKeys _ ih =>
      rw [Program.run, answer_generatedKeys_twin]
      exact ih _ _ _
  | close _ ih =>
      rw [Program.run, answer_close_twin]
      exact ih _ _ _

/-- A query makes the same call either way. -/
theorem mirrors_queryAction (x : Extractor α) :
    Mirrors sql returnsKeys (Database.queryAction sql x).program
      (Database.preparedQueryAction none x).program := by
  refine .query fun r => ?_
  cases r with
  | ok rows => exact .done _
  | error e => exact .done _

/-- An update makes the same calls either way, that for its key included. -/
theorem mirrors_updateAction :
    Mirrors sql returnsKeys (Database.updateAction sql returnsKeys).program
      (Database.preparedUpdateAction none returnsKeys).program := by
  refine .update fun r => ?_
  cases r with
  | error e => exact .done _
  | ok affected =>
      cases returnsKeys with
      | false => exact .done _
      | true =>
          refine .generatedKeys fun keys => ?_
          cases keys with
          | ok rows => exact .done _
          | error e => exact .done _

/-! ## Operations -/

/-- What comes of an operation with a plain statement and of one with a prepared
statement: the result is the same up to the context told with a failure, and
the source is left in the same state. -/
structure Agree (plain prepared : Except Error β × World source) : Prop where
  result : (∃ b, plain.1 = .ok b ∧ prepared.1 = .ok b) ∨
    ∃ e e', plain.1 = .error e ∧ prepared.1 = .error e' ∧ e.SameButContext e'
  state : prepared.2.state = plain.2.state

namespace Agree

variable {plain prepared : Except Error β × World source}

theorem of_eq (hresult : prepared.1 = plain.1) (hstate : prepared.2.state = plain.2.state) :
    Agree plain prepared := by
  refine ⟨?_, hstate⟩
  cases hr : plain.1 with
  | ok b => exact .inl ⟨b, rfl, hresult.trans hr⟩
  | error e => exact .inr ⟨e, e, rfl, hresult.trans hr, .same e⟩

/-- What is made of the results afterwards agrees, too. -/
theorem map (h : Agree plain prepared) (f : β → α) :
    Agree (plain.1.map f, plain.2) (prepared.1.map f, prepared.2) := by
  refine ⟨?_, h.state⟩
  rcases h.result with ⟨b, hb, hb'⟩ | ⟨e, e', he, he', hsame⟩
  · exact .inl ⟨f b, congrArg (Except.map f) hb, congrArg (Except.map f) hb'⟩
  · exact .inr ⟨e, e', congrArg (Except.map f) he, congrArg (Except.map f) he', hsame⟩

/-- A driver's failure is told with either context, every other result is as it
is. -/
theorem inOperation (r : Except Error β) {w w' : World source} (h : w'.state = w.state) :
    Agree (r.mapError (Error.inOperation Database.statementContext (some sql)), w)
      (r.mapError (Error.inOperation Database.preparedContext (some sql)), w') := by
  cases r with
  | ok b => exact of_eq rfl h
  | error e =>
      cases e with
      | driver e => exact ⟨.inr ⟨_, _, rfl, rfl, .context (some sql) e.code e.message⟩, h⟩
      | _ => exact of_eq rfl h

end Agree

/-- The creator of a SQL text that holds more than blanks. -/
def creatorOf (sql : String) (returnsKeys : Bool) : Creator := ⟨some sql, .ok (sql, returnsKeys)⟩

theorem ofSql_eq_creatorOf (hsql : ¬ Text.IsBlankText sql) :
    Creator.ofSql sql returnsKeys = .ok (creatorOf sql returnsKeys) := if_neg hsql

/-- Work with a new statement of either kind gives the same, and the statement is
closed after it. -/
theorem withPrepared_of_mirrors (hnone : placeholders sql = 0) {a : StatementAction α}
    {b : PreparedAction α} (h : Mirrors sql returnsKeys a.program b.program) (c : Connection)
    (w : World source) :
    let plain := Database.withStatement c a w
    let prepared := Database.withPrepared c (creatorOf sql returnsKeys) b w
    prepared.1 = plain.1 ∧ prepared.2.state = plain.2.state := by
  have hcreate : source.createStatement c w.state = (.ok {}, w.state.openStatement) := rfl
  have hprepare : (creatorOf sql returnsKeys).preparer.prepare c w =
      (.ok (c.prepared sql returnsKeys), { w with state := w.state.openStatement }) := rfl
  have hnew : c.prepared sql returnsKeys =
      Statement.twin sql returnsKeys c.supportsBatch {} := by
    rw [Connection.prepared, hnone]
    rfl
  have hrun : b.program.run (fun c (x : Prepared × State) => x.1.answer c x.2)
      (c.prepared sql returnsKeys, w.state.openStatement) = _ :=
    hnew ▸ h.run_twin {} w.state.openStatement
  rw [Database.withStatement_of_ok hcreate, Database.withPrepared_of_ok hprepare]
  simp only [Session.runOn, Session.runOnPrepared, Session.onState, hrun, closePrepared_state,
    Database.closeStatement_state]
  exact ⟨rfl, rfl⟩

/-- **An action with a plain statement and its mirror on a prepared one agree**,
whatever the source has to give. -/
theorem execute_agrees (hnone : placeholders sql = 0) {a : StatementAction α}
    {b : PreparedAction α} (hsql : a.sql = some sql)
    (h : Mirrors sql returnsKeys a.program b.program) (w : World source) :
    Agree (Database.execute a w)
      (Database.executePrepared (creatorOf sql returnsKeys) b w) := by
  rw [Database.execute, Database.executePrepared]
  rcases w.state.acquire_cases with ⟨e, hacquire⟩ | hacquire | hacquire
  · rw [Database.withConnection_of_error hacquire, Database.withConnection_of_error hacquire]
    exact .of_eq rfl rfl
  · rw [Database.withConnection_of_none hacquire, Database.withConnection_of_none hacquire]
    exact .of_eq rfl rfl
  · rw [Database.withConnection_of_some hacquire, Database.withConnection_of_some hacquire]
    obtain ⟨hresult, hstate⟩ := withPrepared_of_mirrors hnone h
      { supportsBatch := w.state.supportsBatch } { w with state := { w.state with connections :=
        { w.state.connections with opened := w.state.connections.opened + 1 } } }
    -- The result is told in two contexts; giving the connection back changes the states alike.
    simp only [Session.bind_apply, Session.pure_apply, hresult, hsql]
    refine (Agree.inOperation _ ?_).map some
    rw [Database.release_state, Database.release_state, hstate]

/-- Binding no values, under whatever types, is binding nothing. -/
theorem applySetter_typed_nil (types : List SqlType) :
    Database.applySetter (some (.typed [] types)) = Database.applySetter none := by
  have hle : ([] : List Value).length ≤ types.length := Nat.zero_le _
  rw [Database.applySetter, typed_of_le hle, entryOf, List.zipWith_nil_right]
  rfl

/-- **Queries and updates without parameters agree**, however they are called:
with a plain statement or a prepared one, without values or with an empty list
of them, under any types.  The calls that prepare a statement do just the
same. -/
theorem plain_and_prepared_agree (hsql : ¬ Text.IsBlankText sql) (hnone : placeholders sql = 0)
    (w : World source) (types : List SqlType) :
    (∀ (α : Type) (x : Extractor α),
      Agree (Database.query sql .none x w) (Database.queryWith sql none x w) ∧
        Database.query sql (.untyped []) x w = Database.queryWith sql none x w ∧
        Database.query sql (.typed [] types) x w = Database.queryWith sql none x w) ∧
    Agree (Database.update sql false w) (Database.updateWith sql none false w) ∧
      Database.updateTyped sql [] types false w = Database.updateWith sql none false w := by
  refine ⟨?_, ?_, ?_⟩
  · intro α x
    have htyped : Database.preparedQueryAction (some (.typed [] types)) x =
        Database.preparedQueryAction none x := by
      simp only [Database.preparedQueryAction, applySetter_typed_nil]
    refine ⟨?_, rfl, ?_⟩
    · have hmirrors : Mirrors sql false _ _ := mirrors_queryAction x
      rw [Database.queryWith, ofSql_eq_creatorOf hsql]
      exact (execute_agrees hnone rfl hmirrors w).map Option.join
    · simp only [Database.query, Database.queryWith, Database.queryPrepared, htyped]
  · rw [Database.updateWith, ofSql_eq_creatorOf hsql]
    exact execute_agrees hnone rfl mirrors_updateAction w
  · simp only [Database.updateTyped, Database.updateWith, Database.updatePrepared,
      Database.preparedUpdateAction, applySetter_typed_nil]

/-- The question mark is in a literal; the source fails the query with a code, and
closing the statement fails, too. -/
theorem plain_and_prepared_agree_on_failure :
    let w : World source :=
      ⟨{ responses := [.error { message := "deadlock", code := some 1213 }],
          failsStatementClose := true }, []⟩
    let sql := "SELECT 'why?'"
    let x : Extractor (List Int64) := Database.all (singleColumn .int64)
    (¬ Text.IsBlankText sql ∧ placeholders sql = 0) ∧
      Agree (Database.query sql .none x w) (Database.queryWith sql none x w) ∧
      (Database.query sql .none x w).1 =
        .error (.dataAccess "statement callback" (some sql) (some 1213) "deadlock") ∧
      (Database.queryWith sql none x w).1 =
        .error (.dataAccess "prepared statement callback" (some sql) (some 1213) "deadlock") := by
  have hnone : placeholders "SELECT 'why?'" = 0 := by rfl
  intro w sql x
  have hsql : ¬ Text.IsBlankText sql := by decide
  refine ⟨⟨hsql, hnone⟩, ((plain_and_prepared_agree hsql hnone w []).1 _ x).1, rfl, ?_⟩
  show (Database.queryWith (D := source) "SELECT 'why?'" none _ _).1 = _
  rfl

end Scripted

end SqlAccess
