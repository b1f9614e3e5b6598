import SqlAccess.Proofs.Scripted.Arity
import SqlAccess.Proofs.Scripted.Unavailable

/-!
# What a query gives

A query asks for a connection, binds its arguments, takes the next response and has
the extractor read its rows.  What it finds on this way does not depend on the
extractor: a failure, no connection, or the rows.

* `Arguments.error?` — why arguments are refused, if they are;
* `State.rowsFor` — what a query finds before its rows are read;
* `run_arguments` — the work with a prepared statement;
* `query_result` — **what a query finds decides what it gives**, however its
  arguments are given.
-/

namespace SqlAccess

variable {α : Type}

/-! ## Arguments -/

/-- Why `k` values cannot be bound to `n` placeholders, if they cannot. -/
def countError? (n k : Nat) : Option Error :=
  if n < k then some (.driver ((SqlError.indexOutOfRange (n + 1) n).atParameter (n + 1)))
  else if k < n then some (.driver (.noValueFor (k + 1)))
  else none

/-- With a type for each of them, values are refused for their number alone. -/
theorem rowError?_of_le {n : Nat} {types : List SqlType} {row : List Value}
    (h : row.length ≤ types.length) : rowError? n types row = countError? n row.length := by
  rw [rowError?, if_neg (by omega), countError?]

namespace Arguments

/-- Why a query with such arguments is refused, if it has `n` placeholders.  A plain
statement has its placeholders sent as they are. -/
def error? (n : Nat) : Arguments → Option Error
  | none => .none
  | untyped values => countError? n values.length
  | typed values types => rowError? n types values

/-- The setter that binds them, unless there are none. -/
def setter? : Arguments → Option Setter
  | none => .none
  | untyped values => some (.untyped values)
  | typed values types => some (.typed values types)

/-- The context told with a failure of a query with such arguments. -/
def context : Arguments → String
  | none => Database.statementContext
  | untyped _ | typed .. => Database.preparedContext

end Arguments

namespace Scripted

variable {sql : String} {n : Nat}

/-! ## What a query finds -/

namespace State

/-- What the next response gives to a query. -/
def nextRows (s : State) : Except SqlError ResultSet :=
  match s.responses.head? with
  | none => .ok .empty
  | some (.rows r) => .ok r
  | some (.error e) => .error e
  | some other => .error (wrongKind other .query)

/-- What a query finds before its rows are read: a failure, no connection, or the
rows. -/
def rowsFor (s : State) (sql : String) (args : Arguments) : Except Error (Option ResultSet) :=
  match s.acquire.1 with
  | .error e => .error e.inAcquisition
  | .ok none => .ok none
  | .ok (some _) =>
    match args.error? (placeholders sql) with
    | some e => .error (e.inOperation args.context (some sql))
    | none =>
      (s.nextRows.mapError fun e => Error.inOperation args.context (some sql) (.driver e)).map some

theorem runQuery_fst (s : State) (sql : String) (params : List Parameter) :
    (s.runQuery sql params).1 = s.nextRows := by
  simp only [runQuery, run, nextRows]
  rcases s.responses.head? with _ | _ | _ | _ | _ <;> rfl

end State

/-! ## Making a query -/

/-- What an extractor makes of what a query was given. -/
def readRows (x : Extractor α) : Except SqlError ResultSet → Except Error (Option α)
  | .ok r => (x r.cursor).1
  | .error e => .error (.driver e)

/-- What work with a query's statement gives, if it has `n` placeholders: why the
arguments are refused, else what the extractor makes of the next response. -/
def State.readFor (s : State) (n : Nat) (args : Arguments) (x : Extractor α) :
    Except Error (Option α) :=
  match args.error? n with
  | some e => .error e
  | none => readRows x s.nextRows

/-- After the call that queries, the extractor reads. -/
theorem run_extract {Call σ : Type} {Response : Call → Type}
    (answer : (c : Call) → σ → Response c × σ)
    (p : Program Call Response (Except SqlError ResultSet)) (x : Extractor α) (s : σ) :
    ((p.orFail.andThen (Database.extract x)).run answer s).1 =
      readRows x (p.run answer s).1 := by
  rw [Program.run_orFail_andThen]
  rcases p.run answer s with ⟨_ | r, s'⟩
  · rfl
  · rfl

/-- A plain statement queries at once. -/
theorem run_queryAction (x : Extractor α) (st : Statement) (s : State) :
    ((Database.queryAction sql x).program.run
      (fun c (t : Statement × State) => t.1.answer c t.2) (st, s)).1 = readRows x s.nextRows := by
  rw [← s.runQuery_fst sql []]
  exact run_extract _ _ x _

variable {st : Prepared}

/-- A prepared statement queries if its parameters can be taken. -/
theorem answer_query_of_taken {ps : List Parameter} {slots : Slots}
    (htake : st.inputs.slots.take = (.ok ps, slots)) (s : State) :
    (st.answer .query s).1 = s.nextRows := by
  simp only [Prepared.answer, Inputs.take, htake]
  exact s.runQuery_fst _ _

/-- Values are bound from the first placeholder on, and must be as many as there are
placeholders. -/
theorem run_bindFrom_query (ps : List Parameter) (x : Extractor α)
    (hst : st.inputs = .ofCount n) (s : State) :
    ((Database.preparedQueryAction (some (.bindFrom 1 ps)) x).program.run answerTogether
      (st, s)).1 =
      match countError? n ps.length with
      | some e => .error e
      | none => readRows x s.nextRows := by
  rw [Database.preparedQueryAction, Database.applySetter]
  by_cases hlong : n < ps.length
  · obtain ⟨st', hrun⟩ := run_bindFrom_andThen_of_lt hlong hst
      (PreparedCall.query.perform.orFail.andThen (Database.extract x)) s
    rw [countError?, if_pos hlong, hrun]
  rw [countError?, if_neg hlong, run_bindFrom_andThen (by omega) hst, run_extract]
  change readRows x (Prepared.answer .query _ s).1 = _
  by_cases hshort : ps.length < n
  · rw [if_pos hshort, answer_query_of_missing (Slots.take_filled_of_lt hshort)]
    rfl
  · rw [if_neg hshort, answer_query_of_taken (Slots.take_filled (by omega))]

/-- So it is for the arguments of a query, with types or without. -/
theorem run_arguments {args : Arguments} {setter : Setter} (hsetter : args.setter? = some setter)
    (x : Extractor α) (hst : st.inputs = .ofCount n) (s : State) :
    ((Database.preparedQueryAction (some setter) x).program.run answerTogether (st, s)).1 =
      s.readFor n args x := by
  cases args with
  | none => cases hsetter
  | untyped values =>
      cases hsetter
      have h := run_bindFrom_query (values.map Parameter.ofUntyped) x hst s
      rw [List.length_map] at h
      exact h
  | typed values types =>
      cases hsetter
      by_cases htypes : types.length < values.length
      · rw [State.readFor, Arguments.error?, rowError?, if_pos htypes, Setter.typed, if_pos htypes]
        rfl
      · have h := run_bindFrom_query (entryOf types values) x hst s
        rw [length_entryOf (by omega)] at h
        rw [typed_of_le (by omega), State.readFor, Arguments.error?, rowError?_of_le (by omega)]
        exact h

/-! ## The whole query -/

/-- A query with a prepared statement is the operation that prepares it, with one
absence for two: no connection and no result. -/
theorem queryWith_fst (sql : String) (setter : Option Setter) (x : Extractor α)
    (w : World source) :
    (Database.queryWith sql setter x w).1 =
      (Database.executeSql sql (Database.preparedQueryAction setter x) w).1.map Option.join := by
  simp only [Database.queryWith, Database.executeSql]
  cases Creator.ofSql sql false with
  | error e => rfl
  | ok creator => rfl

/-- A source that gives a connection is open and has one, and takes no response for
it. -/
theorem State.of_acquire {s s' : State} {c : Connection} (h : s.acquire = (.ok (some c), s')) :
    s.isClosed = false ∧ s.availability = .available ∧ s'.responses = s.responses := by
  unfold acquire at h
  split at h
  · cases h
  · rename_i hopen
    split at h
    · cases h
    · cases h
    · rename_i havailable
      cases h
      exact ⟨Bool.not_eq_true _ ▸ hopen, havailable, rfl⟩

/-- With a connection, an action works with a new plain statement. -/
theorem execute_fst_of_acquire (action : StatementAction α) {w : World source} {c : Connection}
    {s : State} (hacquire : source.acquire w.state = (.ok (some c), s)) :
    (Database.execute action w).1 =
      ((action.program.run (fun c (t : Statement × State) => t.1.answer c t.2)
        ({}, s.openStatement)).1.mapError
          (Error.inOperation Database.statementContext action.sql)).map some := by
  have hcreate : source.createStatement c ({ w with state := s } : World source).state =
      (.ok {}, s.openStatement) :=
    rfl
  rw [Database.execute, Database.withConnection_of_some hacquire]
  simp only [Session.bind_apply, Session.pure_apply, Database.withStatement_of_ok hcreate]
  rfl

/-- Having had a connection is not told of: a query's result is the extractor's. -/
theorem join_map_some (r : Except Error (Option α)) : (r.map some).map Option.join = r := by
  cases r <;> rfl

/-- What a query with a connection gives. -/
theorem query_fst_of_acquire (hsql : ¬ Text.IsBlankText sql) (args : Arguments)
    (x : Extractor α) {w : World source} {c : Connection} {s : State}
    (hacquire : source.acquire w.state = (.ok (some c), s)) :
    (Database.query sql args x w).1 =
      (w.state.readFor (placeholders sql) args x).mapError
        (Error.inOperation args.context (some sql)) := by
  have hprepared : ∀ setter, args.setter? = some setter →
      (Database.queryWith sql (some setter) x w).1 =
        (w.state.readFor (placeholders sql) args x).mapError
          (Error.inOperation Database.preparedContext (some sql)) := by
    intro setter hsetter
    obtain ⟨hopen, havailable, _⟩ := State.of_acquire hacquire
    obtain ⟨s, ⟨_, hresponses⟩, hresult, _⟩ := run_executeSql hopen havailable hsql
      (Database.preparedQueryAction (some setter) x)
    have hread : s.readFor (placeholders sql) args x =
        w.state.readFor (placeholders sql) args x := by
      simp only [State.readFor, State.nextRows, hresponses]
    rw [queryWith_fst, hresult, join_map_some, run_arguments hsetter x rfl s, hread]
  cases args with
  | none =>
      obtain ⟨_, _, hresponses⟩ := State.of_acquire hacquire
      have hnext : s.openStatement.nextRows = w.state.nextRows := by
        simp only [State.nextRows, State.openStatement, hresponses]
      have hquery : (Database.query sql .none x w).1 =
          (Database.execute (Database.queryAction sql x) w).1.map Option.join :=
        rfl
      rw [hquery, execute_fst_of_acquire _ hacquire, join_map_some, run_queryAction, hnext]
      rfl
  | untyped values => exact hprepared _ rfl
  | typed values types => exact hprepared _ rfl

/-- **What a query finds decides what it gives**, however its arguments are given. -/
theorem query_result (hsql : ¬ Text.IsBlankText sql) (args : Arguments) (x : Extractor α)
    (w : World source) :
    (Database.query sql args x w).1 =
      match w.state.rowsFor sql args with
      | .error e => .error e
      | .ok none => .ok none
      | .ok (some r) => (x r.cursor).1.mapError (Error.inOperation args.context (some sql)) := by
  have htext : TextPasses (args.checkedText? sql) := by
    cases args with
    | none => exact textPasses_none
    | untyped values => exact textPasses_some.mpr hsql
    | typed values types => exact textPasses_some.mpr hsql
  have hconnects := (Course.connects_query (D := source) sql args x).mpr htext
  rcases w.state.acquire_cases with ⟨e, hacquire⟩ | hacquire | hacquire
  · rw [← Course.run_query, Course.run_of_acquire_error hconnects hacquire, State.rowsFor, hacquire]
  · rw [← Course.run_query, Course.run_of_acquire_none hconnects hacquire, State.rowsFor, hacquire,
      Course.absent_query x htext]
  · rw [query_fst_of_acquire hsql args x hacquire]
    simp only [State.rowsFor, hacquire, State.readFor]
    cases args.error? (placeholders sql) with
    | some e => rfl
    | none =>
        cases w.state.nextRows with
        | ok r => rfl
        | error e => rfl

end Scripted

end SqlAccess
