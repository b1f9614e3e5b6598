import SqlAccess.Database.Query
import SqlAccess.Proofs.Scripted.TypedBatch

/-!
# As many values as placeholders

An update or a query with values by position meets three checks: the setter wants a
type for each value, binding refuses a value that has no placeholder, and an execution
refuses a placeholder that has no value.  Together they let just those through that have
as many values as placeholders, and a type for each.  The first check that fails is told,
and then the scripted source is left as it was.

* `ExecutesOnce` — work that begins with an execution of its statement;
* `BindsInOrder` — setters that bind values by position;
* `ByArity` — what comes of a number of values;
* `values_by_position` — **updates and queries with values by position**.
-/

namespace SqlAccess.Scripted

variable {α β : Type} {n : Nat}

/-! ## Work after binding -/

section

variable {st : Prepared} {ps : List Parameter}

/-- If there are placeholders for all of them, parameters are bound and work goes on. -/
theorem run_bindFrom_andThen (hle : ps.length ≤ n) (hst : st.inputs = .ofCount n)
    (p : PreparedProgram (Except Error β)) (s : State) :
    ((Setter.bindFrom 1 ps).onPrepared.andThen fun () => p).run answerTogether (st, s) =
      p.run answerTogether ({ st with inputs := ⟨.filled n ps, []⟩ }, s) := by
  have hbound : (Setter.bindFrom 1 ps).run (Inputs.answer id st.supportsBatch st.sql) st.inputs =
      (.ok (), ⟨.filled n ps, []⟩) := by
    rw [hst]
    exact Setter.run_bindFrom [] (by rw [List.length_nil]; omega) []
  have hrun := run_bindings (Setter.bindFrom 1 ps) st s
  rw [hbound] at hrun
  rw [Program.run_andThen_of_ok (congrArg Prod.fst hrun), hrun]

/-- If there are not, the first one without a placeholder ends it. -/
theorem run_bindFrom_andThen_of_lt (hlt : n < ps.length) (hst : st.inputs = .ofCount n)
    (p : PreparedProgram (Except Error β)) (s : State) :
    ∃ st', ((Setter.bindFrom 1 ps).onPrepared.andThen fun () => p).run answerTogether (st, s) =
      (.error (.driver ((SqlError.indexOutOfRange (n + 1) n).atParameter (n + 1))), (st', s)) := by
  have hbound :
      ((Setter.bindFrom 1 ps).run (Inputs.answer id st.supportsBatch st.sql) st.inputs).1 =
        .error (.driver ((SqlError.indexOutOfRange (n + 1) n).atParameter (n + 1))) := by
    rw [hst]
    exact Setter.run_bindFrom_of_lt [] (Nat.zero_le n) (by rw [List.length_nil]; omega) []
  have hrun := run_bindings (Setter.bindFrom 1 ps) st s
  exact ⟨_, Program.run_andThen_eq_error (hrun.trans (Prod.ext hbound rfl)) _⟩

end

/-- Work with a prepared statement that begins with an execution of it.  If the parameters
can be taken, it is recorded with them and gets the next response, and nothing else is
done to the script; if one of them is missing, that is the result. -/
structure ExecutesOnce (kind : ExecutionKind) (p : PreparedProgram (Except Error β)) : Prop where
  taken : ∀ (st : Prepared) {ps : List Parameter} {slots : Slots} (s : State),
    st.inputs.slots.take = (.ok ps, slots) →
      let after := (p.run answerTogether (st, s)).2.2
      after.recorded = s.recorded ++ [{ sql := st.sql, kind, params := ps }] ∧
        after.responses = s.responses.drop 1
  missing : ∀ (st : Prepared) {e : SqlError} {slots : Slots} (s : State),
    st.inputs.slots.take = (.error e, slots) →
      p.run answerTogether (st, s) = (.error (.driver e), (st, s))

/-- Work that leaves the source alone may follow on the call that executes. -/
theorem executesOnce_of_answer {kind : ExecutionKind} {p : PreparedProgram (Except SqlError α)}
    {f : α → PreparedProgram (Except Error β)}
    (htaken : ∀ {st : Prepared} {ps : List Parameter} {slots : Slots} (s : State),
      st.inputs.slots.take = (.ok ps, slots) →
        (p.run answerTogether (st, s)).2.2 = (s.run { sql := st.sql, kind, params := ps }).2)
    (hmissing : ∀ {st : Prepared} {e : SqlError} {slots : Slots} (s : State),
      st.inputs.slots.take = (.error e, slots) →
        p.run answerTogether (st, s) = (.error e, (st, s)))
    (hf : ∀ a x, ((f a).run answerTogether x).2.2 = x.2) :
    ExecutesOnce kind (p.orFail.andThen f) := by
  constructor
  case taken =>
    intro st ps slots s htake after
    have hafter : after = (p.run answerTogether (st, s)).2.2 := by
      simp only [after, Program.run_orFail_andThen]
      rcases p.run answerTogether (st, s) with ⟨_ | a, x⟩
      · rfl
      · exact hf a x
    rw [hafter, htaken s htake]
    exact ⟨rfl, rfl⟩
  case missing =>
    intro st e slots s htake
    rw [Program.run_orFail_andThen, hmissing s htake]

/-- While a parameter is missing, a query changes nothing. -/
theorem answer_query_of_missing {st : Prepared} {e : SqlError} {slots : Slots}
    (htake : st.inputs.slots.take = (.error e, slots)) (s : State) :
    st.answer .query s = (.error e, (st, s)) := by
  simp only [Prepared.answer, Inputs.take, htake]
  rfl

theorem answer_update_of_missing {st : Prepared} {e : SqlError} {slots : Slots}
    (htake : st.inputs.slots.take = (.error e, slots)) (s : State) :
    st.answer .update s = (.error e, (st, s)) := by
  simp only [Prepared.answer, Inputs.take, htake]
  rfl

/-- A query executes once, and then its rows are read. -/
theorem executesOnce_query (x : Extractor α) :
    ExecutesOnce .query (PreparedCall.query.perform.orFail.andThen (Database.extract x)) := by
  apply executesOnce_of_answer
  · intro st ps slots s htake
    have hanswer : (st.answer .query s).2.2 = (s.runQuery st.sql ps).2 := by
      simp only [Prepared.answer, Inputs.take, htake, Except.map, List.map_id]
    exact hanswer.trans (s.runQuery_state st.sql ps)
  · intro st e slots s htake
    exact answer_query_of_missing htake s
  · intro r x
    rfl

/-- So does an update; the key that it generated is asked for after it. -/
theorem executesOnce_update (returnsKeys : Bool) :
    ExecutesOnce .update (PreparedCall.update.perform.orFail.andThen
      (Database.updateResult returnsKeys PreparedCall.generatedKeys.perform)) := by
  apply executesOnce_of_answer
  · intro st ps slots s htake
    have hanswer : (st.answer .update s).2.2 = (s.runUpdate st.sql ps).2 := by
      simp only [Prepared.answer, Inputs.take, htake, Except.map, List.map_id]
      rcases s.runUpdate st.sql ps with ⟨_ | ⟨affected, key⟩, s'⟩
      · rfl
      · rfl
    exact hanswer.trans (s.runUpdate_state st.sql ps)
  · intro st e slots s htake
    exact answer_update_of_missing htake s
  · intro affected x
    cases returnsKeys with
    | true => rfl
    | false => rfl

/-! ## Setters -/

/-- A setter that binds the parameters from the first placeholder on, if there is a type
for each of `count` values, and is refused else. -/
structure BindsInOrder (setter : Setter) (count tags : Nat) (params : List Parameter) : Prop where
  refused : tags < count → setter = .done (.error (Setter.missingTypes count tags))
  binds : count ≤ tags → setter = .bindFrom 1 params
  length : count ≤ tags → params.length = count

theorem bindsInOrder_typed (values : List Value) (types : List SqlType) :
    BindsInOrder (.typed values types) values.length types.length
      (List.zipWith Parameter.ofTyped types values) where
  refused h := if_pos h
  binds h := typed_of_le h
  length h := length_entryOf h

/-- Values without types need none. -/
theorem bindsInOrder_untyped (values : List Value) :
    BindsInOrder (.untyped values) values.length values.length
      (values.map Parameter.ofUntyped) where
  refused h := absurd h (Nat.lt_irrefl _)
  binds _ := rfl
  length _ := List.length_map _

/-! ## Operations -/

/-- An operation failed, and the script is as if nothing had been asked. -/
structure Refused (before : State) (e : Error) (result : Except Error β) (after : State) :
    Prop where
  result : result = .error e
  recorded : after.recorded = before.recorded
  responses : after.responses = before.responses

/-- The message that there is no placeholder after the `n`-th one for a value. -/
def beyondLast (n : Nat) : String :=
  s!"cannot bind parameter {n + 1}: " ++
    s!"Parameter index out of range ({n + 1} > number of parameters, which is {n})."

/-- What an operation did to a source in the state `before` that was given `count` values
with `tags` types, which are the parameters `params`. -/
structure ByArity (sql : String) (kind : ExecutionKind) (count tags : Nat)
    (params : List Parameter) (before : State) (result : Except Error β) (after : State) :
    Prop where
  /-- Something is executed just if there is a value for each placeholder and a type for
  each value. -/
  reaches : after.recorded ≠ before.recorded ↔ count = placeholders sql ∧ count ≤ tags
  /-- It is executed once, with the parameters in their order, and gets the next response. -/
  executed : count = placeholders sql → count ≤ tags →
    after.recorded = before.recorded ++ [{ sql, kind, params := params }] ∧
      after.responses = before.responses.drop 1
  /-- A value without a type is told before anything else. -/
  missingTypes : tags < count →
    Refused before (.invalidArgument s!"{count} parameters but only {tags} type tags") result after
  /-- Of the values that have no placeholder, the first is told. -/
  tooMany : count ≤ tags → placeholders sql < count →
    Refused before
      (.dataAccess "prepared statement callback" (some sql) none (beyondLast (placeholders sql)))
      result after
  /-- Of the placeholders that have no value, the first is told. -/
  tooFew : count ≤ tags → count < placeholders sql →
    Refused before
      (.dataAccess "prepared statement callback" (some sql) none
        s!"No value specified for parameter {count + 1}")
      result after

section

variable {sql : String} {kind : ExecutionKind} {count tags : Nat} {params : List Parameter}
  {before after : State} {result : Except Error α}

/-- What is made of a result afterwards does not change what was done. -/
theorem Refused.map {e : Error} (h : Refused before e result after) (f : α → β) :
    Refused before e (result.map f) after where
  result := by rw [h.result]; rfl
  recorded := h.recorded
  responses := h.responses

theorem ByArity.map (h : ByArity sql kind count tags params before result after) (f : α → β) :
    ByArity sql kind count tags params before (result.map f) after where
  reaches := h.reaches
  executed := h.executed
  missingTypes ht := (h.missingTypes ht).map f
  tooMany ht hn := (h.tooMany ht hn).map f
  tooFew ht hn := (h.tooFew ht hn).map f

/-- What was done says whether something was executed. -/
theorem ByArity.of_outcomes
    (executed : count = placeholders sql → count ≤ tags →
      after.recorded = before.recorded ++ [{ sql, kind, params := params }] ∧
        after.responses = before.responses.drop 1)
    (missingTypes : tags < count →
      Refused before (Setter.missingTypes count tags) result after)
    (tooMany : count ≤ tags → placeholders sql < count →
      Refused before (.dataAccess Database.preparedContext (some sql) none
        (beyondLast (placeholders sql))) result after)
    (tooFew : count ≤ tags → count < placeholders sql →
      Refused before (.dataAccess Database.preparedContext (some sql) none
        (SqlError.noValueFor (count + 1)).message) result after) :
    ByArity sql kind count tags params before result after where
  reaches := by
    constructor
    · intro hreached
      rcases Nat.lt_or_ge tags count with htags | htags
      · exact absurd (missingTypes htags).recorded hreached
      rcases Nat.lt_trichotomy count (placeholders sql) with hfew | hsame | hmany
      · exact absurd (tooFew htags hfew).recorded hreached
      · exact ⟨hsame, htags⟩
      · exact absurd (tooMany htags hmany).recorded hreached
    · rintro ⟨hsame, htags⟩
      rw [(executed hsame htags).1]
      simp
  executed := executed
  missingTypes := missingTypes
  tooMany := tooMany
  tooFew := tooFew

end

/-- An operation that binds values and then executes its statement once does so by their
number. -/
theorem byArity_executePrepared {w : World source} (hopen : w.state.isClosed = false)
    (havailable : w.state.availability = .available) (sql : String) (returnsKeys : Bool)
    {setter : Setter} {count tags : Nat} {params : List Parameter}
    (hsetter : BindsInOrder setter count tags params) {kind : ExecutionKind}
    {p : PreparedProgram (Except Error α)} (hp : ExecutesOnce kind p) :
    let after := Database.executePrepared (D := source)
      (Creator.preparer ⟨some sql, .ok (sql, returnsKeys)⟩)
      { program := (Database.applySetter (some setter)).andThen fun () => p } w
    ByArity sql kind count tags params w.state after.1 after.2.state := by
  intro after
  obtain ⟨s, ⟨hrecorded, hresponses⟩, hresult, hafter, hafter'⟩ :=
    run_executePrepared hopen havailable sql returnsKeys
      { program := (Database.applySetter (some setter)).andThen fun () => p }
  generalize hst : Connection.prepared ⟨w.state.supportsBatch, false⟩ sql returnsKeys = st
    at hresult hafter hafter'
  have htext : st.sql = sql := hst ▸ rfl
  have hinputs : st.inputs = .ofCount (placeholders sql) := hst ▸ rfl
  have hrefused : ∀ {e : Error} {st' : Prepared},
      (setter.onPrepared.andThen fun () => p).run answerTogether (st, s) = (.error e, (st', s)) →
        Refused w.state (e.inOperation Database.preparedContext (some sql)) after.1
          after.2.state := by
    intro e st' hrun
    simp only [Database.applySetter, hrun] at hresult hafter hafter'
    exact ⟨hresult, hafter.trans hrecorded, hafter'.trans hresponses⟩
  -- If there are placeholders for all values, it is the execution that decides.
  let bound : Prepared := { st with inputs := ⟨.filled (placeholders sql) params, []⟩ }
  have hbound : count ≤ tags → count ≤ placeholders sql →
      (setter.onPrepared.andThen fun () => p).run answerTogether (st, s) =
        p.run answerTogether (bound, s) := by
    intro htags hle
    rw [hsetter.binds htags]
    exact run_bindFrom_andThen ((hsetter.length htags).symm ▸ hle) hinputs p s
  apply ByArity.of_outcomes
  case executed =>
    intro hsame htags
    have hlength := (hsetter.length htags).trans hsame
    obtain ⟨htaken, htaken'⟩ := hp.taken bound s (Slots.take_filled hlength)
    simp only [Database.applySetter, hbound htags (Nat.le_of_eq hsame)] at hafter hafter'
    rw [hrecorded, show bound.sql = sql from htext] at htaken
    rw [hresponses] at htaken'
    exact ⟨hafter.trans htaken, hafter'.trans htaken'⟩
  case missingTypes =>
    intro htags
    have hrun : (setter.onPrepared.andThen fun () => p).run answerTogether (st, s) =
        (.error (Setter.missingTypes count tags), (st, s)) := by
      rw [hsetter.refused htags]
      rfl
    exact hrefused hrun
  case tooMany =>
    intro htags hmany
    have hlength := hsetter.length htags
    obtain ⟨st', hrun⟩ := run_bindFrom_andThen_of_lt (hlength.symm ▸ hmany) hinputs p s
    rw [← hsetter.binds htags] at hrun
    exact hrefused hrun
  case tooFew =>
    intro htags hfew
    have hlength := hsetter.length htags
    have hmissing := hp.missing bound s (Slots.take_filled_of_lt (hlength.symm ▸ hfew))
    rw [hlength] at hmissing
    exact hrefused ((hbound htags (Nat.le_of_lt hfew)).trans hmissing)

/-- **Values by position are executed just if there are as many as placeholders**, and a
type for each if types are given.  Else the script is left as it was, and the first check
that fails is told. -/
theorem values_by_position {w : World source} (hopen : w.state.isClosed = false)
    (havailable : w.state.availability = .available) {sql : String}
    (hsql : ¬ Text.IsBlankText sql) (values : List Value) :
    (∀ (types : List SqlType) (returnsKeys : Bool),
      let after := Database.updateTyped sql values types returnsKeys w
      ByArity sql .update values.length types.length
        (List.zipWith Parameter.ofTyped types values) w.state after.1 after.2.state) ∧
    ∀ (α : Type) (x : Extractor α),
      (∀ types : List SqlType,
        let after := Database.query sql (.typed values types) x w
        ByArity sql .query values.length types.length
          (List.zipWith Parameter.ofTyped types values) w.state after.1 after.2.state) ∧
      let after := Database.query sql (.untyped values) x w
      ByArity sql .query values.length values.length (values.map Parameter.ofUntyped) w.state
        after.1 after.2.state := by
  have hcreator : ∀ returnsKeys, Creator.ofSql sql returnsKeys =
      .ok ⟨some sql, .ok (sql, returnsKeys)⟩ := fun _ => if_neg hsql
  have hquery : ∀ {α : Type} (x : Extractor α) {setter : Setter} {tags : Nat}
      {params : List Parameter}, BindsInOrder setter values.length tags params →
        let after := Database.queryWith sql (some setter) x w
        ByArity sql .query values.length tags params w.state after.1 after.2.state := by
    intro α x setter tags params hsetter
    rw [Database.queryWith, hcreator]
    exact (byArity_executePrepared hopen havailable sql false hsetter
      (executesOnce_query x)).map Option.join
  refine ⟨?_, fun α x => ⟨?_, hquery x (bindsInOrder_untyped values)⟩⟩
  · intro types returnsKeys
    rw [Database.updateTyped, Database.updateWith, hcreator]
    exact byArity_executePrepared hopen havailable sql returnsKeys
      (bindsInOrder_typed values types) (executesOnce_update returnsKeys)
  · intro types
    exact hquery x (bindsInOrder_typed values types)

/-- Three values for two placeholders; the question mark in the literal is none.  An update
with two types is refused for the missing type, a query without types for the third value,
and both leave the response to another. -/
theorem values_by_position_too_many :
    let w : World source := ⟨{ responses := [.update 1 none] }, []⟩
    let sql := "DELETE FROM t WHERE a = ? AND b = '?' AND c = ?"
    let values : List Value := [.int32 1, .string "x", .null]
    let update := Database.updateTyped sql values [.integer, .varChar] false w
    let query := Database.query sql (.untyped values) (Database.all (singleColumn .int64)) w
    (w.state.isClosed = false ∧ w.state.availability = .available ∧ ¬ Text.IsBlankText sql) ∧
      Refused w.state (.invalidArgument "3 parameters but only 2 type tags") update.1
        update.2.state ∧
      Refused w.state (.dataAccess "prepared statement callback" (some sql) none
          ("cannot bind parameter 3: " ++
            "Parameter index out of range (3 > number of parameters, which is 2)."))
        query.1 query.2.state := by
  have hcount : placeholders "DELETE FROM t WHERE a = ? AND b = '?' AND c = ?" = 2 := by rfl
  intro w sql values update query
  have hsql : ¬ Text.IsBlankText sql := by decide
  obtain ⟨hupdate, hquery⟩ := values_by_position (w := w) rfl rfl hsql values
  have htypes : Refused w.state (.invalidArgument s!"{3} parameters but only {2} type tags")
      update.1 update.2.state :=
    (hupdate [.integer, .varChar] false).missingTypes (by decide)
  refine ⟨⟨rfl, rfl, hsql⟩, htypes, ?_⟩
  have hmany : placeholders sql < values.length := by
    rw [show placeholders sql = 2 from hcount]
    decide
  have hrefused := (hquery _ (Database.all (singleColumn .int64))).2.tooMany (Nat.le_refl _) hmany
  rw [show placeholders sql = 2 from hcount] at hrefused
  exact hrefused

end SqlAccess.Scripted
