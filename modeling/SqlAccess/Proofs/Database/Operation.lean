import SqlAccess.Database.Operation

/-!
# The course of an operation

Some thirty operations of a database share two helpers: `Database.execute` and
`Database.executePrepared`.  This file says, for each of them, which helper it
runs, with which action, and what it makes of the result.  A statement about all
operations is then a statement about two helpers.

* `Course` — a refusal or an answer given at once, or one of the helpers with
  what is made of its result;
* `Operation.run_eq_course` — every operation runs its course;
* `Operation.history` — operations one after the other, with the worlds before
  and after each.
-/

namespace SqlAccess

variable {D : Driver} {α β γ : Type}

/-- Going through items adds the entries that going through their setters adds. -/
theorem Database.addItems_eq_addEntries {ι : Type} (setter : ι → Setter) (items : List ι) :
    addItems setter items = addEntries (items.map setter) := by
  induction items with
  | nil => rfl
  | cons item rest ih =>
      rw [addItems, List.map_cons, addEntries]
      -- Both begin with the first item's setter and add its entry.
      congr 1
      funext _
      congr 1
      funext _
      exact ih

/-- So the action of a batch over items is that of a batch over their setters. -/
theorem Database.itemsAction_eq_batchAction {ι : Type} (items : List ι) (setter : ι → Setter) :
    itemsAction items setter = batchAction (items.map setter) := by
  rw [itemsAction, batchAction, addItems_eq_addEntries]

/-- The preparers that the caller brings along. -/
def Operation.preparers : Operation D β → List (Preparer D)
  | executePrepared preparer _ | updatePrepared preparer _ _ | queryPrepared preparer _ _ =>
    [preparer]
  | _ => []

/-- The way an operation takes to its result. -/
inductive Course (D : Driver) (β : Type) : Type 1 where
  /-- It is known without a connection. -/
  | atOnce (r : Except Error β)
  /-- It is made of what an action with a plain statement gives, or of nothing
  if there is no connection. -/
  | plain {α : Type} (action : StatementAction α) (finish : Option α → Except Error β)
  /-- The same with a prepared statement. -/
  | prepared {α : Type} (preparer : Preparer D) (action : PreparedAction α)
      (finish : Option α → Except Error β)

namespace Course

/-- Takes the course. -/
def run : Course D β → Session D (Except Error β)
  | atOnce r => return r
  | plain action finish => (· >>= finish) <$> Database.execute action
  | prepared preparer action finish =>
    (· >>= finish) <$> Database.executePrepared preparer action

/-- Makes something else of the result, unless it is an error. -/
def andThen : Course D β → (β → Except Error γ) → Course D γ
  | atOnce r, f => atOnce (r >>= f)
  | plain action finish, f => plain action fun a => finish a >>= f
  | prepared preparer action finish, f => prepared preparer action fun a => finish a >>= f

/-- Goes on with the creator of a SQL text, unless the text is blank. -/
def ofSql (sql : String) (returnsKeys : Bool) (next : Preparer D → Course D β) : Course D β :=
  match Creator.ofSql sql returnsKeys with
  | .error e => atOnce (.error e)
  | .ok creator => next creator

/-- A batch whose entries are bound by the setters. -/
def batch (sql : String) (setters : List Setter) : Course D (Option (List UInt64)) :=
  ofSql sql false fun preparer => prepared preparer (Database.batchAction setters) .ok

/-- A query with a prepared statement. -/
def preparedQuery (setter : Option Setter) (x : Extractor α) (preparer : Preparer D) :
    Course D (Option α) :=
  prepared preparer (Database.preparedQueryAction setter x) fun r => .ok r.join

/-- A query. -/
def query (sql : String) (args : Arguments) (x : Extractor α) : Course D (Option α) :=
  match args with
  | .none => plain (Database.queryAction sql x) fun r => .ok r.join
  | .untyped values => ofSql sql false (preparedQuery (some (.untyped values)) x)
  | .typed values types => ofSql sql false (preparedQuery (some (.typed values types)) x)

/-- An update with a prepared statement. -/
def preparedUpdate (setter : Option Setter) (returnsKeys : Bool) (preparer : Preparer D) :
    Course D (Option Int64) :=
  prepared preparer (Database.preparedUpdateAction setter returnsKeys) .ok

end Course

/-- The course of an operation. -/
def Operation.course : Operation D β → Course D β
  | execute action => .plain action .ok
  | executePrepared preparer action => .prepared preparer action .ok
  | executeSql sql action => .ofSql sql false fun preparer => .prepared preparer action .ok
  | update sql true => .ofSql sql true (.preparedUpdate none true)
  | update sql false => .plain (Database.updateAction sql false) .ok
  | updatePrepared preparer setter returnsKeys => .preparedUpdate setter returnsKeys preparer
  | updateWith sql setter returnsKeys =>
    .ofSql sql returnsKeys (.preparedUpdate setter returnsKeys)
  | updateTyped sql values types returnsKeys =>
    .ofSql sql returnsKeys (.preparedUpdate (some (.typed values types)) returnsKeys)
  | batchUpdate sql setter => .batch sql setter.entries
  | batchUpdateTyped sql rows types =>
    if rows.isEmpty then .atOnce (.ok (some []))
    else .batch sql (BatchSetter.typed rows types).entries
  | batchUpdateWith sql items setter =>
    if items.isEmpty then .ofSql sql false fun _ => .atOnce (.ok (some []))
    else .batch sql (items.map setter)
  | queryPrepared preparer setter x => .preparedQuery setter x preparer
  | queryWith sql setter x => .ofSql sql false (.preparedQuery setter x)
  | query sql args x => .query sql args x
  | queryOrElse sql args x fallback =>
    (Course.query sql args x).andThen fun r => .ok (r.getD fallback)
  | queryList sql args mapper => .query sql args (Database.all mapper)
  | queryListOrElse sql args mapper fallback =>
    (Course.query sql args (Database.all mapper)).andThen fun r =>
      .ok (Database.nonEmptyOr fallback r)
  | queryObject sql args mapper =>
    (Course.query sql args (Database.all mapper)).andThen fun r => Database.objectOf (.ok r)
  | queryObjectOrElse sql args mapper fallback =>
    (Course.query sql args (Database.all mapper)).andThen fun r =>
      Database.objectOrElse fallback (.ok r)

/-- Going on with something that cannot fail is a change of the result. -/
private theorem bind_ok_eq_map (r : Except Error α) (f : α → β) :
    (r >>= fun a => .ok (f a)) = r.map f := by
  cases r <;> rfl

private theorem bind_ok_self (r : Except Error α) : (r >>= .ok) = r := by
  cases r <;> rfl

namespace Course

/-- What is made of a result afterwards is made of it by the course. -/
theorem run_andThen (course : Course D β) (f : β → Except Error γ) :
    (course.andThen f).run = (· >>= f) <$> course.run := by
  cases course with
  | atOnce r => rfl
  | plain action finish =>
      funext w
      simp only [andThen, run, Session.map_apply]
      rw [bind_assoc]
  | prepared preparer action finish =>
      funext w
      simp only [andThen, run, Session.map_apply]
      rw [bind_assoc]

/-- The result of an action with a plain statement, passed on as it is. -/
theorem run_plain_ok (action : StatementAction α) :
    (plain action .ok).run = Database.execute (D := D) action := by
  funext w
  simp only [run, Session.map_apply, bind_ok_self]
  rfl

theorem run_prepared_ok (preparer : Preparer D) (action : PreparedAction α) :
    (prepared preparer action .ok).run = Database.executePrepared preparer action := by
  funext w
  simp only [run, Session.map_apply, bind_ok_self]
  rfl

/-- A course that needs a SQL text ends at once if there is none. -/
theorem run_ofSql (sql : String) (returnsKeys : Bool) (next : Preparer D → Course D β) :
    (ofSql sql returnsKeys next).run =
      match Creator.ofSql sql returnsKeys with
      | .error e => return .error e
      | .ok creator => (next creator).run := by
  unfold ofSql
  cases Creator.ofSql sql returnsKeys with
  | error e => rfl
  | ok creator => rfl

/-- The course of a batch runs the batch. -/
theorem run_batch (sql : String) (setters : List Setter) :
    (batch sql setters).run = Database.executeSql (D := D) sql (Database.batchAction setters) := by
  simp only [batch, run_ofSql, run_prepared_ok]
  rfl

theorem run_preparedUpdate (setter : Option Setter) (returnsKeys : Bool) (preparer : Preparer D) :
    (preparedUpdate setter returnsKeys preparer).run =
      Database.updatePrepared preparer setter returnsKeys :=
  run_prepared_ok preparer _

theorem run_updateWith (sql : String) (setter : Option Setter) (returnsKeys : Bool) :
    (ofSql sql returnsKeys (preparedUpdate setter returnsKeys)).run =
      Database.updateWith (D := D) sql setter returnsKeys := by
  simp only [run_ofSql, run_preparedUpdate]
  rfl

/-- The course of a prepared query runs the query. -/
theorem run_preparedQuery (setter : Option Setter) (x : Extractor α) (preparer : Preparer D) :
    (preparedQuery setter x preparer).run = Database.queryPrepared preparer setter x := by
  funext w
  simp only [preparedQuery, run, Session.map_apply, bind_ok_eq_map, Database.queryPrepared,
    Database.flatten]

theorem run_queryWith (sql : String) (setter : Option Setter) (x : Extractor α) :
    (ofSql sql false (preparedQuery setter x)).run =
      Database.queryWith (D := D) sql setter x := by
  simp only [run_ofSql, run_preparedQuery]
  rfl

/-- The course of a query runs the query, however its arguments are given. -/
theorem run_query (sql : String) (args : Arguments) (x : Extractor α) :
    (query sql args x).run = Database.query (D := D) sql args x := by
  cases args with
  | none =>
      funext w
      simp only [query, run, Session.map_apply, bind_ok_eq_map, Database.query, Database.flatten]
  | untyped values => exact run_queryWith sql _ x
  | typed values types => exact run_queryWith sql _ x

end Course

/-- **Every operation runs its course.** -/
theorem Operation.run_eq_course (op : Operation D β) : op.run = op.course.run := by
  cases op with
  | execute action => exact (Course.run_plain_ok action).symm
  | executePrepared preparer action => exact (Course.run_prepared_ok preparer action).symm
  | executeSql sql action =>
      simp only [course, Course.run_ofSql, Course.run_prepared_ok]
      rfl
  | update sql returnsKeys =>
      cases returnsKeys with
      | true => exact (Course.run_updateWith sql none true).symm
      | false => exact (Course.run_plain_ok _).symm
  | updatePrepared preparer setter returnsKeys =>
      exact (Course.run_preparedUpdate setter returnsKeys preparer).symm
  | updateWith sql setter returnsKeys => exact (Course.run_updateWith sql setter returnsKeys).symm
  | updateTyped sql values types returnsKeys => exact (Course.run_updateWith sql _ returnsKeys).symm
  | batchUpdate sql setter => exact (Course.run_batch sql _).symm
  | batchUpdateTyped sql rows types =>
      simp only [run, course, Database.batchUpdateTyped]
      split
      · rfl
      · exact (Course.run_batch sql _).symm
  | batchUpdateWith sql items setter =>
      simp only [run, course, Database.batchUpdateWith]
      cases items.isEmpty with
      | true =>
          rw [if_pos rfl, Course.run_ofSql]
          rfl
      | false =>
          rw [if_neg Bool.false_ne_true, Course.run_batch, Database.itemsAction_eq_batchAction]
          rfl
  | queryPrepared preparer setter x => exact (Course.run_preparedQuery setter x preparer).symm
  | queryWith sql setter x => exact (Course.run_queryWith sql setter x).symm
  | query sql args x => exact (Course.run_query sql args x).symm
  | queryOrElse sql args x fallback =>
      funext w
      simp only [run, course, Course.run_andThen, Course.run_query, Session.map_apply,
        bind_ok_eq_map, Database.queryOrElse]
  | queryList sql args mapper => exact (Course.run_query sql args _).symm
  | queryListOrElse sql args mapper fallback =>
      funext w
      simp only [run, course, Course.run_andThen, Course.run_query, Session.map_apply,
        bind_ok_eq_map, Database.queryListOrElse, Database.queryList]
  | queryObject sql args mapper =>
      funext w
      simp only [run, course, Course.run_andThen, Course.run_query, Session.map_apply,
        Database.queryObject, Database.queryList]
      cases (Database.query sql args (Database.all mapper) w).1 <;> rfl
  | queryObjectOrElse sql args mapper fallback =>
      funext w
      simp only [run, course, Course.run_andThen, Course.run_query, Session.map_apply,
        Database.queryObjectOrElse, Database.queryList]
      cases (Database.query sql args (Database.all mapper) w).1 <;> rfl

/-- The preparer of a course, if it works with a prepared statement. -/
def Course.preparer? : Course D β → Option (Preparer D)
  | prepared preparer _ _ => some preparer
  | _ => none

/-- The preparer of a course, if it has one, is of some sort. -/
def Course.Uses (P : Preparer D → Prop) : Course D β → Prop
  | prepared preparer _ _ => P preparer
  | _ => True

namespace Course

variable {P : Preparer D → Prop}

theorem Uses.andThen {course : Course D β} (h : course.Uses P) (f : β → Except Error γ) :
    (course.andThen f).Uses P := by
  cases course with
  | atOnce r => trivial
  | plain action finish => trivial
  | prepared preparer action finish => exact h

/-- A course that needs a SQL text prepares what the text's creator says. -/
theorem uses_ofSql (sql : String) (returnsKeys : Bool) {next : Preparer D → Course D β}
    (h : ∀ creator : Creator, (next creator).Uses P) : (ofSql sql returnsKeys next).Uses P := by
  unfold ofSql
  cases Creator.ofSql sql returnsKeys with
  | error e => trivial
  | ok creator => exact h creator

theorem uses_batch (h : ∀ creator : Creator, P creator) (sql : String) (setters : List Setter) :
    (batch sql setters).Uses P :=
  uses_ofSql sql false h

/-- A query prepares what a creator says, if anything. -/
theorem uses_query (h : ∀ creator : Creator, P creator) (sql : String) (args : Arguments)
    (x : Extractor α) : (query sql args x).Uses P := by
  cases args with
  | none => trivial
  | untyped values => exact uses_ofSql sql false fun creator => h creator
  | typed values types => exact uses_ofSql sql false fun creator => h creator

end Course

/-- An operation prepares what its caller brings along, else what a creator
says. -/
theorem Operation.course_uses {P : Preparer D → Prop} (hcreator : ∀ creator : Creator, P creator)
    (op : Operation D β) (hown : ∀ preparer ∈ op.preparers, P preparer) : op.course.Uses P := by
  cases op with
  | execute action => trivial
  | executePrepared preparer action => exact hown preparer List.mem_cons_self
  | executeSql sql action =>
      simp only [course]
      exact Course.uses_ofSql sql false hcreator
  | update sql returnsKeys =>
      cases returnsKeys with
      | true => exact Course.uses_ofSql sql true fun creator => hcreator creator
      | false => trivial
  | updatePrepared preparer setter returnsKeys => exact hown preparer List.mem_cons_self
  | updateWith sql setter returnsKeys =>
      exact Course.uses_ofSql sql returnsKeys fun creator => hcreator creator
  | updateTyped sql values types returnsKeys =>
      exact Course.uses_ofSql sql returnsKeys fun creator => hcreator creator
  | batchUpdate sql setter => exact Course.uses_batch hcreator sql _
  | batchUpdateTyped sql rows types =>
      simp only [course]
      split
      · trivial
      · exact Course.uses_batch hcreator sql _
  | batchUpdateWith sql items setter =>
      simp only [course]
      split
      · exact Course.uses_ofSql sql false fun _ => trivial
      · exact Course.uses_batch hcreator sql _
  | queryPrepared preparer setter x => exact hown preparer List.mem_cons_self
  | queryWith sql setter x => exact Course.uses_ofSql sql false fun creator => hcreator creator
  | query sql args x => exact Course.uses_query hcreator sql args x
  | queryOrElse sql args x fallback => exact (Course.uses_query hcreator sql args x).andThen _
  | queryList sql args mapper => exact Course.uses_query hcreator sql args _
  | queryListOrElse sql args mapper fallback =>
      exact (Course.uses_query hcreator sql args _).andThen _
  | queryObject sql args mapper => exact (Course.uses_query hcreator sql args _).andThen _
  | queryObjectOrElse sql args mapper fallback =>
      exact (Course.uses_query hcreator sql args _).andThen _

/-- An operation, whatever it gives. -/
abbrev AnyOperation (D : Driver) : Type 1 := Σ β : Type, Operation D β

/-- The worlds before and after each of some operations, done one after the
other. -/
def Operation.history : List (AnyOperation D) → World D → List (World D × World D)
  | [], _ => []
  | op :: rest, w => (w, (op.2.run w).2) :: history rest (op.2.run w).2

/-- What one operation does between two worlds, each operation of a session
does. -/
theorem Operation.history_step {P : World D → World D → Prop} {ops : List (AnyOperation D)}
    (hstep : ∀ op ∈ ops, ∀ w, P w (op.2.run w).2) (w : World D) :
    ∀ step ∈ history ops w, P step.1 step.2 := by
  induction ops generalizing w with
  | nil =>
      intro step h
      cases h
  | cons op rest ih =>
      intro step h
      rcases List.mem_cons.mp h with rfl | h
      · exact hstep op List.mem_cons_self w
      · exact ih (fun o ho => hstep o (List.mem_cons_of_mem _ ho)) _ step h

/-- What every operation keeps holds after each operation of a session. -/
theorem Operation.history_invariant {I : World D → Prop} {ops : List (AnyOperation D)}
    (hstep : ∀ op ∈ ops, ∀ w, I w → I (op.2.run w).2) {w : World D} (hw : I w) :
    ∀ step ∈ history ops w, I step.2 := by
  induction ops generalizing w with
  | nil =>
      intro step h
      cases h
  | cons op rest ih =>
      intro step h
      have hfirst : I (op.2.run w).2 := hstep op List.mem_cons_self w hw
      rcases List.mem_cons.mp h with rfl | h
      · exact hfirst
      · exact ih (fun o ho => hstep o (List.mem_cons_of_mem _ ho)) hfirst step h

end SqlAccess
