import SqlAccess.Proofs.MySql.Exchange
import SqlAccess.Proofs.Statement.Alike

/-!
# A batch runs up to its first failure

The entries of a batch are sent one after the other, each when the one before it has
succeeded.  So what reaches the server is the whole batch, or the part of it that ends
with the first entry to fail.  The statement gives its entries away before the first of
them is sent, and so none is ever sent again.

* `Server.reply` — what a server replies to the commands to come;
* `State.send_of_ok`, `State.send_of_error` — one command;
* `Pool.executeAll_of_ok`, `Pool.executeAll_of_error` — the entries of a batch;
* `Pool.batch_runs_as_prefix` — **a batch runs up to its first failure**.
-/

namespace SqlAccess.MySql

/-- A failure as the driver tells it, which waits for an answer up to a limit. -/
def Failure.toSqlError (limit : Nat) : Failure → SqlError
  | .reported e => e.toSqlError
  | .hungUp => hungUpError
  | .noAnswer => timeoutError limit

/-! ## The server -/

namespace Server

variable (s : Server)

/-- The reply to the command that comes after `k` others: what its entry of the script
says, or a success that affects nothing if there is none left. -/
def reply (k : Nat) : Except Failure Effect :=
  match s.responses[k]? with
  | some r => effectOf r
  | none => .ok {}

/-- The replies to so many commands, in order. -/
def repliesTo (count : Nat) : List (Except Failure Effect) := (List.range count).map s.reply

/-- The server after some commands. -/
def served (ms : List Message) : Server :=
  { s with responses := s.responses.drop ms.length, received := s.received ++ ms }

theorem run_eq (m : Message) : s.run m = (s.reply 0, s.served [m]) := by
  obtain ⟨greeting, _ | ⟨first, rest⟩, received⟩ := s <;> rfl

theorem reply_served (ms : List Message) (k : Nat) :
    (s.served ms).reply k = s.reply (ms.length + k) := by
  simp only [reply, served, List.getElem?_drop]

theorem repliesTo_succ (m : Message) (count : Nat) :
    s.repliesTo (count + 1) = s.reply 0 :: (s.served [m]).repliesTo count := by
  rw [repliesTo, List.range_succ_eq_map, List.map_cons, List.map_map, repliesTo]
  congr 2
  funext k
  rw [reply_served, List.length_singleton, Nat.add_comm]
  rfl

theorem served_served (ms ms' : List Message) :
    (s.served ms).served ms' = s.served (ms ++ ms') := by
  simp only [served, List.drop_drop, List.length_append, List.append_assoc]

theorem served_nil : s.served [] = s := by
  simp only [served, List.length_nil, List.drop_zero, List.append_nil]

end Server

/-! ## One command -/

namespace State

variable {n : Nat} {s : State}

theorem fail_fst (limit n : Nat) (s : State) (f : Failure) :
    (s.fail limit n f).1 = f.toSqlError limit := by
  cases f <;> rfl

/-- A failure is no concern of the server. -/
theorem server_fail (limit n : Nat) (s : State) (f : Failure) :
    (s.fail limit n f).2.server = s.server := by
  cases f <;> rfl

/-- A command that succeeds is served and changes nothing else. -/
theorem send_of_ok (hready : s.ready n = .ok ()) {effect : Effect}
    (h : s.server.reply 0 = .ok effect) (limit : Nat) (m : Message) :
    s.send limit n m = (.ok effect, { s with server := s.server.served [m] }) := by
  simp only [send, exchange, hready, Server.run_eq, h]

/-- A command that fails is served, too. -/
theorem send_of_error (hready : s.ready n = .ok ()) {f : Failure}
    (h : s.server.reply 0 = .error f) (limit : Nat) (m : Message) :
    (s.send limit n m).1 = .error (f.toSqlError limit) ∧
      (s.send limit n m).2.server = s.server.served [m] := by
  simp only [send, exchange, hready, Server.run_eq, h, fail_fst, server_fail, true_and]

/-- Over a connection that was given back or lost, nothing is sent. -/
theorem send_of_not_ready {e : SqlError} (hready : s.ready n = .error e) (limit : Nat)
    (m : Message) : s.send limit n m = (.error e, s) := by
  simp only [send, exchange, hready]

end State

/-! ## Batches -/

namespace Pool

variable {p : Pool} {n : Nat} {s : State}

/-- Entries that all succeed are sent in order, and their counts are given. -/
theorem executeAll_of_ok (hready : s.ready n = .ok ()) (sql : String) {entries : List (List Datum)}
    {effects : List Effect} (h : s.server.repliesTo entries.length = effects.map .ok) :
    p.executeAll n sql entries s =
      (.ok (effects.map (·.affected)),
        { s with server := s.server.served (entries.map (.execute sql)) }) := by
  induction entries generalizing s effects with
  | nil =>
      obtain rfl : effects = [] := by simpa [Server.repliesTo] using h.symm
      simp only [executeAll, List.map_nil, Server.served_nil]
  | cons entry rest ih =>
      rw [List.length_cons, Server.repliesTo_succ _ (.execute sql entry)] at h
      obtain ⟨effect, effects, rfl, hfirst, hrest⟩ := List.map_eq_cons_iff.mp h.symm
      have hsend := State.send_of_ok hready hfirst.symm p.settings.socketTimeout
        (.execute sql entry)
      have hthen := ih (s := { s with server := s.server.served [.execute sql entry] })
        hready hrest.symm
      simp only [executeAll, hsend, hthen, Server.served_served]
      rfl

/-- The first entry that fails is the last one that is sent, and its failure is told. -/
theorem executeAll_of_error (hready : s.ready n = .ok ()) (sql : String)
    {entries : List (List Datum)} {before : List Effect} {f : Failure}
    {rest : List (Except Failure Effect)}
    (h : s.server.repliesTo entries.length = before.map .ok ++ .error f :: rest) :
    (p.executeAll n sql entries s).1 = .error (f.toSqlError p.settings.socketTimeout) ∧
      (p.executeAll n sql entries s).2.server =
        s.server.served ((entries.take (before.length + 1)).map (.execute sql)) := by
  induction entries generalizing s before with
  | nil =>
      have hlength := congrArg List.length h
      simp [Server.repliesTo] at hlength
  | cons entry later ih =>
      rw [List.length_cons, Server.repliesTo_succ _ (.execute sql entry)] at h
      cases before with
      | nil =>
          obtain ⟨hfirst, -⟩ := List.cons.inj h
          obtain ⟨htold, hserver⟩ := State.send_of_error hready hfirst p.settings.socketTimeout
            (.execute sql entry)
          rcases hsend : s.send p.settings.socketTimeout n (.execute sql entry) with ⟨r, s'⟩
          rw [hsend] at htold hserver
          obtain rfl : r = _ := htold
          simp only [executeAll, hsend, true_and]
          exact hserver
      | cons effect before =>
          obtain ⟨hfirst, hrest⟩ := List.cons.inj h
          have hsend := State.send_of_ok hready hfirst p.settings.socketTimeout
            (.execute sql entry)
          have hthen := ih (s := { s with server := s.server.served [.execute sql entry] })
            hready hrest
          simp only [executeAll, hsend]
          rw [hthen.1, hthen.2, Server.served_served]
          exact ⟨rfl, rfl⟩

/-- Over a connection that the server left, the first entry fails without being sent. -/
theorem executeAll_of_not_ready {e : SqlError} (hready : s.ready n = .error e) (sql : String)
    (entries : List (List Datum)) :
    p.executeAll n sql entries s = (if entries = [] then .ok [] else .error e, s) := by
  cases entries with
  | nil => rfl
  | cons entry rest => simp [executeAll, State.send_of_not_ready hready]

theorem executeBatch_of_open {st : Prepared} (hopen : (s.link st.link).isOpen = true) :
    p.executeBatch st s =
      let done := p.executeAll st.link st.onServer.sql st.inputs.batch s
      (done.1, { st with inputs := { st.inputs with batch := [] } }, done.2) := by
  simp only [executeBatch, Inputs.takeBatch, if_pos hopen]

/-- Nothing is left of a batch that was executed. -/
theorem batch_executeBatch (p : Pool) (st : Prepared) (s : State) :
    (p.executeBatch st s).2.1 = { st with inputs := { st.inputs with batch := [] } } := by
  simp only [executeBatch, Inputs.takeBatch]
  split <;> rfl

/-- Without entries nothing is done. -/
theorem executeBatch_of_nil {st : Prepared} (h : st.inputs.batch = []) (s : State) :
    p.executeBatch st s =
      (if (s.link st.link).isOpen then .ok [] else .error closedError, st, s) := by
  have hinputs : { st with inputs := { st.inputs with batch := [] } } = st := by
    rw [← h]
  simp only [executeBatch, Inputs.takeBatch, hinputs, h, executeAll]
  split <;> rfl

/-- What is said of the execution of a statement's batch, between two states. -/
structure RunsAsPrefix (p : Pool) (st : Prepared) (s : State)
    (response : Except SqlError (List UInt64)) (st' : Prepared) (s' : State) : Prop where
  /-- The entries are in the order in which they were added. -/
  added : ∀ (fresh : Prepared) (placeholders : Nat) (before : State) (calls : List PreparedCall),
    fresh.inputs = .ofCount placeholders → ((source p).afterCalls (fresh, before) calls).1 = st →
      st.inputs.batch = (Inputs.entries placeholders calls).map (·.map Datum.ofParameter)
  /-- If the server carries out all of them, each was sent once, in order, and the response
  has their counts. -/
  all : (s.link st.link).isLost = false → ∀ effects : List Effect,
    s.server.repliesTo st.inputs.batch.length = effects.map .ok →
      response = .ok (effects.map (·.affected)) ∧
        s'.server.received = s.server.received ++ st.inputs.batch.map (.execute st.onServer.sql)
  /-- If one of them is the first to fail, the response is its failure, and it is the last
  one that was sent. -/
  first : (s.link st.link).isLost = false → ∀ (before : List Effect) (f : Failure) rest,
    s.server.repliesTo st.inputs.batch.length = before.map .ok ++ .error f :: rest →
      response = .error (f.toSqlError p.settings.socketTimeout) ∧
        s'.server.received = s.server.received ++
          (st.inputs.batch.take (before.length + 1)).map (.execute st.onServer.sql)
  /-- If the server has left the connection, none was sent. -/
  lost : (s.link st.link).isLost = true →
    response = (if st.inputs.batch = [] then .ok [] else .error lostError) ∧ s' = s
  /-- The batch is empty then, and nothing else changed in the statement. -/
  emptied : st' = { st with inputs := { st.inputs with batch := [] } }
  /-- Executing it again sends nothing. -/
  again : ∀ later : State, (later.link st.link).isOpen = true →
    p.answerPrepared .batch st' later = (.ok [], st', later)

/-- **A batch runs up to its first failure**, and no entry runs twice. -/
theorem batch_runs_as_prefix (p : Pool) {st : Prepared} {s : State}
    (hopen : (s.link st.link).isOpen = true) :
    let done := p.answerPrepared .batch st s
    RunsAsPrefix p st s done.1 done.2.1 done.2.2 := by
  have hdone : p.answerPrepared .batch st s = _ := executeBatch_of_open hopen
  have hready : (s.link st.link).isLost = false → s.ready st.link = .ok () := fun hlost => by
    simp [State.ready, hopen, hlost]
  have hemptied := batch_executeBatch p st s
  intro done
  constructor
  case added =>
    rintro fresh placeholders before calls hfresh rfl
    rw [(keepsInputs p).afterCalls hfresh before calls]
    rfl
  case all =>
    intro hlost effects h
    simp only [done, hdone, executeAll_of_ok (hready hlost) st.onServer.sql h, true_and]
    rfl
  case first =>
    intro hlost before f rest h
    obtain ⟨htold, hserver⟩ :=
      executeAll_of_error (p := p) (hready hlost) st.onServer.sql h
    simp only [done, hdone, hserver]
    exact ⟨htold, rfl⟩
  case lost =>
    intro hlost
    have hlost : s.ready st.link = .error lostError := by simp [State.ready, hopen, hlost]
    simp only [done, hdone, executeAll_of_not_ready hlost, and_self]
  case emptied => exact hemptied
  case again =>
    intro later hlater
    have hnil : (p.executeBatch st s).2.1.inputs.batch = [] := by rw [hemptied]
    have hlink : (p.executeBatch st s).2.1.link = st.link := by rw [hemptied]
    have hagain := executeBatch_of_nil (p := p) hnil later
    rw [hlink, if_pos hlater] at hagain
    exact hagain

/-- The second of three entries is refused. -/
theorem batch_runs_as_prefix_of_three :
    let p : Pool := ⟨"pool", "app", false, none, .standard 4⟩
    let sql := "INSERT INTO t VALUES (?)"
    let st : Prepared :=
      { link := 0, sql, onServer := ⟨0, sql, []⟩, returnsKeys := false
        inputs := ⟨.ofCount 1, [[.int 1], [.int 2], [.int 3]]⟩ }
    let refusal : ServerError := ⟨1062, "23000", "Duplicate entry"⟩
    let s : State := { server := { responses := [.ok 1 0, .error refusal] }, links := [{}] }
    let done := p.answerPrepared .batch st s
    (s.link st.link).isOpen = true ∧ RunsAsPrefix p st s done.1 done.2.1 done.2.2 ∧
      done.1 = .error refusal.toSqlError ∧
      done.2.2.server.received = [.execute sql [.int 1], .execute sql [.int 2]] := by
  intro p sql st refusal s done
  exact ⟨rfl, batch_runs_as_prefix p rfl, rfl, rfl⟩

end Pool

end SqlAccess.MySql
