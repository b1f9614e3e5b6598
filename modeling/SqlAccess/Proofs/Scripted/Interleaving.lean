import SqlAccess.Proofs.Scripted.Handles
import SqlAccess.Proofs.Scripted.Recording
import SqlAccess.Proofs.Scripted.Release

/-!
# Interleaved calls on a scripted source

The connections and statements of a scripted source share one state.  However
the calls on them are interleaved, the responses of the script are taken in the
order of the executions, the parameters of one statement never get to another,
and what was closed counts once.

* `PreparedAsCalled` — prepared statements are as the calls on them leave them;
* `Ledger` — what every call keeps, with one lemma for each sort of call;
* `accounted_of_interleaving` — **every interleaving is accounted for**.
-/

namespace SqlAccess.Scripted

open CallLog (callsOn textOf)

/-- Every prepared statement has the SQL text it was prepared from and the
inputs that the calls on it leave, whatever was called on others. -/
structure PreparedAsCalled (log : CallLog) (items : List (Held source)) : Prop where
  asCalled : ∀ (h : Nat) (p : Prepared), items[h]? = some (.prepared p) →
    p.sql = textOf log h ∧ p.inputs = .ofHistory id (placeholders p.sql) (callsOn log h)
  unused : ∀ h, items.length ≤ h → callsOn log h = []

namespace PreparedAsCalled

variable {log log' : CallLog} {items : List (Held source)} {h : Nat} {old item : Held source}

theorem congr (hp : PreparedAsCalled log items) (htext : ∀ k, textOf log' k = textOf log k)
    (hcalls : ∀ k, callsOn log' k = callsOn log k) : PreparedAsCalled log' items where
  asCalled k p hk := by
    rw [htext, hcalls]
    exact hp.asCalled k p hk
  unused k hk := by
    rw [hcalls]
    exact hp.unused k hk

/-- A statement that is handed out has not been called. -/
theorem handOut (hp : PreparedAsCalled log items)
    (htext : ∀ k, k ≠ items.length → textOf log' k = textOf log k)
    (hcalls : ∀ k, callsOn log' k = callsOn log k)
    (hitem : ∀ p : Prepared, item = .prepared p →
      p.sql = textOf log' items.length ∧ p.inputs = .ofCount (placeholders p.sql)) :
    PreparedAsCalled log' (items ++ [item]) where
  asCalled k p hk := by
    rw [getElem?_handedOut] at hk
    split at hk
    · rename_i hlast
      obtain ⟨hsql, hinputs⟩ := hitem p (Option.some.inj hk)
      rw [hcalls, hlast, hp.unused items.length (Nat.le_refl _), Inputs.ofHistory_nil]
      exact ⟨hsql, hinputs⟩
    · rename_i hother
      rw [htext k hother, hcalls]
      exact hp.asCalled k p hk
  unused k hk := by
    rw [List.length_append] at hk
    rw [hcalls]
    exact hp.unused k (by omega)

/-- Work with an item that is not a prepared statement. -/
theorem work_other (hp : PreparedAsCalled log items) (hold : items[h]? = some old)
    (htext : ∀ k, textOf log' k = textOf log k) (hcalls : ∀ k, callsOn log' k = callsOn log k)
    (hitem : ∀ p : Prepared, item ≠ .prepared p) : PreparedAsCalled log' (items.set h item) where
  asCalled k p hk := by
    rw [getElem?_worked hold] at hk
    split at hk
    · exact absurd (Option.some.inj hk) (hitem p)
    · rw [htext, hcalls]
      exact hp.asCalled k p hk
  unused k hk := by
    rw [List.length_set] at hk
    rw [hcalls]
    exact hp.unused k hk

/-- A call on a prepared statement changes its own inputs only. -/
theorem call {p p' : Prepared} {c : PreparedCall} {t : HeldReply} (hp : PreparedAsCalled log items)
    (hold : items[h]? = some (.prepared p)) (hsql : p'.sql = p.sql)
    (hinputs : p'.inputs = p.inputs.after id c) :
    PreparedAsCalled ((.askPrepared h c, t) :: log) (items.set h (.prepared p')) where
  asCalled k q hk := by
    have htext : textOf ((.askPrepared h c, t) :: log) k = textOf log k := rfl
    rw [getElem?_worked hold] at hk
    split at hk
    · rename_i hself
      obtain ⟨hp_sql, hp_inputs⟩ := hp.asCalled h p hold
      cases hk
      rw [htext, hself, hsql, CallLog.callsOn_cons_self, hinputs, hp_inputs, Inputs.after_ofHistory]
      exact ⟨hp_sql, rfl⟩
    · rename_i hother
      rw [htext, CallLog.callsOn_cons_of_ne hother]
      exact hp.asCalled k q hk
  unused k hk := by
    obtain ⟨hlt, _⟩ := List.getElem?_eq_some_iff.mp hold
    rw [List.length_set] at hk
    rw [CallLog.callsOn_cons_of_ne (by omega)]
    exact hp.unused k hk

end PreparedAsCalled

/-! ## What a call leaves of its item -/

theorem Statement.isClosed_answer {c : StatementCall} (st : Statement) (hc : c ≠ .close)
    (s : State) : (st.answer c s).2.1.isClosed = st.isClosed := by
  cases c with
  | update sql returnsKeys =>
      simp only [Statement.answer]
      split <;> rfl
  | close => exact absurd rfl hc
  | _ => rfl

theorem Prepared.isClosed_answer {c : PreparedCall} (p : Prepared) (hc : c ≠ .close) (s : State) :
    (p.answer c s).2.1.isClosed = p.isClosed := by
  cases c with
  | query =>
      simp only [Prepared.answer]
      split <;> rfl
  | update =>
      simp only [Prepared.answer]
      split
      · rfl
      · split <;> rfl
  | close => exact absurd rfl hc
  | _ => rfl

theorem Prepared.sql_answer (c : PreparedCall) (p : Prepared) (s : State) :
    (p.answer c s).2.1.sql = p.sql := by
  cases c with
  | query =>
      simp only [Prepared.answer]
      split <;> rfl
  | update =>
      simp only [Prepared.answer]
      split
      · rfl
      · split <;> rfl
  | _ => rfl

/-- A connection is counted when it is first closed. -/
theorem State.closeConnection_counts (s : State) (c : Connection) :
    (s.closeConnection c).2.connections.opened = s.connections.opened ∧
      (s.closeConnection c).2.connections.closed + c.isClosed.toNat = s.connections.closed + 1 ∧
      (s.closeConnection c).1.isClosed = true := by
  cases hc : c.isClosed with
  | true => simp [closeConnection, hc]
  | false => simp [closeConnection, hc]

/-! ## The ledger -/

/-- Whether a connection is closed. -/
def isClosedConnection? : Held source → Option Bool
  | .connection c => some c.isClosed
  | _ => none

/-- Whether a statement, plain or prepared, is closed. -/
def isClosedStatement? : Held source → Option Bool
  | .statement st => some st.isClosed
  | .prepared p => some p.isClosed
  | .connection _ => none

/-- What every call keeps: the source and all it has handed out are as the log
says. -/
structure Ledger (script : List Response) (log : CallLog) (x : Holdings source) : Prop where
  script : FollowsScript script (executions log) x.state
  connections : Counted log.openedConnections log.closedConnections x.state.connections
    fun h => x.items[h]?.bind isClosedConnection?
  statements : Counted log.openedStatements log.closedStatements x.state.statements
    fun h => x.items[h]?.bind isClosedStatement?
  prepared : PreparedAsCalled log x.items

namespace Ledger

variable {script : List Response} {log : CallLog} {x y : Holdings source} {t : HeldReply}

/-- Without a connection to give, nothing changes. -/
theorem not_acquired (hx : Ledger script log x) (ht : ∀ h, t ≠ .opened h) :
    Ledger script ((.acquire, t) :: log) x := by
  cases t with
  | opened h => exact absurd rfl (ht h)
  | _ =>
      constructor
      case script =>
        rw [executions_of_none rfl]
        exact hx.script
      case connections => exact hx.connections
      case statements => exact hx.statements
      case prepared => exact hx.prepared.congr (fun _ => rfl) (fun _ => rfl)

theorem acquire (hx : Ledger script log x) (h : x.call .acquire = some (t, y)) :
    Ledger script ((.acquire, t) :: log) y := by
  simp only [Holdings.call] at h
  rcases x.state.acquire_cases with ⟨e, ha⟩ | ha | ha
  · simp only [ha] at h
    cases h
    apply hx.not_acquired
    intro k ht
    cases ht
  · simp only [ha] at h
    cases h
    apply hx.not_acquired
    intro k ht
    cases ht
  · simp only [ha] at h
    cases h
    constructor
    case script =>
      rw [executions_of_none rfl]
      exact hx.script.still rfl rfl
    case connections => exact hx.connections.handOut_item rfl
    case statements => exact hx.statements.handOut_other rfl
    case prepared =>
      refine hx.prepared.handOut (fun _ _ => rfl) (fun _ => rfl) ?_
      intro p hp
      cases hp

theorem shutDown (hx : Ledger script log x) (h : x.call .shutDown = some (t, y)) :
    Ledger script ((.shutDown, t) :: log) y := by
  cases h
  constructor
  case script =>
    rw [executions_of_none rfl]
    exact hx.script.still rfl rfl
  case connections => exact hx.connections
  case statements => exact hx.statements
  case prepared => exact hx.prepared.congr (fun _ => rfl) (fun _ => rfl)

theorem create {h : Nat} (hx : Ledger script log x) (hcall : x.call (.create h) = some (t, y)) :
    Ledger script ((.create h, t) :: log) y := by
  simp only [Holdings.call] at hcall
  split at hcall
  · cases hcall
    constructor
    case script =>
      rw [executions_of_none rfl]
      exact hx.script.still rfl rfl
    case connections => exact hx.connections.handOut_other rfl
    case statements => exact hx.statements.handOut_item rfl
    case prepared =>
      refine hx.prepared.handOut (fun _ _ => rfl) (fun _ => rfl) ?_
      intro p hp
      cases hp
  · cases hcall

theorem prepare {h : Nat} {sql : String} {returnsKeys : Bool} (hx : Ledger script log x)
    (hcall : x.call (.prepare h sql returnsKeys) = some (t, y)) :
    Ledger script ((.prepare h sql returnsKeys, t) :: log) y := by
  simp only [Holdings.call] at hcall
  split at hcall
  · cases hcall
    constructor
    case script =>
      rw [executions_of_none rfl]
      exact hx.script.still rfl rfl
    case connections => exact hx.connections.handOut_other rfl
    case statements => exact hx.statements.handOut_item rfl
    case prepared =>
      apply hx.prepared.handOut
      · intro k hk
        simp only [textOf, if_neg (Ne.symm hk)]
      · exact fun _ => rfl
      · intro p hp
        cases hp
        simp only [textOf, if_true]
        exact ⟨rfl, rfl⟩
  · cases hcall

theorem release {h : Nat} (hx : Ledger script log x) (hcall : x.call (.release h) = some (t, y)) :
    Ledger script ((.release h, t) :: log) y := by
  simp only [Holdings.call] at hcall
  split at hcall
  case h_2 => cases hcall
  case h_1 c hc =>
    cases hcall
    constructor
    case script =>
      exact hx.script.step (records_closeConnection x.state c _)
    case connections =>
      obtain ⟨hopened, hclosed, his⟩ := x.state.closeConnection_counts c
      exact hx.connections.work_item hc rfl (congrArg some his) hopened hclosed (Or.inr ⟨rfl, rfl⟩)
    case statements =>
      rw [release_statements]
      exact hx.statements.work_other hc rfl rfl
    case prepared =>
      refine hx.prepared.work_other hc (fun _ => rfl) (fun _ => rfl) ?_
      intro p hp
      cases hp

theorem ask {h : Nat} {c : StatementCall} (hx : Ledger script log x)
    (hcall : x.call (.ask h c) = some (t, y)) : Ledger script ((.ask h c, t) :: log) y := by
  simp only [Holdings.call] at hcall
  split at hcall
  case h_2 => cases hcall
  case h_1 st hst =>
    cases hcall
    have hkeeps := st.answer_keeps c x.state
    constructor
    case script => exact hx.script.step (st.records_answer c x.state)
    case connections =>
      rw [hkeeps.connections]
      exact hx.connections.work_other hst rfl rfl
    case statements =>
      have hsame := fun hc : c ≠ .close => st.isClosed_answer hc x.state
      refine hx.statements.work_item hst rfl rfl hkeeps.opened hkeeps.closed ?_
      cases c with
      | close => exact Or.inr ⟨rfl, rfl⟩
      | _ =>
          refine Or.inl ⟨hsame ?_, rfl⟩
          intro hc
          cases hc
    case prepared =>
      refine hx.prepared.work_other hst (fun _ => rfl) (fun _ => rfl) ?_
      intro p hp
      cases hp

theorem askPrepared {h : Nat} {c : PreparedCall} (hx : Ledger script log x)
    (hcall : x.call (.askPrepared h c) = some (t, y)) :
    Ledger script ((.askPrepared h c, t) :: log) y := by
  simp only [Holdings.call] at hcall
  split at hcall
  case h_2 => cases hcall
  case h_1 p hp =>
    cases hcall
    have hkeeps := p.answer_keeps c x.state
    obtain ⟨hsql, hinputs⟩ := hx.prepared.asCalled h p hp
    constructor
    case script =>
      have hrecords := Prepared.records_answer hinputs c x.state
      rw [hsql] at hrecords
      exact hx.script.step hrecords
    case connections =>
      rw [hkeeps.connections]
      exact hx.connections.work_other hp rfl rfl
    case statements =>
      have hsame := fun hc : c ≠ .close => p.isClosed_answer hc x.state
      refine hx.statements.work_item hp rfl rfl hkeeps.opened hkeeps.closed ?_
      cases c with
      | close => exact Or.inr ⟨rfl, rfl⟩
      | _ =>
          refine Or.inl ⟨hsame ?_, rfl⟩
          intro hc
          cases hc
    case prepared =>
      exact hx.prepared.call hp (p.sql_answer c x.state) (keepsInputs.after c p x.state)

end Ledger

/-- The source as it is made, and nothing handed out. -/
theorem Ledger.nil {s : State} (hrecorded : s.recorded = []) (hconnections : s.connections = {})
    (hstatements : s.statements = {}) : Ledger s.responses [] ⟨s, []⟩ := by
  have hnone : ∀ isClosed? : Held source → Option Bool,
      Counted [] [] {} fun h => ([] : List (Held source))[h]?.bind isClosed? :=
    fun _ => ⟨rfl, rfl, List.nodup_nil, List.Subset.refl [], fun _ => rfl⟩
  constructor
  case script =>
    refine ⟨hrecorded, rfl, ?_⟩
    intro k e t h
    cases h
  case connections =>
    rw [hconnections]
    exact hnone _
  case statements =>
    rw [hstatements]
    exact hnone _
  case prepared =>
    refine ⟨?_, fun _ _ => rfl⟩
    intro h p hp
    cases hp

/-- One call keeps the ledger. -/
theorem Ledger.call {script : List Response} {log : CallLog} {x y : Holdings source} {c : HeldCall}
    {t : HeldReply} (hx : Ledger script log x) (hcall : x.call c = some (t, y)) :
    Ledger script ((c, t) :: log) y := by
  cases c with
  | acquire => exact hx.acquire hcall
  | shutDown => exact hx.shutDown hcall
  | create h => exact hx.create hcall
  | prepare h sql returnsKeys => exact hx.prepare hcall
  | release h => exact hx.release hcall
  | ask h c => exact hx.ask hcall
  | askPrepared h c => exact hx.askPrepared hcall

/-- The ledger is kept by all interleavings. -/
theorem Ledger.of_interleaving {s : State} (hrecorded : s.recorded = [])
    (hconnections : s.connections = {}) (hstatements : s.statements = {}) {log : CallLog}
    {x : Holdings source} (h : Interleaving source s log x) : Ledger s.responses log x := by
  induction h with
  | nil => exact .nil hrecorded hconnections hstatements
  | call before hcall ih => exact ih.call hcall

/-! ## All interleavings -/

/-- What the state of a source says of the calls of a log. -/
structure Accounted (script : List Response) (log : CallLog) (s : State) : Prop where
  /-- Just the executions of the log were recorded, in its order. -/
  recorded : s.recorded = (executions log).map Prod.fst
  /-- Each was made by a call on its statement, with what the calls on that
  statement had bound or added before, and was told the response of its place. -/
  made : ∀ (k : Nat) (e : Execution), s.recorded[k]? = some e →
    ∃ later earlier c, log = later ++ (c, .reply (e.reply script[k]?)) :: earlier ∧
      execution? earlier c = some e ∧ (executions earlier).length = k
  responses : s.responses = script.drop s.recorded.length
  connections_opened : s.connections.opened = log.openedConnections.length
  connections_closed : s.connections.closed = log.closedConnections.dedup.length
  connections_le : s.connections.closed ≤ s.connections.opened
  statements_opened : s.statements.opened = log.openedStatements.length
  statements_closed : s.statements.closed = log.closedStatements.dedup.length
  statements_le : s.statements.closed ≤ s.statements.opened

/-- **All interleavings are accounted for.**  However the calls on connections
and statements of a new source are interleaved, and whichever are repeated, the
executions take the responses of the script in their order, each has the
parameters of its own statement, and a handle that was closed counts once.  After
each of them, every call is made whose handle is of the right sort. -/
theorem accounted_of_interleaving {s : State} (hrecorded : s.recorded = [])
    (hconnections : s.connections = {}) (hstatements : s.statements = {}) {log : CallLog}
    {x : Holdings source} (h : Interleaving source s log x) :
    Accounted s.responses log x.state ∧
      ∀ c, x.Fits c → ∃ t y, Interleaving source s ((c, t) :: log) y := by
  have hledger := Ledger.of_interleaving hrecorded hconnections hstatements h
  refine ⟨?_, fun c hc => h.exists_call hc⟩
  constructor
  case recorded => exact hledger.script.recorded
  case made =>
    intro k e hk
    rw [hledger.script.recorded, List.getElem?_map, Option.map_eq_some_iff] at hk
    obtain ⟨⟨e', t⟩, hk, rfl⟩ := hk
    obtain rfl := hledger.script.replies k e' t hk
    exact executions_made hk
  case responses =>
    rw [hledger.script.responses, hledger.script.recorded, List.length_map]
  case connections_opened => exact hledger.connections.length_opened
  case connections_closed => exact hledger.connections.length_closed
  case connections_le => exact hledger.connections.closed_le_opened
  case statements_opened => exact hledger.statements.length_opened
  case statements_closed => exact hledger.statements.length_closed
  case statements_le => exact hledger.statements.closed_le_opened

/-- Two statements of two connections are bound in turn.  One is executed and
closed twice, and its connection is closed twice; the other is executed after
that, and meets a response of the wrong kind. -/
theorem accounted_of_two_statements :
    let s : State := { responses := [.update 1 none, .batch []] }
    let log : CallLog :=
      [(.askPrepared 2 .query, .reply (.error (State.wrongKind (.batch []) .query))),
        (.release 1, .reply (.ok .done)), (.release 1, .reply (.ok .done)),
        (.askPrepared 3 .close, .reply (.ok .done)), (.askPrepared 3 .close, .reply (.ok .done)),
        (.askPrepared 3 .update, .reply (.ok (.count 1))),
        (.askPrepared 3 (.binding (.bind 1 (.string "x"))), .reply (.ok .done)),
        (.askPrepared 2 (.binding (.bind 1 (.bool true))), .reply (.ok .done)),
        (.prepare 1 "UPDATE t SET a = ?" false, .opened 3),
        (.prepare 0 "SELECT a FROM t WHERE b = ?" false, .opened 2),
        (.acquire, .opened 1), (.acquire, .opened 0)]
    (s.recorded = [] ∧ s.connections = {} ∧ s.statements = {}) ∧
      ∃ x, Interleaving source s log x ∧ Accounted s.responses log x.state ∧
        x.state.recorded = [
          { sql := "UPDATE t SET a = ?", kind := .update, params := [.string "x"] },
          { sql := "SELECT a FROM t WHERE b = ?", kind := .query, params := [.bool true] }] ∧
        x.state.connections = ⟨2, 1⟩ ∧ x.state.statements = ⟨2, 1⟩ := by
  intro s log
  have h : ∃ x, Interleaving source s log x :=
    ⟨_, .call (.call (.call (.call (.call (.call (.call (.call (.call (.call (.call (.call .nil
      rfl) rfl) rfl) rfl) rfl) rfl) rfl) rfl) rfl) rfl) rfl) rfl⟩
  obtain ⟨x, hx⟩ := h
  obtain ⟨hx', -⟩ := accounted_of_interleaving rfl rfl rfl hx
  refine ⟨⟨rfl, rfl, rfl⟩, x, hx, hx', hx'.recorded.trans rfl, ?_, ?_⟩
  · calc x.state.connections
        = ⟨x.state.connections.opened, x.state.connections.closed⟩ := rfl
      _ = ⟨2, 1⟩ := by
        rw [hx'.connections_opened, hx'.connections_closed]
        rfl
  · calc x.state.statements
        = ⟨x.state.statements.opened, x.state.statements.closed⟩ := rfl
      _ = ⟨2, 1⟩ := by
        rw [hx'.statements_opened, hx'.statements_closed]
        rfl

end SqlAccess.Scripted
