import SqlAccess.Console
import SqlAccess.Statement.Script

/-!
# Interleaved calls

Connections and statements that a driver has handed out are called in any
order, by as many users as there are; all of them share the driver's state.
Here they are kept in one list, and a handle is a place in it.  Each call is one
step, since a driver does it without another call in between.

The calls so far are kept in a log, the latest first, each with what it told.
What was done on one handle is read off the log, whatever was called between.

* `Holdings.call` — one call on what was handed out;
* `Holdings.isSome_call` — whatever was called before, a call is made if its
  handle is of the right sort;
* `Interleaving` — the holdings that a log of calls leads to, and
  `Interleaving.exists_call`, that every such call may be the next;
* `callsOn`, `textOf`, `closedConnections`, … — what a log says of handles.
-/

namespace SqlAccess

/-- A call by a user of a driver.  Connections and statements are known by
their handles. -/
inductive HeldCall where
  | acquire
  | shutDown
  | create (connection : Nat)
  | prepare (connection : Nat) (sql : String) (returnsKeys : Bool)
  | release (connection : Nat)
  | ask (statement : Nat) (c : StatementCall)
  | askPrepared (statement : Nat) (c : PreparedCall)

/-- What a call told. -/
inductive HeldReply where
  /-- A connection or statement was handed out. -/
  | opened (handle : Nat)
  | nothing
  | failed (e : Error)
  | reply (r : Except SqlError Reply)

/-- The state of a driver and everything it has handed out. -/
structure Holdings (D : Driver) where
  state : D.State
  items : List (Held D) := []

namespace Holdings

variable {D : Driver}

/-- Puts a connection or statement behind those handed out before. -/
def handOut (x : Holdings D) (item : Held D) (state : D.State) : HeldReply × Holdings D :=
  (.opened x.items.length, ⟨state, x.items ++ [item]⟩)

/-- One call, unless its handle is of another sort. -/
def call (x : Holdings D) : HeldCall → Option (HeldReply × Holdings D)
  | .acquire =>
    match D.acquire x.state with
    | (.ok (some c), state) => some (x.handOut (.connection c) state)
    | (.ok none, state) => some (.nothing, { x with state })
    | (.error e, state) => some (.failed e, { x with state })
  | .shutDown =>
    match D.shutDown x.state with
    | (.ok (), state) => some (.nothing, { x with state })
    | (.error e, state) => some (.failed e, { x with state })
  | .create h =>
    match x.items[h]? with
    | some (.connection c) =>
      match D.createStatement c x.state with
      | (.ok st, state) => some (x.handOut (.statement st) state)
      | (.error e, state) => some (.reply (.error e), { x with state })
    | _ => none
  | .prepare h sql returnsKeys =>
    match x.items[h]? with
    | some (.connection c) =>
      match D.prepare c sql returnsKeys x.state with
      | (.ok p, state) => some (x.handOut (.prepared p) state)
      | (.error e, state) => some (.reply (.error e), { x with state })
    | _ => none
  | .release h =>
    match x.items[h]? with
    | some (.connection c) =>
      let ((r, _), c, state) := D.release c x.state
      some (.reply (r.map fun () => .done), ⟨state, x.items.set h (.connection c)⟩)
    | _ => none
  | .ask h c =>
    match x.items[h]? with
    | some (.statement st) =>
      let (r, st, state) := D.answer c st x.state
      some (.reply (c.reply r), ⟨state, x.items.set h (.statement st)⟩)
    | _ => none
  | .askPrepared h c =>
    match x.items[h]? with
    | some (.prepared p) =>
      let (r, p, state) := D.answerPrepared c p x.state
      some (.reply (c.reply r), ⟨state, x.items.set h (.prepared p)⟩)
    | _ => none

/-- Whether the handle of a call, if it has one, is of the call's sort. -/
def Fits (x : Holdings D) : HeldCall → Prop
  | .acquire | .shutDown => True
  | .create h | .prepare h _ _ | .release h => ∃ c, x.items[h]? = some (.connection c)
  | .ask h _ => ∃ st, x.items[h]? = some (.statement st)
  | .askPrepared h _ => ∃ p, x.items[h]? = some (.prepared p)

/-- A call whose handle fits is made, whatever was called before. -/
theorem isSome_call {x : Holdings D} {c : HeldCall} (h : x.Fits c) : (x.call c).isSome = true := by
  cases c with
  | acquire =>
      simp only [call]
      split <;> rfl
  | shutDown =>
      simp only [call]
      split <;> rfl
  | create k =>
      obtain ⟨c, hc⟩ := h
      simp only [call, hc]
      split <;> rfl
  | prepare k sql returnsKeys =>
      obtain ⟨c, hc⟩ := h
      simp only [call, hc]
      split <;> rfl
  | release k =>
      obtain ⟨c, hc⟩ := h
      simp only [call, hc]
      rfl
  | ask k c =>
      obtain ⟨st, hst⟩ := h
      simp only [call, hst]
      rfl
  | askPrepared k c =>
      obtain ⟨p, hp⟩ := h
      simp only [call, hp]
      rfl

end Holdings

/-- Calls so far, each with what it told, the latest first. -/
abbrev CallLog : Type := List (HeldCall × HeldReply)

/-- From a state in which nothing is handed out, the calls of the log lead to
the holdings. -/
inductive Interleaving (D : Driver) (start : D.State) : CallLog → Holdings D → Prop where
  | nil : Interleaving D start [] ⟨start, []⟩
  | call {log : CallLog} {x y : Holdings D} {c : HeldCall} {t : HeldReply}
      (before : Interleaving D start log x) (hcall : x.call c = some (t, y)) :
      Interleaving D start ((c, t) :: log) y

/-- An interleaving goes on with every call whose handle fits. -/
theorem Interleaving.exists_call {D : Driver} {start : D.State} {log : CallLog} {x : Holdings D}
    {c : HeldCall} (h : Interleaving D start log x) (hc : x.Fits c) :
    ∃ t y, Interleaving D start ((c, t) :: log) y := by
  obtain ⟨⟨t, y⟩, hcall⟩ := Option.isSome_iff_exists.mp (Holdings.isSome_call hc)
  exact ⟨t, y, h.call hcall⟩

namespace CallLog

/-- The handle of a connection that an entry of a log hands out. -/
def openedConnection? : HeldCall × HeldReply → Option Nat
  | (.acquire, .opened h) => some h
  | _ => none

/-- The handle of a statement that an entry of a log hands out. -/
def openedStatement? : HeldCall × HeldReply → Option Nat
  | (.create _, .opened h) | (.prepare .., .opened h) => some h
  | _ => none

/-- The handle of the connection that an entry of a log closes, once more
perhaps. -/
def closedConnection? : HeldCall × HeldReply → Option Nat
  | (.release h, _) => some h
  | _ => none

/-- The handle of the statement that an entry of a log closes, once more
perhaps. -/
def closedStatement? : HeldCall × HeldReply → Option Nat
  | (.ask h .close, _) | (.askPrepared h .close, _) => some h
  | _ => none

def openedConnections (log : CallLog) : List Nat := log.filterMap openedConnection?

def openedStatements (log : CallLog) : List Nat := log.filterMap openedStatement?

/-- The connections closed, each as often as it was. -/
def closedConnections (log : CallLog) : List Nat := log.filterMap closedConnection?

/-- The statements closed, each as often as it was. -/
def closedStatements (log : CallLog) : List Nat := log.filterMap closedStatement?

def preparedCall? (h : Nat) : HeldCall × HeldReply → Option PreparedCall
  | (.askPrepared k c, _) => if k = h then some c else none
  | _ => none

/-- The calls on one prepared statement, the latest first. -/
def callsOn (log : CallLog) (h : Nat) : List PreparedCall := log.filterMap (preparedCall? h)

theorem callsOn_cons_self (log : CallLog) (h : Nat) (c : PreparedCall) (t : HeldReply) :
    callsOn ((.askPrepared h c, t) :: log) h = c :: callsOn log h := by
  simp [callsOn, preparedCall?]

/-- A call on one prepared statement is none on another. -/
theorem callsOn_cons_of_ne {log : CallLog} {h k : Nat} {c : PreparedCall} {t : HeldReply}
    (hk : k ≠ h) : callsOn ((.askPrepared h c, t) :: log) k = callsOn log k := by
  simp [callsOn, preparedCall?, Ne.symm hk]

/-- The SQL text that a handle was prepared from. -/
def textOf : CallLog → Nat → String
  | [], _ => ""
  | (.prepare _ sql _, .opened k) :: earlier, h => if k = h then sql else textOf earlier h
  | _ :: earlier, h => textOf earlier h

end CallLog

end SqlAccess
