import SqlAccess.Database.Deferred

/-!
# Consoles

A console works on one source, command by command.  It does operations at once
or hands them to its executor, whose handles it keeps by name, and it can hold
on to connections and statements of its own, also by name.

* `Command` and `Answer` — what can be asked, and what comes back;
* `Console.step` — one command.
-/

namespace SqlAccess

/-- An object that a console holds on to. -/
inductive Held (D : Driver) where
  | connection (c : D.Connection)
  | statement (s : D.Statement)
  | prepared (p : D.Prepared)

/-- The sorts of held objects. -/
inductive HeldSort where
  | connection | statement | prepared
  deriving DecidableEq

/-- The name of a sort. -/
def HeldSort.name : HeldSort → String
  | connection => "connection"
  | statement => "statement"
  | prepared => "prepared"

/-- The sort of a held object. -/
def Held.sort {D : Driver} : Held D → HeldSort
  | connection _ => .connection
  | statement _ => .statement
  | prepared _ => .prepared

/-- A console. -/
structure Console (D : Driver) (α : Type) where
  executor : Executor
  /-- Whether tasks wait for a command that runs them, rather than for the
  first pause. -/
  isManual : Bool
  tasks : Deferred D α
  handles : List (String × Nat) := []
  held : List (String × Held D) := []

/-- What can be asked of a console. -/
inductive Command (D : Driver) (α : Type) where
  /-- Does an operation and gives its result. -/
  | perform (work : Session D (Except Error α))
  /-- Hands an operation to the executor and keeps the handle under a name, or
  waits for the result if there is none. -/
  | submit (name : Option String) (hand : Deferred D α → Nat × Deferred D α)
  /-- Runs the oldest tasks, up to a limit if there is one. -/
  | run (limit : Option Nat)
  /-- Drops the oldest task. -/
  | dropTask
  | countTasks
  /-- Lets tasks run that do not wait for a command. -/
  | pause
  | tryTake (name : String)
  | await (name : String)
  | dropHandle (name : String)
  /-- Puts the result aside in a slot when it is there. -/
  | onComplete (name slot : String)
  | slot (name : String)
  /-- Ends the source. -/
  | close
  | acquire (name : String)
  | createStatement (connection name : String)
  | prepare (connection name sql : String) (returnsKeys : Bool)
  | supportsBatch (connection : String)
  | release (connection : String)
  /-- Does work with a held statement; which work, depends on its sort. -/
  | work (name : String) (onStatement : StatementProgram (Except Error α))
      (onPrepared : PreparedProgram (Except Error α))

/-- What comes back from a command. -/
inductive Answer (α : Type) where
  | done
  | result (r : Except Error α)
  | submitted
  /-- The task is not done yet. -/
  | pending
  /-- Nothing was put aside. -/
  | empty
  | count (n : Nat)
  | truth (b : Bool)
  /-- The source was ended, or was not. -/
  | closed (r : Except Error Unit)
  /-- A connection, if the source had one to give. -/
  | acquired (r : Except Error (Option HeldSort))
  | opened (r : Except SqlError HeldSort)
  | released (r : Except SqlError Unit)
  /-- Nothing that suits the command has the name. -/
  | unknown

namespace Console

variable {D : Driver} {α β : Type}

/-- The entries of a table, with another one in the place of those of its
name. -/
def put (name : String) (b : β) (table : List (String × β)) : List (String × β) :=
  (name, b) :: table.filter (·.1 != name)

/-- A console that holds nothing yet. -/
def ofState (state : D.State) (executor : Executor) (isManual : Bool) : Console D α :=
  { executor, isManual, tasks := { world := { world := { state } } } }

/-- The driver's state and the warnings. -/
def world (c : Console D α) : World D := c.tasks.world.world

/-- The console with another world. -/
def withWorld (c : Console D α) (world : World D) : Console D α :=
  { c with tasks := { c.tasks with world := { c.tasks.world with world } } }

/-- Does work at once. -/
def perform (c : Console D α) (work : Session D β) : β × Console D α :=
  let (b, desk) := c.tasks.world.perform work
  (b, { c with tasks := { c.tasks with world := desk } })

/-- Holds on to an object. -/
def hold (c : Console D α) (name : String) (h : Held D) : Console D α :=
  { c with held := put name h c.held }

/-- Holds on to a statement that was opened. -/
def open? (c : Console D α) (name : String) : Except SqlError (Held D) → Answer α × Console D α
  | .ok h => (.opened (.ok h.sort), c.hold name h)
  | .error e => (.opened (.error e), c)

/-- Hands an operation to the executor. -/
def submit (c : Console D α) (hand : Deferred D α → Nat × Deferred D α) : Nat × Console D α :=
  let (handle, tasks) := c.executor.submit c.tasks hand
  (handle, { c with tasks })

/-- Waits for the result of a handle. -/
def await (c : Console D α) (handle : Nat) : Answer α × Console D α :=
  let (r, tasks) := c.tasks.await handle
  (.result r, { c with tasks })

/-- The handle of a name, and the console without it. -/
def takeHandle? (c : Console D α) (name : String) : Option (Nat × Console D α) :=
  (c.handles.lookup name).map fun handle =>
    (handle, { c with handles := c.handles.filter (·.1 != name) })

/-- A command on handles and tasks. -/
def stepTasks (c : Console D α) : Command D α → Option (Answer α × Console D α)
  | .run limit =>
    let limit := limit.getD (2 * (c.tasks.queue.length + c.tasks.receivers.length))
    let (n, tasks) := c.tasks.runUpTo (if c.isManual then limit else 0)
    some (.count n, { c with tasks })
  | .dropTask =>
    if c.isManual && !c.tasks.queue.isEmpty then
      some (.truth true, { c with tasks := c.tasks.dropAt 0 })
    else some (.truth false, c)
  | .countTasks => some (.count (if c.isManual then c.tasks.queue.length else 0), c)
  | .pause => some (.done, if c.isManual then c else { c with tasks := c.tasks.runAll.2 })
  | .tryTake name => do
    let (handle, _) ← c.takeHandle? name
    let (r, tasks) := c.tasks.tryTake handle
    return ((r.map .result).getD .pending, { c with tasks })
  | .await name => do
    let (handle, c) ← c.takeHandle? name
    return c.await handle
  | .dropHandle name =>
    match c.takeHandle? name with
    | some (_, c) => some (.truth true, c)
    | none => some (.truth false, c)
  | .onComplete name slot => do
    let (handle, c) ← c.takeHandle? name
    return (.done, { c with
      tasks := c.executor.onComplete c.tasks handle fun r desk =>
        { desk with slots := put slot r desk.slots } })
  | .slot name =>
    some (((c.tasks.world.slots.lookup name).map .result).getD .empty, c)
  | _ => none

/-- A command on a held object. -/
def stepHeld (c : Console D α) : Command D α → Option (Answer α × Console D α)
  | .createStatement connection name => do
    let .connection x ← c.held.lookup connection | none
    let (r, c) := c.perform (Session.onState (D.createStatement x))
    return c.open? name (r.map .statement)
  | .prepare connection name sql returnsKeys => do
    let .connection x ← c.held.lookup connection | none
    let (r, c) := c.perform (Session.onState (D.prepare x sql returnsKeys))
    return c.open? name (r.map .prepared)
  | .supportsBatch connection => do
    let .connection x ← c.held.lookup connection | none
    return (.truth (D.supportsBatch x), c)
  | .release connection => do
    let .connection x ← c.held.lookup connection | none
    let ((r, warnings), x, state) := D.release x c.world.state
    let c := c.withWorld { state, warnings := c.world.warnings ++ warnings }
    return (.released r, c.hold connection (.connection x))
  | .work name onStatement onPrepared =>
    match c.held.lookup name with
    | some (.statement s) =>
      let ((r, s), c) := c.perform (Session.runOn s onStatement)
      some (.result r, c.hold name (.statement s))
    | some (.prepared p) =>
      let ((r, p), c) := c.perform (Session.runOnPrepared p onPrepared)
      some (.result r, c.hold name (.prepared p))
    | _ => none
  | _ => none

/-- One command.  A name that nothing has changes nothing. -/
def step (c : Console D α) : Command D α → Answer α × Console D α
  | .perform work =>
    let (r, c) := c.perform work
    (.result r, c)
  | .submit none hand =>
    let (handle, c) := c.submit hand
    c.await handle
  | .submit (some name) hand =>
    let (handle, c) := c.submit hand
    (.submitted, { c with handles := put name handle c.handles })
  | .close =>
    let (r, c) := c.perform Database.close
    (.closed r, c)
  | .acquire name =>
    match c.perform (Session.onState D.acquire) with
    | (.ok (some x), c) => (.acquired (.ok (some .connection)), c.hold name (.connection x))
    | (.ok none, c) => (.acquired (.ok none), c)
    | (.error e, c) => (.acquired (.error e), c)
  | command => ((c.stepTasks command).or (c.stepHeld command)).getD (.unknown, c)

end Console

end SqlAccess
