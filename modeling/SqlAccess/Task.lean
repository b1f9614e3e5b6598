import SqlAccess.Error

/-!
# Tasks and their handles

Work that is handed to an executor and carried out later, or never.  Whoever
handed it over keeps a handle, which shows the result once the work is done,
or that it was dropped.  What work is done on is a world of any type; results
are of one type.

* `Outcome` and `Outcome.tryTake` — what a handle shows;
* `Tasks` — the work that waits and the outcomes so far;
* `Tasks.submit`, `runAt`, `dropAt` — handing work over, doing it, dropping it;
* `Tasks.tryTake` and `await` — taking a result, at once or after a wait;
* `Tasks.onComplete` — work that receives a result;
* `Executor` — how an executor treats what it is handed.
-/

namespace SqlAccess

/-- What a handle can show of its task. -/
inductive Outcome (α : Type) where
  /-- The task is not done yet. -/
  | pending
  | ready (result : Except Error α)
  /-- Nothing is left to show: the task was dropped, or its result was taken. -/
  | gone

namespace Outcome

variable {α : Type}

/-- Takes the result if there is one.  Where nothing is left, the task counts
as aborted. -/
def tryTake : Outcome α → Option (Except Error α) × Outcome α
  | pending => (none, pending)
  | ready r => (some r, gone)
  | gone => (some (.error .taskAborted), gone)

/-- The outcome when a task is done: a pending one becomes ready. -/
def complete (r : Except Error α) : Outcome α → Outcome α
  | pending => ready r
  | o => o

/-- The outcome when a task is dropped: a pending one is gone. -/
def drop : Outcome α → Outcome α
  | pending => gone
  | o => o

end Outcome

/-- Something an executor was handed: work whose result goes to a handle, or a
receiver of a handle's result. -/
inductive Task (ω α : Type) where
  | work (handle : Nat) (run : ω → Except Error α × ω)
  | receiver (handle : Nat) (receive : Except Error α → ω → ω)

/-- The handle a task belongs to. -/
def Task.handle {ω α : Type} : Task ω α → Nat
  | work h _ | receiver h _ => h

/-- The world, the tasks that wait, oldest first, the receivers whose results
are not there yet, and the outcome of every handle. -/
structure Tasks (ω α : Type) where
  world : ω
  queue : List (Task ω α) := []
  receivers : List (Task ω α) := []
  outcomes : List (Outcome α) := []

namespace Tasks

variable {ω α : Type}

/-- What a handle shows; nothing, if there is no such handle. -/
def outcome (t : Tasks ω α) (handle : Nat) : Outcome α := t.outcomes.getD handle .gone

/-- Changes what a handle shows, and puts the receivers that waited for it in
line. -/
def settle (t : Tasks ω α) (handle : Nat) (f : Outcome α → Outcome α) : Tasks ω α :=
  { t with
    outcomes := t.outcomes.modify handle f
    queue := t.queue ++ t.receivers.filter (·.handle == handle)
    receivers := t.receivers.filter (·.handle != handle) }

/-- Hands work over.  The handle is new. -/
def submit (t : Tasks ω α) (run : ω → Except Error α × ω) : Nat × Tasks ω α :=
  let handle := t.outcomes.length
  (handle, { t with
    outcomes := t.outcomes ++ [.pending]
    queue := t.queue ++ [.work handle run] })

/-- Hands a receiver of a handle's result over. -/
def onComplete (t : Tasks ω α) (handle : Nat) (receive : Except Error α → ω → ω) : Tasks ω α :=
  { t with queue := t.queue ++ [.receiver handle receive] }

/-- Takes the result of a handle, if it is there. -/
def tryTake (t : Tasks ω α) (handle : Nat) : Option (Except Error α) × Tasks ω α :=
  let (r, o) := (t.outcome handle).tryTake
  (r, { t with outcomes := t.outcomes.set handle o })

/-- Does a task: work gives its handle the result, and a receiver gets the
result of its handle or waits for it. -/
def carryOut (t : Tasks ω α) : Task ω α → Tasks ω α
  | .work handle run =>
    let (r, world) := run t.world
    { t with world }.settle handle (·.complete r)
  | .receiver handle receive =>
    match t.tryTake handle with
    | (some r, t) => { t with world := receive r t.world }
    | (none, t) => { t with receivers := t.receivers ++ [.receiver handle receive] }

/-- Does the task at a place in the queue. -/
def runAt (t : Tasks ω α) (place : Nat) : Tasks ω α :=
  match t.queue[place]? with
  | some task => { t with queue := t.queue.eraseIdx place }.carryOut task
  | none => t

/-- Drops the task at a place in the queue. -/
def dropAt (t : Tasks ω α) (place : Nat) : Tasks ω α :=
  match t.queue[place]? with
  | some (.work handle _) => { t with queue := t.queue.eraseIdx place }.settle handle (·.drop)
  | some (.receiver ..) => { t with queue := t.queue.eraseIdx place }
  | none => t

/-- Does the oldest tasks, up to `limit` of them, those put in line meanwhile
included; gives the number of tasks done. -/
def runUpTo : (limit : Nat) → Tasks ω α → Nat × Tasks ω α
  | 0, t => (0, t)
  | limit + 1, t =>
    if t.queue.isEmpty then (0, t)
    else
      let (n, t) := runUpTo limit (t.runAt 0)
      (n + 1, t)

/-- Does all tasks that wait.  Each task in line is done once, and a receiver
at most once more after it was put back in line. -/
def runAll (t : Tasks ω α) : Nat × Tasks ω α :=
  runUpTo (2 * (t.queue.length + t.receivers.length)) t

/-- Waits for the result of a handle: while it is not there, the tasks in line
are done. -/
def await (t : Tasks ω α) (handle : Nat) : Except Error α × Tasks ω α :=
  let t := match t.outcome handle with
    | .pending => t.runAll.2
    | _ => t
  let (r, t) := t.tryTake handle
  (r.getD (.error .taskAborted), t)

end Tasks

/-- How an executor treats a task it is handed. -/
inductive Executor where
  /-- Keeps it until it is told to go on. -/
  | keeping
  /-- Carries it out at once. -/
  | immediate
  /-- Drops it. -/
  | dropping
  deriving DecidableEq

namespace Executor

variable {ω α : Type}

/-- Treats the task that was handed over last. -/
def accept (e : Executor) (t : Tasks ω α) : Tasks ω α :=
  match e with
  | keeping => t
  | immediate => t.runAt (t.queue.length - 1)
  | dropping => t.dropAt (t.queue.length - 1)

/-- Hands work to an executor, in the given way. -/
def submit (e : Executor) (t : Tasks ω α) (hand : Tasks ω α → Nat × Tasks ω α) :
    Nat × Tasks ω α :=
  let (handle, t) := hand t
  (handle, e.accept t)

/-- Hands a receiver of a result to an executor. -/
def onComplete (e : Executor) (t : Tasks ω α) (handle : Nat) (receive : Except Error α → ω → ω) :
    Tasks ω α :=
  e.accept (t.onComplete handle receive)

end Executor

end SqlAccess
