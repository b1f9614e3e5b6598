import SqlAccess.Task

/-!
# What a handle shows

The outcome of one handle is changed by its own task only.  A task that is done
or dropped while its handle is pending settles it; whoever waits then, gets the
result, or hears that the task was aborted.

* `Tasks.outcome_submit`, `outcome_settle_self`, `outcome_settle_of_ne` — the
  outcomes after a step;
* `Tasks.await_of_ready`, `await_of_gone` — waiting for a handle that is settled.
-/

namespace SqlAccess.Tasks

variable {ω α : Type}

/-- The handle of work that is handed over is pending. -/
theorem outcome_submit (t : Tasks ω α) (run : ω → Except Error α × ω) :
    (t.submit run).2.outcome t.outcomes.length = .pending := by
  simp [outcome, submit, List.getD_eq_getElem?_getD]

/-- Handing work over leaves the other handles alone. -/
theorem outcome_submit_of_lt {t : Tasks ω α} {handle : Nat} (h : handle < t.outcomes.length)
    (run : ω → Except Error α × ω) : (t.submit run).2.outcome handle = t.outcome handle := by
  simp [outcome, submit, List.getD_eq_getElem?_getD, List.getElem?_append_left h]

/-- Settling a handle changes what it shows. -/
theorem outcome_settle_self {t : Tasks ω α} {handle : Nat} (h : handle < t.outcomes.length)
    (f : Outcome α → Outcome α) : (t.settle handle f).outcome handle = f (t.outcome handle) := by
  simp [outcome, settle, List.getD_eq_getElem?_getD, h]

/-- Settling a handle leaves the others alone. -/
theorem outcome_settle_of_ne (t : Tasks ω α) {handle other : Nat} (h : other ≠ handle)
    (f : Outcome α → Outcome α) : (t.settle handle f).outcome other = t.outcome other := by
  simp [outcome, settle, List.getD_eq_getElem?_getD, Ne.symm h]

/-- Where the result is there, waiting gives it and changes nothing else. -/
theorem await_of_ready {t : Tasks ω α} {handle : Nat} {r : Except Error α}
    (h : t.outcome handle = .ready r) :
    t.await handle = (r, { t with outcomes := t.outcomes.set handle .gone }) := by
  simp [await, tryTake, h, Outcome.tryTake]

/-- Where the results of several handles are there, waiting gives them. -/
theorem map_await_of_ready {ι : Type} {t : Tasks ω α} {handle : ι → Nat} {xs : List ι}
    {rs : List (Except Error α)} (h : xs.map (fun x => t.outcome (handle x)) = rs.map .ready) :
    xs.map (fun x => (t.await (handle x)).1) = rs := by
  induction xs generalizing rs with
  | nil => simpa using h
  | cons x rest ih =>
      cases rs with
      | nil => simp at h
      | cons r rs =>
          simp only [List.map_cons, List.cons.injEq] at h
          rw [List.map_cons, ih h.2, await_of_ready h.1]

/-- Where nothing is left to show, the task was aborted. -/
theorem await_of_gone {t : Tasks ω α} {handle : Nat} (h : t.outcome handle = .gone) :
    t.await handle = (.error .taskAborted, { t with outcomes := t.outcomes.set handle .gone }) := by
  simp [await, tryTake, h, Outcome.tryTake]

end SqlAccess.Tasks
