import SqlAccess.Proofs.Task.Outcome

/-!
# Asking a handle again

An executor completes a task or drops it, and meanwhile its handle may be asked
for the result any number of times.  The answers depend on what the executor did
first: until then there is no result yet, a result that came is given once, and
whoever asks after that is told that the task was aborted, as if it had been
dropped.

* `Outcome.Event` and `Outcome.answers` — what happens to a task and its handle,
  and what the handle answers;
* `Outcome.told` and `aborted_mem_told` — the answers, known from the events
  alone, and when an abort is among them that the handle makes itself;
* `Tasks.Step`, `Tasks.events` and `Tasks.answers` — the same for one of many
  handles;
* `Tasks.outcome_perform` — a handle is changed by its own events only;
* `Tasks.answers_told` — **the answers of every handle, whatever is done with the
  tasks and in whatever order**.
-/

namespace SqlAccess

namespace Outcome

variable {α : Type}

/-- What happens to a task and its handle. -/
inductive Event (α : Type) where
  | completed (result : Except Error α)
  | dropped
  /-- The handle is asked for the result. -/
  | asked

/-- Whether the handle is asked. -/
def Event.isAsked : Event α → Bool
  | asked => true
  | completed _ | dropped => false

/-- What a handle answers. -/
inductive Answer (α : Type) where
  | notYet
  | result (r : Except Error α)
  /-- The handle itself makes the error that the task was aborted. -/
  | aborted

/-- An answer as it is given. -/
def Answer.value : Answer α → Option (Except Error α)
  | notYet => none
  | result r => some r
  | aborted => some (.error .taskAborted)

/-- The outcome after an event. -/
def after (o : Outcome α) : Event α → Outcome α
  | .completed r => o.complete r
  | .dropped => o.drop
  | .asked => o.tryTake.2

/-- The answers of a handle to all questions among some events. -/
def answers : List (Event α) → Outcome α → List (Option (Except Error α))
  | [], _ => []
  | .asked :: rest, o => o.tryTake.1 :: answers rest (o.after .asked)
  | e :: rest, o => answers rest (o.after e)

/-- How often the handle is asked. -/
def timesAsked (events : List (Event α)) : Nat := events.countP Event.isAsked

@[simp]
theorem timesAsked_asked (events : List (Event α)) :
    timesAsked (.asked :: events) = timesAsked events + 1 :=
  List.countP_cons_of_pos rfl

@[simp]
theorem timesAsked_completed (r : Except Error α) (events : List (Event α)) :
    timesAsked (.completed r :: events) = timesAsked events :=
  List.countP_cons_of_neg Bool.false_ne_true

@[simp]
theorem timesAsked_dropped (events : List (Event α)) :
    timesAsked (.dropped :: events) = timesAsked events :=
  List.countP_cons_of_neg Bool.false_ne_true

/-- The answers to `n` questions once there is a result. -/
def toldResult (r : Except Error α) (n : Nat) : List (Answer α) :=
  (.result r :: List.replicate n .aborted).take n

/-- What the executor did first, if it did anything. -/
def firstDeed (events : List (Event α)) : Option (Event α) :=
  (events.dropWhile Event.isAsked).head?

/-- How often the handle was asked since. -/
def askedSince (events : List (Event α)) : Nat := timesAsked (events.dropWhile Event.isAsked)

/-- The answers to all questions, known from the events: before the executor did
anything there is no result, and what it did first decides the rest. -/
def told (events : List (Event α)) : List (Answer α) :=
  List.replicate (events.takeWhile Event.isAsked).length .notYet ++
    match firstDeed events with
    | some (.completed r) => toldResult r (askedSince events)
    | _ => List.replicate (askedSince events) .aborted

/-! ## One handle -/

/-- Where nothing is left to show, every question is answered with an abort. -/
theorem answers_gone (events : List (Event α)) :
    answers events .gone =
      (List.replicate (timesAsked events) (Answer.aborted (α := α))).map Answer.value := by
  induction events with
  | nil => rfl
  | cons e rest ih =>
      cases e with
      | completed r => exact (timesAsked_completed r rest).symm ▸ ih
      | dropped => exact (timesAsked_dropped rest).symm ▸ ih
      | asked =>
          rw [timesAsked_asked, List.replicate_succ, List.map_cons, ← ih]
          rfl

/-- A result is the answer to the first question. -/
theorem answers_ready (r : Except Error α) (events : List (Event α)) :
    answers events (.ready r) = (toldResult r (timesAsked events)).map Answer.value := by
  induction events with
  | nil => rfl
  | cons e rest ih =>
      cases e with
      -- What the executor does now comes too late.
      | completed r' => exact (timesAsked_completed r' rest).symm ▸ ih
      | dropped => exact (timesAsked_dropped rest).symm ▸ ih
      | asked =>
          have hrest : answers rest ((ready r).after .asked) = _ := answers_gone rest
          rw [answers, hrest, timesAsked_asked, toldResult, List.take_succ_cons, List.map_cons,
            List.take_replicate]
          simp [tryTake, Answer.value]

/-- The answers are known from the events. -/
theorem answers_pending (events : List (Event α)) :
    answers events .pending = (told events).map Answer.value := by
  induction events with
  | nil => rfl
  | cons e rest ih =>
      cases e with
      | completed r =>
          have htold : told (.completed r :: rest) = toldResult r (timesAsked rest) :=
            congrArg (toldResult r) (timesAsked_completed r rest)
          rw [htold, ← answers_ready]
          rfl
      | dropped =>
          have htold : told (.dropped :: rest) = List.replicate (timesAsked rest) .aborted :=
            congrArg (List.replicate · _) (timesAsked_dropped rest)
          rw [htold, ← answers_gone]
          rfl
      | asked =>
          have htold : told (.asked :: rest) = .notYet :: told rest := rfl
          have hrest : answers rest (pending.after .asked) = _ := ih
          rw [answers, hrest, htold]
          rfl

/-- The handle itself makes an abort of the second question after a result. -/
theorem aborted_mem_toldResult (r : Except Error α) (n : Nat) :
    .aborted ∈ toldResult r n ↔ 1 < n := by
  match n with
  | 0 => simp [toldResult]
  | 1 => simp [toldResult]
  | n + 2 => simp [toldResult, List.take_replicate]

/-- It makes one just if it is asked after the task was dropped, or twice after
there was a result. -/
theorem aborted_mem_told (events : List (Event α)) :
    .aborted ∈ told events ↔
      (firstDeed events = some .dropped ∧ 0 < askedSince events) ∨
        ∃ r, firstDeed events = some (.completed r) ∧ 1 < askedSince events := by
  have hpending : Answer.aborted ∉
      List.replicate (events.takeWhile Event.isAsked).length (Answer.notYet (α := α)) := by
    simp
  rw [told, List.mem_append, or_iff_right hpending]
  cases hfirst : firstDeed events with
  | none =>
      have hnothing : askedSince events = 0 := by
        rw [askedSince, List.head?_eq_none_iff.mp hfirst]
        rfl
      simp [hnothing]
  | some e =>
      cases e with
      | completed r => simp [aborted_mem_toldResult]
      | dropped => simp [Nat.pos_iff_ne_zero]
      | asked =>
          have hnever := List.head?_dropWhile_not Event.isAsked events
          rw [← firstDeed, hfirst] at hnever
          cases hnever

/-- So aborts tell of tasks that were dropped as long as nobody asks again for a
result that was given. -/
theorem aborted_only_dropped_iff (events : List (Event α)) :
    (.aborted ∈ told events → firstDeed events = some .dropped) ↔
      ∀ r, firstDeed events = some (.completed r) → askedSince events ≤ 1 := by
  constructor
  · intro honly r hfirst
    by_cases hagain : 1 < askedSince events
    · have hdropped := honly ((aborted_mem_told events).mpr (.inr ⟨r, hfirst, hagain⟩))
      rw [hfirst] at hdropped
      cases hdropped
    · omega
  · intro honce haborted
    rcases (aborted_mem_told events).mp haborted with ⟨hfirst, _⟩ | ⟨r, hfirst, hagain⟩
    · exact hfirst
    · have hle := honce r hfirst
      omega

end Outcome

namespace Tasks

open Outcome (Event)

variable {ω α : Type} {t : Tasks ω α} {handle other : Nat}

/-! ## Many tasks -/

/-- Something done with tasks: by those who hand them over, by the executor, or by
the owner of a handle. -/
inductive Step (ω α : Type) where
  | submit (run : ω → Except Error α × ω)
  | onComplete (handle : Nat) (receive : Except Error α → ω → ω)
  | carryOut (place : Nat)
  | drop (place : Nat)
  | tryTake (handle : Nat)

namespace Step

/-- Takes a step. -/
def perform : Step ω α → Tasks ω α → Tasks ω α
  | submit run, t => (t.submit run).2
  | onComplete handle receive, t => t.onComplete handle receive
  | carryOut place, t => t.runAt place
  | drop place, t => t.dropAt place
  | tryTake handle, t => (t.tryTake handle).2

/-- What carrying out a task means for a handle.  A receiver asks for the result
that it is to receive. -/
def carriedOut (world : ω) (handle : Nat) : Task ω α → Option (Event α)
  | .work h run => if h = handle then some (.completed (run world).1) else none
  | .receiver h _ => if h = handle then some .asked else none

/-- What dropping a task means for a handle. -/
def wasDropped (handle : Nat) : Task ω α → Option (Event α)
  | .work h _ => if h = handle then some .dropped else none
  | .receiver .. => none

/-- What a step means for a handle. -/
def event? (t : Tasks ω α) (handle : Nat) : Step ω α → Option (Event α)
  | submit _ | onComplete .. => none
  | carryOut place => t.queue[place]?.bind (carriedOut t.world handle)
  | drop place => t.queue[place]?.bind (wasDropped handle)
  | tryTake h => if h = handle then some .asked else none

end Step

/-- What some steps mean for a handle, in order. -/
def events (handle : Nat) : List (Step ω α) → Tasks ω α → List (Event α)
  | [], _ => []
  | s :: rest, t => (s.event? t handle).toList ++ events handle rest (s.perform t)

/-- What is answered wherever one of some steps asks a handle. -/
def answers (handle : Nat) : List (Step ω α) → Tasks ω α → List (Option (Except Error α))
  | [], _ => []
  | s :: rest, t =>
    match s.event? t handle with
    | some .asked => (t.tryTake handle).1 :: answers handle rest (s.perform t)
    | _ => answers handle rest (s.perform t)

/-- Asking a handle changes what it shows. -/
theorem outcome_tryTake_self (h : handle < t.outcomes.length) :
    (t.tryTake handle).2.outcome handle = (t.outcome handle).tryTake.2 := by
  simp [outcome, tryTake, List.getD_eq_getElem?_getD, h]

/-- Asking a handle leaves the others alone. -/
theorem outcome_tryTake_of_ne (t : Tasks ω α) (h : other ≠ handle) :
    (t.tryTake other).2.outcome handle = t.outcome handle := by
  simp [outcome, tryTake, List.getD_eq_getElem?_getD, h]

/-- What a handle shows after a step, if the step means something for it. -/
def outcomeAfter (o : Outcome α) : Option (Event α) → Outcome α
  | some e => o.after e
  | none => o

/-- A task that is carried out changes its own handle only. -/
theorem outcome_carryOut (h : handle < t.outcomes.length) (task : Task ω α) :
    (t.carryOut task).outcome handle =
      outcomeAfter (t.outcome handle) (Step.carriedOut t.world handle task) := by
  cases task with
  | work other run =>
      by_cases hsame : other = handle
      · subst hsame
        rw [Step.carriedOut, if_pos rfl]
        exact outcome_settle_self (t := { t with world := (run t.world).2 }) h _
      · rw [Step.carriedOut, if_neg hsame]
        exact outcome_settle_of_ne { t with world := (run t.world).2 } (Ne.symm hsame) _
  | receiver other receive =>
      -- Whether the receiver gets a result or waits, it has asked its handle.
      have hasked : (t.carryOut (.receiver other receive)).outcome handle =
          (t.tryTake other).2.outcome handle := by
        rw [carryOut]
        rcases t.tryTake other with ⟨_ | r, t'⟩ <;> rfl
      rw [hasked]
      by_cases hsame : other = handle
      · subst hsame
        rw [Step.carriedOut, if_pos rfl]
        exact outcome_tryTake_self h
      · rw [Step.carriedOut, if_neg hsame]
        exact outcome_tryTake_of_ne t hsame

/-- **A handle is changed by its own events only.** -/
theorem outcome_perform (h : handle < t.outcomes.length) (s : Step ω α) :
    (s.perform t).outcome handle = outcomeAfter (t.outcome handle) (s.event? t handle) := by
  cases s with
  | submit run => exact outcome_submit_of_lt h run
  | onComplete other receive => rfl
  | carryOut place =>
      simp only [Step.perform, Step.event?, runAt]
      cases t.queue[place]? with
      | none => rfl
      | some task => exact outcome_carryOut (t := { t with queue := t.queue.eraseIdx place }) h task
  | drop place =>
      simp only [Step.perform, Step.event?, dropAt]
      cases t.queue[place]? with
      | none => rfl
      | some task =>
          cases task with
          | receiver other receive => rfl
          | work other run =>
              by_cases hsame : other = handle
              · subst hsame
                simp only [Option.bind_some, Step.wasDropped, if_pos]
                exact outcome_settle_self (t := { t with queue := t.queue.eraseIdx place }) h _
              · simp only [Option.bind_some, Step.wasDropped, if_neg hsame]
                exact outcome_settle_of_ne { t with queue := t.queue.eraseIdx place }
                  (Ne.symm hsame) _
  | tryTake other =>
      by_cases hsame : other = handle
      · subst hsame
        rw [Step.event?, if_pos rfl]
        exact outcome_tryTake_self h
      · rw [Step.event?, if_neg hsame]
        exact outcome_tryTake_of_ne t hsame

/-- Carrying out a task makes and removes no handles. -/
theorem length_carryOut (t : Tasks ω α) (task : Task ω α) :
    (t.carryOut task).outcomes.length = t.outcomes.length := by
  cases task with
  | work other run => exact List.length_modify ..
  | receiver other receive =>
      have hlength : (t.tryTake other).2.outcomes.length = t.outcomes.length := List.length_set ..
      rw [carryOut, ← hlength]
      rcases t.tryTake other with ⟨_ | r, t'⟩ <;> rfl

/-- No step takes a handle away. -/
theorem length_le_perform (t : Tasks ω α) (s : Step ω α) :
    t.outcomes.length ≤ (s.perform t).outcomes.length := by
  cases s with
  | submit run => simp [Step.perform, submit]
  | onComplete other receive => exact Nat.le_refl _
  | carryOut place =>
      simp only [Step.perform, runAt]
      cases t.queue[place]? with
      | none => exact Nat.le_refl _
      | some task =>
          have hlength := length_carryOut { t with queue := t.queue.eraseIdx place } task
          exact Nat.le_of_eq hlength.symm
  | drop place =>
      simp only [Step.perform, dropAt]
      rcases t.queue[place]? with _ | other | other
      · exact Nat.le_refl _
      · simp [settle]
      · exact Nat.le_refl _
  | tryTake other => simp [Step.perform, tryTake]

/-- So the answers of a handle are those that its events lead to. -/
theorem answers_eq (h : handle < t.outcomes.length) (steps : List (Step ω α)) :
    answers handle steps t = Outcome.answers (events handle steps t) (t.outcome handle) := by
  induction steps generalizing t with
  | nil => rfl
  | cons s rest ih =>
      have hrest := ih (Nat.lt_of_lt_of_le h (length_le_perform t s))
      rw [outcome_perform h] at hrest
      rw [answers, events, hrest]
      rcases s.event? t handle with _ | _ | _ | _ <;> rfl

/-- **The answers of a handle are known from the events of its own task.**  Until
the executor completes or drops the task there is no result yet, and a result is
given once; whoever asks after that, or after the task was dropped, is told that
it was aborted.  So aborts tell of tasks that were dropped just as long as nobody
asks again for a result that was given.  And the handle of work among many other
tasks answers like this, whatever is done with the tasks and in whatever order. -/
theorem answers_told (seen : List (Event α)) :
    Outcome.answers seen .pending = (Outcome.told seen).map Outcome.Answer.value ∧
    ((.aborted ∈ Outcome.told seen → Outcome.firstDeed seen = some .dropped) ↔
      ∀ r, Outcome.firstDeed seen = some (.completed r) → Outcome.askedSince seen ≤ 1) ∧
    ∀ (ω : Type) (t : Tasks ω α) (run : ω → Except Error α × ω) (steps : List (Step ω α)),
      let new := t.submit run
      answers new.1 steps new.2 = Outcome.answers (events new.1 steps new.2) .pending := by
  refine ⟨Outcome.answers_pending seen, Outcome.aborted_only_dropped_iff seen, ?_⟩
  intro ω t run steps new
  have hhandle : new.1 < new.2.outcomes.length := by simp [new, submit]
  have hpending : new.2.outcome new.1 = .pending := outcome_submit t run
  rw [answers_eq hhandle, hpending]

/-- A task is carried out, and its handle is asked twice: the second answer is that
the task was aborted, though nothing was dropped. -/
theorem answered_aborted_after_result :
    let new := submit (⟨(), [], [], []⟩ : Tasks Unit Nat) fun world => (.ok 5, world)
    let steps : List (Step Unit Nat) := [.carryOut 0, .tryTake new.1, .tryTake new.1]
    events new.1 steps new.2 = [.completed (.ok 5), .asked, .asked] ∧
      answers new.1 steps new.2 = [some (.ok 5), some (.error .taskAborted)] :=
  ⟨rfl, rfl⟩

end Tasks

end SqlAccess
