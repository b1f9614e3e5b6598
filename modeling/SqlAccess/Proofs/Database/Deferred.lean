import Mathlib.Data.List.InsertIdx
import Mathlib.Data.List.Perm.Basic
import SqlAccess.Database.Deferred
import SqlAccess.Proofs.Task.Outcome
import SqlAccess.Scripted.Source

/-!
# Deferred operations are direct ones

Operations are handed to an executor, which carries tasks out and drops them as
it likes, in any order and also between one handing over and the next.  What
this comes to is told by a plain account: which operations were called, in which
order, which were dropped, and which still wait.

* `Operation.defer_eq` — whichever operation is handed over, the task is the
  whole operation;
* `Deed` — handing over, carrying out, dropping, and `Executor.submit_eq_performAll`,
  that executors do nothing else;
* `Account` — the calls that were made, dropped, or wait;
* `deferred_as_direct` — **the calls made give what direct calls in their order
  give**, and leave the same behind.
-/

namespace SqlAccess

variable {D : Driver} {α β : Type}

/-- Whichever operation is handed over, its task is the whole operation with the
same arguments. -/
theorem Operation.defer_eq (t : Deferred D α) (form : β → α) (op : Operation D β) :
    op.defer t form = t.schedule form op.run := by
  cases op <;> rfl

/-! ## What an executor does -/

/-- What happens to the tasks of an executor: an operation is handed over, or the
task at a place of its line is carried out or dropped. -/
inductive Deed (D : Driver) (α : Type) : Type 1 where
  | submit {β : Type} (op : Operation D β) (form : β → α)
  | run (place : Nat)
  | drop (place : Nat)

namespace Deed

/-- The tasks after a deed. -/
def perform : Deed D α → Deferred D α → Deferred D α
  | submit op form, t => (op.defer t form).2
  | run place, t => t.runAt place
  | drop place, t => t.dropAt place

/-- The tasks after several deeds. -/
def performAll (deeds : List (Deed D α)) (t : Deferred D α) : Deferred D α :=
  deeds.foldl (fun t d => d.perform t) t

theorem performAll_append (deeds deeds' : List (Deed D α)) (t : Deferred D α) :
    performAll (deeds ++ deeds') t = performAll deeds' (performAll deeds t) :=
  List.foldl_append

/-- The operation that a deed hands over, as a direct call. -/
def call? : Deed D α → Option (Session D (Except Error α))
  | submit op form => some (Except.map form <$> op.run)
  | _ => none

end Deed

/-- What an executor does when it is handed an operation, with so many tasks in its
line before. -/
def Executor.deeds (e : Executor) (op : Operation D β) (form : β → α) (before : Nat) :
    List (Deed D α) :=
  .submit op form :: match e with
    | keeping => []
    | immediate => [.run before]
    | dropping => [.drop before]

/-- **Executors do nothing else** than hand over, carry out and drop. -/
theorem Executor.submit_eq_performAll (e : Executor) (t : Deferred D α) (op : Operation D β)
    (form : β → α) :
    (e.submit t (op.defer · form)).2 = Deed.performAll (e.deeds op form t.queue.length) t := by
  have hline : (op.defer t form).2.queue.length - 1 = t.queue.length := by
    simp [op.defer_eq, Deferred.schedule, Tasks.submit]
  cases e with
  | keeping => rfl
  | immediate =>
      simp only [deeds, Deed.performAll, List.foldl, Deed.perform, ← hline]
      rfl
  | dropping =>
      simp only [deeds, Deed.performAll, List.foldl, Deed.perform, ← hline]
      rfl

/-- Makes calls one after the other. -/
def callAll (calls : List (Session D (Except Error α) × Nat)) :
    Session D (List (Except Error α)) :=
  calls.mapM (·.1)

theorem callAll_append_singleton (calls : List (Session D (Except Error α) × Nat))
    (c : Session D (Except Error α) × Nat) (desk : Desk D α) :
    let before := desk.perform (callAll calls)
    desk.perform (callAll (calls ++ [c])) =
      (before.1 ++ [(before.2.perform c.1).1], (before.2.perform c.1).2) := by
  simp [callAll, Prod.ext_iff]

/-- Direct calls of the operations that were handed over, each with its handle. -/
structure Account (D : Driver) (α : Type) where
  handedOver : List (Session D (Except Error α)) := []
  /-- What still waits, in line. -/
  waiting : List (Session D (Except Error α) × Nat) := []
  /-- What was carried out, in order. -/
  called : List (Session D (Except Error α) × Nat) := []
  dropped : List (Session D (Except Error α) × Nat) := []

namespace Account

/-- Takes the call at a place of the line out of it, and enters it somewhere
else. -/
def move (a : Account D α) (place : Nat)
    (enter : Session D (Except Error α) × Nat → Account D α → Account D α) : Account D α :=
  match a.waiting[place]? with
  | some c => enter c { a with waiting := a.waiting.eraseIdx place }
  | none => a

/-- The account after a deed. -/
def enter (a : Account D α) : Deed D α → Account D α
  | .submit op form =>
    let call := Except.map form <$> op.run
    { a with
      handedOver := a.handedOver ++ [call]
      waiting := a.waiting ++ [(call, a.handedOver.length)] }
  | .run place => a.move place fun c a => { a with called := a.called ++ [c] }
  | .drop place => a.move place fun c a => { a with dropped := a.dropped ++ [c] }

/-- The account of some deeds. -/
def ofDeeds (deeds : List (Deed D α)) : Account D α := deeds.foldl enter {}

theorem handedOver_enter (a : Account D α) (d : Deed D α) :
    (a.enter d).handedOver = a.handedOver ++ d.call?.toList := by
  cases d with
  | submit op form => rfl
  | run place =>
      simp only [enter, move, Deed.call?, Option.toList_none, List.append_nil]
      split <;> rfl
  | drop place =>
      simp only [enter, move, Deed.call?, Option.toList_none, List.append_nil]
      split <;> rfl

/-- What was handed over are the operations, in order. -/
theorem handedOver_ofDeeds (deeds : List (Deed D α)) :
    (ofDeeds deeds).handedOver = deeds.filterMap Deed.call? := by
  suffices h : ∀ a : Account D α,
      (deeds.foldl enter a).handedOver = a.handedOver ++ deeds.filterMap Deed.call? from h {}
  induction deeds with
  | nil => simp
  | cons d rest ih =>
      intro a
      rw [List.foldl_cons, ih, handedOver_enter, List.append_assoc]
      cases hd : d.call? <;> simp [hd]

end Account

/-! ## Tasks and account agree -/

/-- The task of a call that waits for its turn. -/
def Account.task (c : Session D (Except Error α) × Nat) : Task (Desk D α) α :=
  .work c.2 (Desk.perform c.1)

/-- The tasks are what the account says, if they began at the given desk. -/
structure Account.Tells (a : Account D α) (desk : Desk D α) (t : Deferred D α) : Prop where
  queue : t.queue = a.waiting.map Account.task
  receivers : t.receivers = []
  handles : t.outcomes.length = a.handedOver.length
  /-- Handles of calls show what direct calls give. -/
  results : a.called.map (t.outcome ·.2) = (desk.perform (callAll a.called)).1.map .ready
  world : t.world = (desk.perform (callAll a.called)).2
  pending : ∀ c ∈ a.waiting, t.outcome c.2 = .pending
  gone : ∀ c ∈ a.dropped, t.outcome c.2 = .gone
  /-- Each call waits, was carried out or was dropped, and only one of these. -/
  settled : (a.called ++ a.dropped ++ a.waiting).Perm a.handedOver.zipIdx

namespace Account.Tells

variable {a : Account D α} {desk : Desk D α} {t : Deferred D α}
  {c : Session D (Except Error α) × Nat} {place : Nat}

theorem new (desk : Desk D α) : ({} : Account D α).Tells desk { world := desk } where
  queue := rfl
  receivers := rfl
  handles := rfl
  results := rfl
  world := rfl
  pending c hc := by cases hc
  gone c hc := by cases hc
  settled := .refl _

/-- Handles are numbers of operations that were handed over. -/
theorem handle_lt (h : a.Tells desk t) (hc : c ∈ a.called ++ a.dropped ++ a.waiting) :
    c.2 < t.outcomes.length := by
  rw [h.handles]
  have hmem := h.settled.mem_iff.mp hc
  have := List.snd_lt_of_mem_zipIdx hmem
  omega

/-- No two calls have one handle. -/
theorem nodup_handles (h : a.Tells desk t) :
    ((a.called ++ a.dropped ++ a.waiting).map (·.2)).Nodup := by
  rw [(h.settled.map _).nodup_iff, List.zipIdx_map_snd]
  exact List.nodup_range'

/-- The call at a place of the line, put in front of what waits behind it. -/
theorem perm_waiting (hc : a.waiting[place]? = some c) :
    a.waiting.Perm (c :: a.waiting.eraseIdx place) := by
  obtain ⟨hplace, rfl⟩ := List.getElem?_eq_some_iff.mp hc
  exact (List.getElem_cons_eraseIdx_perm hplace).symm

/-- The handle of a call that is taken out of the line is that of no other
call. -/
theorem ne_handle (h : a.Tells desk t) (hc : a.waiting[place]? = some c)
    {c' : Session D (Except Error α) × Nat}
    (hc' : c' ∈ a.called ++ a.dropped ++ a.waiting.eraseIdx place) : c'.2 ≠ c.2 := by
  have hperm : (a.called ++ a.dropped ++ a.waiting).Perm
      (c :: (a.called ++ a.dropped ++ a.waiting.eraseIdx place)) :=
    ((perm_waiting hc).append_left _).trans List.perm_middle
  have hnodup := h.nodup_handles
  rw [(hperm.map _).nodup_iff, List.map_cons, List.nodup_cons] at hnodup
  intro heq
  exact hnodup.1 (heq ▸ List.mem_map_of_mem hc')

/-- The task at a place of the queue is the call at that place of the line. -/
theorem getElem?_queue (h : a.Tells desk t) (hc : a.waiting[place]? = some c) :
    t.queue[place]? = some (Account.task c) := by
  rw [h.queue, List.getElem?_map, hc]
  rfl

/-- The call at a place of the line was taken out of it and settled; its handle
shows `o` now, and the others show what they showed before. -/
structure Settled (a : Account D α) (place : Nat) (c : Session D (Except Error α) × Nat)
    (o : Outcome α) (world : Desk D α) (t t' : Deferred D α) : Prop where
  queue : t'.queue = (a.waiting.eraseIdx place).map Account.task
  receivers : t'.receivers = []
  handles : t'.outcomes.length = a.handedOver.length
  world : t'.world = world
  self : t'.outcome c.2 = o
  others : ∀ c' ∈ a.called ++ a.dropped ++ a.waiting.eraseIdx place,
    t'.outcome c'.2 = t.outcome c'.2

namespace Settled

variable {o : Outcome α} {world : Desk D α} {t' : Deferred D α}

/-- What was carried out before still gives what direct calls give. -/
theorem results (hs : Settled a place c o world t t') (h : a.Tells desk t) :
    a.called.map (t'.outcome ·.2) = (desk.perform (callAll a.called)).1.map .ready := by
  refine Eq.trans ?_ h.results
  refine List.map_congr_left fun c' hc' => hs.others c' ?_
  exact List.mem_append_left _ (List.mem_append_left _ hc')

/-- The rest of the line still waits. -/
theorem pending (hs : Settled a place c o world t t') (h : a.Tells desk t)
    {c' : Session D (Except Error α) × Nat} (hc' : c' ∈ a.waiting.eraseIdx place) :
    t'.outcome c'.2 = .pending := by
  refine (hs.others c' (List.mem_append_right _ hc')).trans (h.pending c' ?_)
  exact List.mem_of_mem_eraseIdx hc'

/-- What was dropped before is still gone. -/
theorem gone (hs : Settled a place c o world t t') (h : a.Tells desk t)
    {c' : Session D (Except Error α) × Nat} (hc' : c' ∈ a.dropped) :
    t'.outcome c'.2 = .gone := by
  refine (hs.others c' ?_).trans (h.gone c' hc')
  exact List.mem_append_left _ (List.mem_append_right _ hc')

end Settled

theorem settle (h : a.Tells desk t) (hc : a.waiting[place]? = some c) (world : Desk D α)
    (f : Outcome α → Outcome α) :
    Settled a place c (f .pending) world t
      (({ t with queue := t.queue.eraseIdx place, world } : Deferred D α).settle c.2 f) := by
  have hmem : c ∈ a.waiting := List.mem_of_getElem? hc
  have hlt : c.2 < t.outcomes.length := h.handle_lt (List.mem_append_right _ hmem)
  have hpending : t.outcome c.2 = .pending := h.pending c hmem
  constructor
  case queue => simp [Tasks.settle, h.receivers, h.queue, List.eraseIdx_map]
  case receivers => simp [Tasks.settle, h.receivers]
  case handles => simp [Tasks.settle, h.handles]
  case world => rfl
  case self => exact (Tasks.outcome_settle_self hlt f).trans (congrArg f hpending)
  case others =>
    intro c' hc'
    exact Tasks.outcome_settle_of_ne _ (h.ne_handle hc hc') f

/-- A task that is carried out does what a direct call does by then. -/
theorem runAt (h : a.Tells desk t) (hc : a.waiting[place]? = some c) :
    Settled a place c (.ready (t.world.perform c.1).1) (t.world.perform c.1).2 t
      (t.runAt place) := by
  rw [Tasks.runAt, h.getElem?_queue hc]
  exact h.settle hc (t.world.perform c.1).2 (·.complete (t.world.perform c.1).1)

/-- A task that is dropped does nothing. -/
theorem dropAt (h : a.Tells desk t) (hc : a.waiting[place]? = some c) :
    Settled a place c .gone t.world t (t.dropAt place) := by
  rw [Tasks.dropAt, h.getElem?_queue hc]
  exact h.settle hc t.world (·.drop)

/-- At a place that the line does not have nothing happens. -/
theorem getElem?_queue_of_none (h : a.Tells desk t) (hc : a.waiting[place]? = none) :
    t.queue[place]? = none := by
  rw [h.queue, List.getElem?_map, hc]
  rfl

/-- What is handed over goes to the end of the line. -/
theorem submit {β : Type} (h : a.Tells desk t) (op : Operation D β) (form : β → α) :
    (a.enter (.submit op form)).Tells desk (Deed.perform (.submit op form) t) := by
  rw [Deed.perform, op.defer_eq]
  have hlength : t.outcomes.length = a.handedOver.length := h.handles
  have hkept {c : Session D (Except Error α) × Nat}
      (hc : c ∈ a.called ++ a.dropped ++ a.waiting) :=
    Tasks.outcome_submit_of_lt (h.handle_lt hc) (Desk.perform (Except.map form <$> op.run))
  constructor
  case queue =>
    simp [Account.enter, Account.task, Deferred.schedule, Tasks.submit, h.queue, hlength]
  case receivers => exact h.receivers
  case handles =>
    simp [Account.enter, Deferred.schedule, Tasks.submit, hlength]
  case results =>
    refine Eq.trans ?_ h.results
    refine List.map_congr_left fun c hc => hkept ?_
    exact List.mem_append_left _ (List.mem_append_left _ hc)
  case world => exact h.world
  case pending =>
    intro c hc
    rcases List.mem_append.mp hc with hc | hc
    · exact (hkept (List.mem_append_right _ hc)).trans (h.pending c hc)
    · rw [List.mem_singleton.mp hc, ← hlength]
      exact Tasks.outcome_submit t _
  case gone =>
    intro c hc
    exact (hkept (List.mem_append_left _ (List.mem_append_right _ hc))).trans (h.gone c hc)
  case settled =>
    simp only [Account.enter, List.zipIdx_append, List.zipIdx_singleton, Nat.zero_add,
      ← List.append_assoc]
    exact h.settled.append_right _

/-- A call goes from the line to another place of the account, behind what is there. -/
theorem perm_move (h : a.Tells desk t) (hc : a.waiting[place]? = some c)
    {called dropped : List (Session D (Except Error α) × Nat)}
    (hto : (called ++ dropped).Perm (c :: (a.called ++ a.dropped))) :
    (called ++ dropped ++ a.waiting.eraseIdx place).Perm a.handedOver.zipIdx := by
  refine (hto.append_right _).trans (.trans ?_ h.settled)
  exact List.perm_middle.symm.trans ((perm_waiting hc).symm.append_left _)

/-- A call that is carried out gives what it gives directly, behind those before. -/
theorem run (h : a.Tells desk t) (place : Nat) :
    (a.enter (.run place)).Tells desk (Deed.perform (.run place) t) := by
  simp only [Account.enter, Account.move, Deed.perform]
  cases hc : a.waiting[place]? with
  | none =>
      rw [Tasks.runAt, h.getElem?_queue_of_none hc]
      exact h
  | some c =>
      have hs := h.runAt hc
      constructor
      case queue => exact hs.queue
      case receivers => exact hs.receivers
      case handles => exact hs.handles
      case results =>
        rw [callAll_append_singleton, ← h.world, List.map_append, List.map_append]
        exact congrArg₂ (· ++ ·) (hs.results h) (congrArg (fun o => [o]) hs.self)
      case world =>
        rw [callAll_append_singleton, ← h.world]
        exact hs.world
      case pending => exact fun c' hc' => hs.pending h hc'
      case gone => exact fun c' hc' => hs.gone h hc'
      case settled =>
        refine h.perm_move hc ?_
        rw [List.append_assoc]
        exact List.perm_middle

/-- A call that is dropped is not made, and its handle shows nothing. -/
theorem drop (h : a.Tells desk t) (place : Nat) :
    (a.enter (.drop place)).Tells desk (Deed.perform (.drop place) t) := by
  simp only [Account.enter, Account.move, Deed.perform]
  cases hc : a.waiting[place]? with
  | none =>
      rw [Tasks.dropAt, h.getElem?_queue_of_none hc]
      exact h
  | some c =>
      have hs := h.dropAt hc
      constructor
      case queue => exact hs.queue
      case receivers => exact hs.receivers
      case handles => exact hs.handles
      case results => exact hs.results h
      case world => exact hs.world.trans h.world
      case pending => exact fun c' hc' => hs.pending h hc'
      case gone =>
        intro c' hc'
        rcases List.mem_append.mp hc' with hc' | hc'
        · exact hs.gone h hc'
        · rw [List.mem_singleton.mp hc']
          exact hs.self
      case settled =>
        refine h.perm_move hc ?_
        rw [← List.append_assoc]
        exact List.perm_append_singleton _ _

/-- Every deed changes tasks and account alike. -/
theorem perform (h : a.Tells desk t) (d : Deed D α) : (a.enter d).Tells desk (d.perform t) := by
  cases d with
  | submit op form => exact h.submit op form
  | run place => exact h.run place
  | drop place => exact h.drop place

theorem performAll (h : a.Tells desk t) (deeds : List (Deed D α)) :
    (deeds.foldl Account.enter a).Tells desk (Deed.performAll deeds t) := by
  induction deeds generalizing a t with
  | nil => exact h
  | cons d rest ih => exact ih (h.perform d)

end Account.Tells

/-- **Deferred operations are direct ones.**  Operations were handed over, and their
tasks carried out or dropped at any time and in any order.  The handles of what was
carried out resolve to what direct calls give that are made one after the other in
this order, at the same desk, and the desk is as those leave it.  The handles of what
was dropped resolve to the error that says so, which leaves the desk alone.  Each
operation was carried out once, or dropped, or waits still; its handle is the number
of those handed over before.  And whichever executor is handed the next operation, all
it does are such deeds. -/
theorem deferred_as_direct (deeds : List (Deed D α)) (desk : Desk D α) :
    let t := Deed.performAll deeds { world := desk }
    let a := Account.ofDeeds deeds
    (a.called.map fun c => (t.await c.2).1, t.world) = desk.perform (callAll a.called) ∧
      (∀ c ∈ a.dropped,
        (t.await c.2).1 = .error .taskAborted ∧ (t.await c.2).2.world = t.world) ∧
      (a.called ++ a.dropped ++ a.waiting).Perm (deeds.filterMap Deed.call?).zipIdx ∧
      ∀ (β : Type) (op : Operation D β) (form : β → α),
        (op.defer t form).1 = (deeds.filterMap Deed.call?).length ∧
          ∀ e : Executor, (e.submit t (op.defer · form)).2 =
            Deed.performAll (deeds ++ e.deeds op form t.queue.length) { world := desk } := by
  intro t a
  have h : a.Tells desk t := (Account.Tells.new desk).performAll deeds
  have hoperations : a.handedOver = deeds.filterMap Deed.call? := Account.handedOver_ofDeeds deeds
  rw [← hoperations]
  refine ⟨Prod.ext ?_ h.world, fun c hc => ?_, h.settled, fun β op form => ⟨?_, fun e => ?_⟩⟩
  · exact Tasks.map_await_of_ready h.results
  · rw [Tasks.await_of_gone (h.gone c hc)]
    exact ⟨rfl, rfl⟩
  · rw [op.defer_eq]
    exact h.handles
  · rw [Deed.performAll_append]
    exact e.submit_eq_performAll t op form

/-- The second operation, whose text is blank, is refused before the first is done; the
third is dropped. -/
example :
    let deeds : List (Deed Scripted.source (Option Int64)) :=
      [.submit (.update "DELETE FROM t" false) id, .submit (.updateWith " " none true) id,
        .submit (.update "DROP TABLE t" false) id, .run 1, .drop 1, .run 0]
    let state : Scripted.State := { responses := [.update 3 none] }
    let t := Deed.performAll deeds { world := { world := { state } } }
    [0, 1, 2].map (fun h => (t.await h).1) =
      [.ok (some 3), .error Creator.emptySql, .error .taskAborted] := by
  cbv

end SqlAccess
