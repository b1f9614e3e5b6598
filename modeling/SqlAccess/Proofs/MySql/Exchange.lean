import SqlAccess.MySql.Source
import SqlAccess.Proofs.Database.Closing

/-!
# What work with a statement sends

Every call on a statement sends a message to the server at most for each execution,
over the statement's connection.  Nothing else reaches the server, the connection
stays open, and as long as the server replies it is not lost.

* `Server.Sends` — asking the server something, `sends_run` and `sends_prepare`;
* `State.Talk` — messages that reached the server over one connection;
* `answer_talks` — a plain statement sends queries;
* `Pool.Continues` — work with a prepared statement, `answerPrepared_continues`;
* `closePrepared_talk` — a statement that is not kept is closed on the server.
-/

namespace SqlAccess

namespace MySql

/-! ## The server -/

/-- The entry is a reply, and the connection is not lost over it. -/
def Response.IsReply : Response → Prop
  | .hangUp | .silence | .prepareSilence => False
  | _ => True

namespace Server

/-- The server replies to whatever it is asked. -/
def Replies (s : Server) : Prop := ∀ r ∈ s.responses, r.IsReply

/-- The server accepts the next preparation. -/
def Accepts (s : Server) : Prop :=
  match s.responses with
  | .prepareError _ :: _ | .prepareSilence :: _ => False
  | _ => True

/-- A message to the server is sent, and it is answered by a reply if the server
replies. -/
structure Sends {α : Type} (m : Message) (ask : Server → Except Failure α × Server) : Prop where
  received : ∀ s, (ask s).2.received = s.received ++ [m]
  replies : ∀ s, s.Replies → (ask s).2.Replies
  reported : ∀ s, s.Replies → ∀ f, (ask s).1 = .error f → ∃ e, f = .reported e

theorem effectOf_isReply {r : Response} (h : r.IsReply) {f : Failure}
    (hf : effectOf r = .error f) : ∃ e, f = .reported e := by
  cases r with
  | error e =>
      cases hf
      exact ⟨e, rfl⟩
  | hangUp | silence | prepareSilence => exact h.elim
  | rows | ok | prepareError => cases hf

theorem sends_run (m : Message) : Sends m (·.run m) where
  received s := by
    obtain ⟨greeting, _ | ⟨first, rest⟩, received⟩ := s <;> rfl
  replies s hs := by
    obtain ⟨greeting, _ | ⟨first, rest⟩, received⟩ := s
    · exact hs
    · exact fun r hr => hs r (List.mem_cons_of_mem first hr)
  reported s hs f hf := by
    obtain ⟨greeting, _ | ⟨first, rest⟩, received⟩ := s
    · cases hf
    · exact effectOf_isReply (hs first List.mem_cons_self) hf

/-- The answers to a preparation. -/
theorem prepare_cases (s : Server) (sql : String) :
    s.Accepts ∧ s.prepare sql = (.ok (columnsAhead s.responses), s.receive (.prepare sql)) ∨
      ¬ s.Accepts ∧ ∃ r rest f, s.responses = r :: rest ∧ (r.IsReply → ∃ e, f = .reported e) ∧
        s.prepare sql = (.error f, { s.receive (.prepare sql) with responses := rest }) := by
  obtain ⟨greeting, _ | ⟨r, rest⟩, received⟩ := s
  · exact Or.inl ⟨trivial, rfl⟩
  · cases r with
    | prepareError e => exact Or.inr ⟨id, _, rest, _, rfl, fun _ => ⟨e, rfl⟩, rfl⟩
    | prepareSilence => exact Or.inr ⟨id, _, rest, _, rfl, False.elim, rfl⟩
    | _ => exact Or.inl ⟨trivial, rfl⟩

theorem sends_prepare (sql : String) : Sends (.prepare sql) (·.prepare sql) where
  received s := by
    rcases s.prepare_cases sql with ⟨_, h⟩ | ⟨_, r, rest, f, _, _, h⟩ <;> rw [h] <;> rfl
  replies s hs := by
    rcases s.prepare_cases sql with ⟨_, h⟩ | ⟨_, r, rest, f, hr, _, h⟩
    · rw [h]
      exact hs
    · rw [h]
      exact fun r' hr' => hs r' (hr ▸ List.mem_cons_of_mem r hr')
  reported s hs f hf := by
    rcases s.prepare_cases sql with ⟨_, h⟩ | ⟨_, r, rest, f', hr, hreported, h⟩
    · rw [h] at hf
      cases hf
    · rw [h] at hf
      cases hf
      exact hreported (hs r (hr ▸ List.mem_cons_self))

end Server

/-! ## One connection -/

namespace State

variable {n : Nat} {s t u : State}

theorem link_setLink_self (h : n < s.links.length) (l : Link) : (s.setLink n l).link n = l := by
  simp [link, setLink, h]

theorem link_setLink_of_ne {k : Nat} (h : k ≠ n) (l : Link) :
    (s.setLink n l).link k = s.link k := by
  simp [link, setLink, List.getD_eq_getElem?_getD, Ne.symm h]

theorem lt_of_isOpen (h : (s.link n).isOpen = true) : n < s.links.length := by
  refine Nat.lt_of_not_le fun hn => ?_
  rw [link, List.getD_eq_getElem?_getD, List.getElem?_eq_none hn] at h
  cases h

/-- Over connection `n` the messages reached the server, in order; it stays open, and
the other connections are as they were. -/
structure Talk (n : Nat) (ms : List Message) (s t : State) : Prop where
  received : t.server.received = s.server.received ++ ms
  count : t.links.length = s.links.length
  others : ∀ k, k ≠ n → t.link k = s.link k
  isOpen : (t.link n).isOpen = (s.link n).isOpen

/-- The server replies, and it has not left the connection. -/
structure InTouch (n : Nat) (s : State) : Prop where
  replies : s.server.Replies
  isLost : (s.link n).isLost = false

theorem InTouch.setLink (h : s.InTouch n) (hn : n < s.links.length) {l : Link}
    (hl : l.isLost = (s.link n).isLost) : (s.setLink n l).InTouch n :=
  ⟨h.replies, by rw [link_setLink_self hn, hl, h.isLost]⟩

namespace Talk

variable {ms ms' : List Message}

theorem refl (n : Nat) (s : State) : Talk n [] s s :=
  ⟨(List.append_nil _).symm, rfl, fun _ _ => rfl, rfl⟩

theorem trans (h : Talk n ms s t) (h' : Talk n ms' t u) : Talk n (ms ++ ms') s u where
  received := by rw [h'.received, h.received, List.append_assoc]
  count := h'.count.trans h.count
  others k hk := (h'.others k hk).trans (h.others k hk)
  isOpen := h'.isOpen.trans h.isOpen

/-- A change to what the client keeps of an open connection. -/
theorem setLink (hopen : (s.link n).isOpen = true) {l : Link} (hl : l.isOpen = true) :
    Talk n [] s (s.setLink n l) where
  received := (List.append_nil _).symm
  count := by simp [State.setLink]
  others k hk := link_setLink_of_ne hk l
  isOpen := by rw [link_setLink_self (lt_of_isOpen hopen), hl, hopen]

/-- What the server hears is all that changes. -/
theorem server (n : Nat) {server : Server} (h : server.received = s.server.received ++ ms) :
    Talk n ms s { s with server } :=
  ⟨h, rfl, fun _ _ => rfl, rfl⟩

end Talk

/-- Messages of one sort reached the server over connection `n`. -/
def TalksOf (n : Nat) (P : Message → Prop) (s t : State) : Prop :=
  ∃ ms, Talk n ms s t ∧ ∀ m ∈ ms, P m

namespace TalksOf

variable {P Q : Message → Prop}

theorem refl (n : Nat) (P : Message → Prop) (s : State) : TalksOf n P s s :=
  ⟨[], .refl n s, by simp⟩

theorem of_talk {ms : List Message} (h : Talk n ms s t) (hP : ∀ m ∈ ms, P m) : TalksOf n P s t :=
  ⟨ms, h, hP⟩

theorem trans (h : TalksOf n P s t) (h' : TalksOf n P t u) : TalksOf n P s u := by
  obtain ⟨ms, htalk, hP⟩ := h
  obtain ⟨ms', htalk', hP'⟩ := h'
  refine ⟨ms ++ ms', htalk.trans htalk', fun m hm => ?_⟩
  exact (List.mem_append.mp hm).elim (hP m) (hP' m)

theorem mono (h : TalksOf n P s t) (hPQ : ∀ m, P m → Q m) : TalksOf n Q s t := by
  obtain ⟨ms, htalk, hP⟩ := h
  exact ⟨ms, htalk, fun m hm => hPQ m (hP m hm)⟩

end TalksOf

theorem isOpen_of_ready (h : s.ready n = .ok ()) : (s.link n).isOpen = true := by
  unfold ready at h
  cases hopen : (s.link n).isOpen with
  | true => rfl
  | false =>
      rw [hopen] at h
      cases h

theorem ready_of_inTouch (h : s.InTouch n) (hopen : (s.link n).isOpen = true) :
    s.ready n = .ok () := by
  simp [ready, hopen, h.isLost]

/-- A command that fails is not sent once more. -/
theorem talk_fail (hopen : (s.link n).isOpen = true) (limit : Nat) (f : Failure) :
    Talk n [] s (s.fail limit n f).2 := by
  cases f with
  | reported e => exact .refl n s
  | hungUp => exact .setLink hopen hopen
  | noAnswer => exact ⟨(List.append_nil _).symm, rfl, fun _ _ => rfl, rfl⟩

variable {α : Type} {m : Message} {ask : Server → Except Failure α × Server} {limit : Nat}

/-- Over a connection that is there, an exchange sends its message. -/
theorem talk_exchange (hask : Server.Sends m ask) (hready : s.ready n = .ok ()) :
    Talk n [m] s (s.exchange limit n ask).2 := by
  have hopen : (s.link n).isOpen = true := isOpen_of_ready hready
  have hserver : Talk n [m] s { s with server := (ask s.server).2 } :=
    .server n (hask.received s.server)
  simp only [exchange, hready]
  cases hr : (ask s.server).1 with
  | ok a => exact hserver
  | error f =>
      refine hserver.trans ?_
      exact talk_fail (by exact hopen) limit f

theorem talksOf_exchange {P : Message → Prop} (hask : Server.Sends m ask) (hm : P m) :
    TalksOf n P s (s.exchange limit n ask).2 := by
  cases hready : s.ready n with
  | error e =>
      simp only [exchange, hready]
      exact .refl n P s
  | ok u => exact .of_talk (talk_exchange hask hready) (by simpa using hm)

theorem inTouch_exchange (hask : Server.Sends m ask) (h : s.InTouch n) :
    (s.exchange limit n ask).2.InTouch n := by
  unfold exchange
  cases hready : s.ready n with
  | error e => exact h
  | ok u =>
      have hserver : State.InTouch n { s with server := (ask s.server).2 } :=
        ⟨hask.replies s.server h.replies, h.isLost⟩
      cases hr : (ask s.server).1 with
      | ok a => simpa only [hr] using hserver
      | error f =>
          obtain ⟨e, rfl⟩ := hask.reported s.server h.replies f hr
          simp only [hr]
          exact hserver

end State

/-! ## Work with statements -/

namespace Pool

variable {p : Pool} {α : Type}

/-- A plain statement sends queries. -/
theorem answer_talks (c : StatementCall) (st : Statement) (s : State) :
    (p.answer c st s).2.1.link = st.link ∧
      State.TalksOf st.link (∃ sql, · = .query sql) s (p.answer c st s).2.2 := by
  have hsend (sql : String) : State.TalksOf st.link (∃ sql, · = .query sql) s
      (s.send p.settings.socketTimeout st.link (.query sql)).2 :=
    State.talksOf_exchange (Server.sends_run (.query sql)) ⟨sql, rfl⟩
  cases c with
  | query sql => exact ⟨rfl, hsend sql⟩
  | update sql returnsKeys =>
      have h := hsend sql
      simp only [answer]
      rcases hr : s.send p.settings.socketTimeout st.link (.query sql) with ⟨e | effect, s'⟩
      · rw [hr] at h
        exact ⟨rfl, h⟩
      · rw [hr] at h
        exact ⟨rfl, h⟩
  | generatedKeys => exact ⟨rfl, .refl _ _ s⟩
  | close => exact ⟨rfl, .refl _ _ s⟩

/-- What a statement that the server knows by a text may send while it is worked
with: executions and, if it may be closed then, closes. -/
def MaySend (known : String) (closes : Prop) (m : Message) : Prop :=
  (∃ params, m = .execute known params) ∨ closes ∧ m = .closeStatement known

/-- Work with a prepared statement between two states, in which the statement may be
closed or not. -/
structure Continues (p : Pool) (mayClose : Prop) (a b : Prepared × State) : Prop where
  link : b.1.link = a.1.link
  sql : b.1.sql = a.1.sql
  onServer : b.1.onServer = a.1.onServer
  talks : State.TalksOf a.1.link
    (MaySend a.1.onServer.sql (mayClose ∧ p.settings.keepsStatement a.1.sql = false)) a.2 b.2
  inTouch : a.2.InTouch a.1.link → b.2.InTouch a.1.link

namespace Continues

variable {mayClose : Prop} {a b c : Prepared × State}

theorem refl (p : Pool) (mayClose : Prop) (a : Prepared × State) : Continues p mayClose a a :=
  ⟨rfl, rfl, rfl, .refl _ _ _, id⟩

theorem trans (h : Continues p mayClose a b) (h' : Continues p mayClose b c) :
    Continues p mayClose a c where
  link := h'.link.trans h.link
  sql := h'.sql.trans h.sql
  onServer := h'.onServer.trans h.onServer
  talks := by
    have htalks := h'.talks
    rw [h.link, h.sql, h.onServer] at htalks
    exact h.talks.trans htalks
  inTouch ha := by
    have htouch := h'.inTouch
    rw [h.link] at htouch
    exact htouch (h.inTouch ha)

/-- Who may close less does no more. -/
theorem mono {mayClose' : Prop} (h : Continues p mayClose a b) (hmay : mayClose → mayClose') :
    Continues p mayClose' a b where
  link := h.link
  sql := h.sql
  onServer := h.onServer
  talks := h.talks.mono fun _ hm => hm.imp id fun hclose => ⟨hclose.1.imp hmay id, hclose.2⟩
  inTouch := h.inTouch

end Continues

/-- An execution is sent once, for the statement. -/
theorem send_continues (mayClose : Prop) (st : Prepared) (s : State) (params : List Datum) :
    Continues p mayClose (st, s)
      (st, (s.send p.settings.socketTimeout st.link (.execute st.onServer.sql params)).2) where
  link := rfl
  sql := rfl
  onServer := rfl
  talks := State.talksOf_exchange (Server.sends_run _) (Or.inl ⟨params, rfl⟩)
  inTouch := State.inTouch_exchange (Server.sends_run _)

/-- What only concerns the inputs or the keys of a statement is not sent. -/
theorem Continues.keep {mayClose : Prop} {a : Prepared × State} {st st' : Prepared} {s : State}
    (h : Continues p mayClose a (st, s)) (hlink : st'.link = st.link) (hsql : st'.sql = st.sql)
    (honServer : st'.onServer = st.onServer) : Continues p mayClose a (st', s) :=
  ⟨hlink.trans h.link, hsql.trans h.sql, honServer.trans h.onServer, h.talks, h.inTouch⟩

theorem executeOnce_continues (mayClose : Prop) (st : Prepared) (s : State) :
    Continues p mayClose (st, s) (p.executeOnce st s).2 := by
  unfold executeOnce
  rcases st.inputs.take Datum.ofParameter with ⟨e | params, inputs⟩
  · exact (Continues.refl p mayClose (st, s)).keep rfl rfl rfl
  · exact (send_continues mayClose st s params).keep rfl rfl rfl

theorem executeAll_continues (mayClose : Prop) (st : Prepared) (entries : List (List Datum))
    (s : State) :
    Continues p mayClose (st, s) (st, (p.executeAll st.link st.onServer.sql entries s).2) := by
  induction entries generalizing s with
  | nil => exact .refl p mayClose _
  | cons entry rest ih =>
      have hfirst := send_continues (p := p) mayClose st s entry
      simp only [executeAll]
      rcases hr : s.send p.settings.socketTimeout st.link (.execute st.onServer.sql entry) with
        ⟨e | effect, s'⟩
      · rw [hr] at hfirst
        exact hfirst
      · rw [hr] at hfirst
        exact hfirst.trans (ih s')

theorem executeBatch_continues (mayClose : Prop) (st : Prepared) (s : State) :
    Continues p mayClose (st, s) (p.executeBatch st s).2 := by
  simp only [executeBatch]
  split
  · exact (executeAll_continues mayClose st st.inputs.takeBatch.1 s).keep rfl rfl rfl
  · exact (Continues.refl p mayClose (st, s)).keep rfl rfl rfl

/-- Closing a statement that is kept, or whose connection was given back, does
nothing. -/
theorem closePrepared_of_kept {st : Prepared} {s : State}
    (h : p.settings.keepsStatement st.sql = true ∨ (s.link st.link).isOpen = false) :
    p.closePrepared st s = (.ok (), s) := by
  rcases h with h | h <;> simp [closePrepared, h]

/-- What closing does to an open connection whose statement is not kept. -/
theorem closePrepared_of_open {st : Prepared} {s : State}
    (hkeeps : p.settings.keepsStatement st.sql = false) (hopen : (s.link st.link).isOpen = true) :
    let l := s.link st.link
    let s' := s.setLink st.link { l with cache := l.cache.remove st.onServer.id }
    p.closePrepared st s =
      if l.isLost then (.error lostError, s') else (.ok (), s'.closeOnServer (some st.onServer)) := by
  simp [closePrepared, hkeeps, hopen]

/-- Closing sends a close at most, and none for a statement that is kept. -/
theorem closePrepared_continues {mayClose : Prop} (hmay : mayClose) (st : Prepared) (s : State) :
    Continues p mayClose (st, s) (st, (p.closePrepared st s).2) := by
  by_cases h : p.settings.keepsStatement st.sql = true ∨ (s.link st.link).isOpen = false
  · rw [closePrepared_of_kept h]
    exact .refl p mayClose _
  · simp only [not_or, Bool.not_eq_true, Bool.not_eq_false] at h
    obtain ⟨hkeeps, hopen⟩ := h
    have hlt : st.link < s.links.length := State.lt_of_isOpen hopen
    rw [closePrepared_of_open hkeeps hopen]
    refine ⟨rfl, rfl, rfl, ?_, fun ht => ?_⟩
    · have hcache := State.Talk.setLink hopen (l := { s.link st.link with
        cache := (s.link st.link).cache.remove st.onServer.id }) hopen
      split
      · exact .of_talk hcache (by simp)
      · exact .of_talk (hcache.trans (.server st.link rfl))
          fun m hm => List.mem_singleton.mp hm ▸ Or.inr ⟨⟨hmay, hkeeps⟩, rfl⟩
    · rw [if_neg (by rw [ht.isLost]; exact Bool.false_ne_true)]
      have hcache := ht.setLink hlt (l := { s.link st.link with
        cache := (s.link st.link).cache.remove st.onServer.id }) rfl
      exact ⟨hcache.replies, hcache.isLost⟩

/-- No call on a prepared statement sends more than its executions and, if it is the
call to close it, a close. -/
theorem answerPrepared_continues (c : PreparedCall) (a : Prepared × State) :
    Continues p (c = .close) a (p.answerPrepared c a.1 a.2).2 := by
  obtain ⟨st, s⟩ := a
  cases c with
  | binding c => exact (Continues.refl p _ (st, s)).keep rfl rfl rfl
  | query => exact executeOnce_continues _ st s
  | update =>
      have h := executeOnce_continues (p := p) (PreparedCall.update = .close) st s
      simp only [answerPrepared]
      rcases hr : p.executeOnce st s with ⟨e | effect, st', s'⟩
      · rw [hr] at h
        exact h
      · rw [hr] at h
        exact h.keep rfl rfl rfl
  | batch => exact executeBatch_continues _ st s
  | generatedKeys => exact .refl p _ _
  | close => exact closePrepared_continues rfl st s

/-- No program does more with a prepared statement than it may. -/
theorem runOnPrepared_continues (st : Prepared) (q : PreparedProgram α) (w : World (source p)) :
    let done := Session.runOnPrepared (D := source p) st q w
    Continues p (¬ q.OnlyCalls (· ≠ .close)) (st, w.state) (done.1.2, done.2.state) := by
  by_cases hq : q.OnlyCalls (· ≠ .close)
  · refine hq.run_rel (R := Continues p (¬ q.OnlyCalls (· ≠ .close))) (.refl p _)
      (fun h h' => h.trans h') (fun c a hc => ?_) (st, w.state)
    exact (answerPrepared_continues c a).mono fun hclose => (hc hclose).elim
  · refine q.run_rel (R := Continues p (¬ q.OnlyCalls (· ≠ .close))) (.refl p _)
      (fun h h' => h.trans h') (fun c a => ?_) (st, w.state)
    exact (answerPrepared_continues c a).mono fun _ => hq

/-- A program with a plain statement sends queries. -/
theorem runOn_talks (st : Statement) (q : StatementProgram α) (w : World (source p)) :
    State.TalksOf st.link (∃ sql, · = .query sql) w.state
      (Session.runOn (D := source p) st q w).2.state :=
  (q.run_rel (R := fun a b : Statement × State =>
      b.1.link = a.1.link ∧ State.TalksOf a.1.link (∃ sql, · = .query sql) a.2 b.2)
    (fun a => ⟨rfl, .refl _ _ a.2⟩)
    (fun h h' => ⟨h'.1.trans h.1, h.2.trans (h.1 ▸ h'.2)⟩)
    (fun c a => answer_talks c a.1 a.2) (st, w.state)).2

/-- While the server is in touch, closing a statement tells it so, unless the statement
is kept. -/
theorem closePrepared_talk {st : Prepared} {s : State} (hopen : (s.link st.link).isOpen = true)
    (h : s.InTouch st.link) :
    State.Talk st.link
      (if p.settings.keepsStatement st.sql then [] else [.closeStatement st.onServer.sql])
      s (p.closePrepared st s).2 := by
  cases hkeeps : p.settings.keepsStatement st.sql with
  | true =>
      rw [closePrepared_of_kept (Or.inl hkeeps)]
      exact .refl st.link s
  | false =>
      have hlost : ¬ (s.link st.link).isLost = true := by rw [h.isLost]; exact Bool.false_ne_true
      have hcache := State.Talk.setLink hopen (l := { s.link st.link with
        cache := (s.link st.link).cache.remove st.onServer.id }) hopen
      rw [closePrepared_of_open hkeeps hopen]
      simp only [if_neg hlost]
      exact hcache.trans (.server st.link rfl)

end Pool

end MySql

end SqlAccess
