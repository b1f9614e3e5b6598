import SqlAccess.Proofs.Database.Lifecycle
import SqlAccess.Proofs.MySql.Exchange

/-!
# What an operation tells the server

An operation takes a connection of its own, tells the server what it has to, and gives
the connection back.  A statement that the server prepared for it is closed before,
unless it is kept for the next use of its SQL text; the library itself never closes it
twice, but a caller's own program may close it as well.

* `State.Visit` — messages sent over a connection that is opened and given back;
* `firstPreparation` — what the first preparation on a connection comes to;
* `Preparation` and `PreparesOneText` — what a preparer may do;
* `Dialogue` and `Converses` — what an operation may tell the server;
* `operation_closes_its_statement` — every operation keeps to that.
-/

namespace SqlAccess.MySql

variable {p : Pool} {α β : Type}

/-! ## Visits -/

namespace State

/-- One more connection, which has logged in. -/
def connect (p : Pool) (s : State) : State :=
  { s with
    links := s.links ++ [{ since := s.clock }]
    server := s.server.receive (.login p.user p.hasPassword p.schema) }

/-- A connection given back. -/
def giveBack (n : Nat) (s : State) : State := s.setLink n { s.link n with isOpen := false }

/-- One more connection is open, the messages reached the server, and the other
connections are as they were. -/
structure Held (ms : List Message) (s u : State) : Prop where
  received : u.server.received = s.server.received ++ ms
  count : u.links.length = s.links.length + 1
  others : ∀ k < s.links.length, u.link k = s.link k
  isOpen : (u.link s.links.length).isOpen = true

/-- A connection was opened, the messages reached the server, in order, and then the
connection was given back. -/
def Visit (ms : List Message) (s t : State) : Prop :=
  ∃ u, Held ms s u ∧ t = u.giveBack s.links.length

variable {s t u : State}

theorem link_connect_self (p : Pool) (s : State) :
    (s.connect p).link s.links.length = { since := s.clock } := by
  simp [link, connect]

theorem link_connect_of_lt (p : Pool) {k : Nat} (h : k < s.links.length) :
    (s.connect p).link k = s.link k := by
  simp [link, connect, List.getD_eq_getElem?_getD, List.getElem?_append_left h]

/-- A new connection is in touch with a server that replies. -/
theorem inTouch_connect (h : s.server.Replies) : (s.connect p).InTouch s.links.length :=
  ⟨h, by rw [link_connect_self]⟩

/-- What is said over a new connection is said after the login. -/
theorem visit_of_talk {ms : List Message} (h : Talk s.links.length ms (s.connect p) u) :
    Visit (.login p.user p.hasPassword p.schema :: ms) s (u.giveBack s.links.length) := by
  refine ⟨u, ⟨?_, ?_, fun k hk => ?_, ?_⟩, rfl⟩
  · rw [h.received]
    simp [connect, Server.receive]
  · rw [h.count]
    simp [connect]
  · rw [h.others k (Nat.ne_of_lt hk), link_connect_of_lt p hk]
  · rw [h.isOpen, link_connect_self]

end State

/-- A pool has no connection to give, and the server hears nothing; or it gives a new
one. -/
theorem Pool.acquire_cases (p : Pool) (s : State) :
    (∃ e t, p.acquire s = (.error e, t) ∧ t.server = s.server ∧ t.links = s.links) ∨
      p.acquire s = (.ok (some s.links.length), s.connect p) := by
  unfold acquire
  split
  · exact Or.inl ⟨_, s, rfl, rfl, rfl⟩
  · split
    · exact Or.inl ⟨_, _, rfl, rfl, rfl⟩
    · split
      · exact Or.inl ⟨_, _, rfl, rfl, rfl⟩
      · exact Or.inl ⟨_, s, rfl, rfl, rfl⟩
      · exact Or.inl ⟨_, s, rfl, rfl, rfl⟩
      · exact Or.inr rfl

/-- Work with a connection of its own is not begun, or the connection is given back
after it. -/
theorem withConnection_cases (work : Nat → Session (source p) (Except Error α))
    (w : World (source p)) :
    let t := (Database.withConnection (D := source p) work w).2.state
    (t.server = w.state.server ∧ t.links = w.state.links) ∨
      t = (work w.state.links.length { w with state := w.state.connect p }).2.state.giveBack
        w.state.links.length := by
  rcases p.acquire_cases w.state with ⟨e, t, h, hserver, hlinks⟩ | h
  · rw [Database.withConnection_of_error h]
    exact Or.inl ⟨hserver, hlinks⟩
  · rw [Database.withConnection_of_some h]
    exact Or.inr (Database.release_state _ _)

/-- Work with a plain statement sends queries. -/
theorem withStatement_talks (n : Nat) (action : StatementAction α) (w : World (source p)) :
    State.TalksOf n (∃ sql, · = .query sql) w.state
      (Database.withStatement (D := source p) n action w).2.state := by
  rw [Database.withStatement_of_ok (D := source p) rfl]
  simp only [Database.closeStatement_state]
  exact Pool.runOn_talks { link := n } action.program w

/-! ## Preparations -/

/-- A statement takes nobody's place in an empty cache. -/
theorem insert_of_empty (capacity : Nat) (statement : ServerStatement) :
    (StatementCache.insert capacity {} statement).1 = none := by
  unfold StatementCache.insert
  split
  · rfl
  · next hcapacity =>
      have hfits : ¬ capacity < [statement].length := by
        rw [List.length_singleton]
        omega
      simp only [if_neg hfits]

/-- Asking a server in touch to prepare a statement gives what it answers. -/
theorem exchange_prepare {n : Nat} {s : State} (limit : Nat) (sql : String)
    (hready : s.ready n = .ok ()) :
    (s.server.Accepts ∧ ∃ columns, s.exchange limit n (·.prepare sql) =
        (.ok columns, { s with server := s.server.receive (.prepare sql) })) ∨
      ¬ s.server.Accepts ∧ ∃ e t, s.exchange limit n (·.prepare sql) = (.error e, t) := by
  rcases s.server.prepare_cases sql with ⟨haccepts, h⟩ | ⟨hdeclines, r, rest, f, -, -, h⟩
  · refine Or.inl ⟨haccepts, Server.columnsAhead s.server.responses, ?_⟩
    simp only [State.exchange, hready, h]
  · refine Or.inr ⟨hdeclines, ?_⟩
    simp only [State.exchange, hready, h]
    exact ⟨_, _, rfl⟩

/-- On a connection that keeps no statements yet, the server is asked for one, and
accepts it or not. -/
theorem statementOf_of_empty {n : Nat} {s : State} (sql : String) (hready : s.ready n = .ok ())
    (hcache : (s.link n).cache = {}) :
    (s.server.Accepts ∧ ∃ statement t, p.statementOf n sql s = (.ok statement, t) ∧
        statement.sql = sql ∧ State.Talk n [.prepare sql] s t ∧ (s.InTouch n → t.InTouch n)) ∨
      ¬ s.server.Accepts ∧ ∃ e t, p.statementOf n sql s = (.error e, t) ∧
        State.Talk n [.prepare sql] s t := by
  have hopen : (s.link n).isOpen = true := State.isOpen_of_ready hready
  have hfind : (s.link n).cache.find? sql = none := by rw [hcache]; rfl
  have htalk : State.Talk n [.prepare sql] s
      (s.exchange p.settings.socketTimeout n (·.prepare sql)).2 :=
    State.talk_exchange (Server.sends_prepare sql) hready
  simp only [Pool.statementOf, hfind]
  rcases exchange_prepare p.settings.socketTimeout sql hready with
    ⟨haccepts, columns, h⟩ | ⟨hdeclines, e, t, h⟩
  · rw [h] at htalk
    refine Or.inl ⟨haccepts, ?_⟩
    rw [h]
    have hlink : State.link { s with server := s.server.receive (.prepare sql) } n = s.link n := rfl
    simp only [hlink, hcache, insert_of_empty, State.closeOnServer]
    refine ⟨_, _, rfl, rfl, htalk.trans (.setLink (by exact hopen) (by exact hopen)), fun ht => ?_⟩
    have hserver : State.InTouch n { s with server := s.server.receive (.prepare sql) } :=
      ⟨ht.replies, ht.isLost⟩
    exact hserver.setLink (State.lt_of_isOpen hopen) rfl
  · rw [h] at htalk
    refine Or.inr ⟨hdeclines, e, t, ?_, htalk⟩
    rw [h]

/-- What the first preparation on a new connection comes to: the text mixes its
placeholders, and the server hears nothing; or the server is asked, and accepts the
statement or not. -/
inductive FirstPreparation (p : Pool) (s : State) (sql : String) :
    Except SqlError Prepared × State → Prop where
  | mixed (e : SqlError) : FirstPreparation p s sql (.error e, s.connect p)
  | declined {known : String} (hknown : Placeholders.positional? sql = some known)
      (hserver : ¬ s.server.Accepts) (e : SqlError) {t : State}
      (h : State.Talk s.links.length [.prepare known] (s.connect p) t) :
      FirstPreparation p s sql (.error e, t)
  | accepted {known : String} (hknown : Placeholders.positional? sql = some known)
      (hserver : s.server.Accepts) {st : Prepared} (hlink : st.link = s.links.length)
      (hsql : st.sql = sql) (honServer : st.onServer.sql = known) {t : State}
      (h : State.Talk s.links.length [.prepare known] (s.connect p) t)
      (htouch : t.InTouch s.links.length) : FirstPreparation p s sql (.ok st, t)

theorem firstPreparation (p : Pool) {s : State} (hreplies : s.server.Replies) (sql : String)
    (returnsKeys : Bool) :
    FirstPreparation p s sql (p.prepare s.links.length sql returnsKeys (s.connect p)) := by
  have hopen : ((s.connect p).link s.links.length).isOpen = true := by rw [State.link_connect_self]
  have htouch : (s.connect p).InTouch s.links.length := State.inTouch_connect hreplies
  simp only [Pool.prepare, hopen]
  cases hknown : Placeholders.positional? sql with
  | none => exact .mixed mixedError
  | some known =>
      have hready := State.ready_of_inTouch htouch hopen
      rcases statementOf_of_empty (p := p) known hready (by rw [State.link_connect_self]) with
        ⟨haccepts, statement, t, h, honServer, htalk, hkeeps⟩ | ⟨hdeclines, e, t, h, htalk⟩
      · simp only [h]
        exact .accepted hknown (by exact haccepts) rfl rfl honServer htalk (hkeeps htouch)
      · simp only [h]
        exact .declined hknown (by exact hdeclines) e htalk

/-- What a preparer did on a connection: it refused; or it had the server prepare one
SQL text, which may have failed; or it gave the statement, with which it may have
worked, but not closed it. -/
inductive Preparation (p : Pool) (n : Nat) (s : State) :
    Option String → Except SqlError Prepared → State → Prop where
  | refused (e : SqlError) : Preparation p n s none (.error e) s
  | failed {sql : String} {returnsKeys : Bool} {e : SqlError} {t : State}
      (h : p.prepare n sql returnsKeys s = (.error e, t)) :
      Preparation p n s (some sql) (.error e) t
  | given {sql : String} {returnsKeys : Bool} {st st' : Prepared} {t t' : State}
      (h : p.prepare n sql returnsKeys s = (.ok st, t))
      (hwork : Pool.Continues p False (st, t) (st', t')) :
      Preparation p n s (some sql) (.ok st') t'

/-- The preparer has one SQL text prepared at most, and does not close the statement that
it gives. -/
def PreparesOneText (preparer : Preparer (source p)) : Prop :=
  ∀ n w, ∃ text, Preparation p n w.state text (preparer.prepare n w).1
    (preparer.prepare n w).2.state

/-- What a creator says is one text at most. -/
theorem preparesOneText_creator (creator : Creator) :
    PreparesOneText (p := p) creator.preparer := by
  intro n w
  obtain ⟨text, e | ⟨sql, returnsKeys⟩⟩ := creator
  · exact ⟨none, .refused e⟩
  · refine ⟨some sql, ?_⟩
    simp only [Creator.preparer, Session.onState]
    rcases h : p.prepare n sql returnsKeys w.state with ⟨e | st, t⟩
    · exact .failed h
    · exact .given h (.refl p False (st, t))

/-! ## Whole operations -/

/-- The preparer asks for a SQL text on a connection that is opened in the world. -/
def Asks (preparer : Preparer (source p)) (w : World (source p)) (sql : String) : Prop :=
  let done := preparer.prepare w.state.links.length { w with state := w.state.connect p }
  Preparation p w.state.links.length (w.state.connect p) (some sql) done.1 done.2.state

/-- What an operation says over its connection after the login, by its preparer, if it
has one.  A statement that the server prepared is closed at the end, unless statements
are kept and its SQL text is short enough.  Before, it is closed by the caller's own
program only. -/
inductive Dialogue (preparer? : Option (Preparer (source p))) (mayClose : Prop)
    (w : World (source p)) : List Message → Prop where
  /-- A plain statement sends queries. -/
  | plain (hplain : preparer? = none) {ms : List Message} (h : ∀ m ∈ ms, ∃ sql, m = .query sql) :
      Dialogue preparer? mayClose w ms
  /-- There is nothing to prepare, or nothing that can be. -/
  | unprepared {preparer : Preparer (source p)} (hpreparer : preparer? = some preparer) :
      Dialogue preparer? mayClose w []
  /-- The server does not prepare the statement. -/
  | declined {preparer : Preparer (source p)} (hpreparer : preparer? = some preparer)
      {sql known : String} (hasks : Asks preparer w sql)
      (hknown : Placeholders.positional? sql = some known) (hserver : ¬ w.state.server.Accepts) :
      Dialogue preparer? mayClose w [.prepare known]
  /-- The server prepares it. -/
  | accepted {preparer : Preparer (source p)} (hpreparer : preparer? = some preparer)
      {sql known : String} (hasks : Asks preparer w sql)
      (hknown : Placeholders.positional? sql = some known) (hserver : w.state.server.Accepts)
      {work : List Message}
      (hwork : ∀ m ∈ work,
        Pool.MaySend known (mayClose ∧ p.settings.keepsStatement sql = false) m) :
      Dialogue preparer? mayClose w
        (.prepare known :: work ++
          if p.settings.cachesStatements = false ∨
              p.settings.statementCacheSqlLimit < sql.utf8ByteSize then
            [.closeStatement known]
          else [])

/-- Closing a prepared statement is one call, also where it fails; a failure only asks
for the SQL text. -/
theorem closePrepared_state (st : Prepared) (w : World (source p)) :
    (Database.closePrepared (D := source p) st w).2.state = (p.closePrepared st w.state).2 := by
  simp only [Database.closePrepared, Session.bind_apply]
  cases (Session.runOnPrepared (D := source p) st PreparedCall.close.perform w).1.1 with
  | ok u => rfl
  | error e => rfl

/-- A statement is closed unless statements are kept and its SQL text is short
enough. -/
theorem closing_eq (settings : PoolSettings) (sql : String) (ms : List Message) :
    (if settings.cachesStatements = false ∨ settings.statementCacheSqlLimit < sql.utf8ByteSize then
        ms
      else []) = if settings.keepsStatement sql then [] else ms := by
  by_cases hkeeps : settings.keepsStatement sql = true
  · have hshort : ¬ (settings.cachesStatements = false ∨
        settings.statementCacheSqlLimit < sql.utf8ByteSize) := by
      simpa [PoolSettings.keepsStatement] using hkeeps
    rw [if_neg hshort, if_pos hkeeps]
  · have hlong : settings.cachesStatements = false ∨
        settings.statementCacheSqlLimit < sql.utf8ByteSize := by
      simpa [PoolSettings.keepsStatement, Decidable.imp_iff_not_or] using hkeeps
    rw [if_pos hlong, if_neg hkeeps]

/-- The work with a statement and its end: whatever the work sent, closing the statement
comes last, unless the statement is kept. -/
theorem Pool.Continues.closed {mayClose : Prop} {st st' : Prepared} {s s' : State}
    (h : Continues p mayClose (st, s) (st', s')) (htouch : s.InTouch st.link)
    (hopen : (s.link st.link).isOpen = true) :
    ∃ work, (∀ m ∈ work, MaySend st.onServer.sql
        (mayClose ∧ p.settings.keepsStatement st.sql = false) m) ∧
      State.Talk st.link
        (work ++
          if p.settings.keepsStatement st.sql then [] else [.closeStatement st.onServer.sql])
        s (p.closePrepared st' s').2 := by
  obtain ⟨work, htalk, hwork⟩ := h.talks
  have hlink : st'.link = st.link := h.link
  have hclose : State.Talk st'.link
      (if p.settings.keepsStatement st'.sql then [] else [.closeStatement st'.onServer.sql])
      s' (p.closePrepared st' s').2 :=
    closePrepared_talk (by rw [hlink, htalk.isOpen, hopen]) (by rw [hlink]; exact h.inTouch htouch)
  rw [hlink, h.sql, h.onServer] at hclose
  exact ⟨work, hwork, htalk.trans hclose⟩

theorem withPrepared_dialogue {preparer : Preparer (source p)} (hp : PreparesOneText preparer)
    (action : PreparedAction α) {w : World (source p)} (hreplies : w.state.server.Replies) :
    ∃ ms, Dialogue (some preparer) (¬ action.program.OnlyCalls (· ≠ .close)) w ms ∧
      State.Talk w.state.links.length ms (w.state.connect p)
        (Database.withPrepared w.state.links.length preparer action
          { w with state := w.state.connect p }).2.state := by
  obtain ⟨text, hprep⟩ := hp w.state.links.length { w with state := w.state.connect p }
  have hasks (sql : String) (htext : text = some sql) : Asks preparer w sql := by
    subst htext
    exact hprep
  rcases h : preparer.prepare w.state.links.length { w with state := w.state.connect p } with
    ⟨e | st, t, warnings⟩
  · rw [Database.withPrepared_of_error h]
    rw [h] at hprep
    cases hprep with
    | refused => exact ⟨[], .unprepared rfl, .refl _ _⟩
    | @failed sql returnsKeys e t hprepare =>
        have hfirst := firstPreparation p hreplies sql returnsKeys
        rw [hprepare] at hfirst
        cases hfirst with
        | mixed => exact ⟨[], .unprepared rfl, .refl _ _⟩
        | declined hknown hserver e htalk =>
            exact ⟨_, .declined rfl (hasks sql rfl) hknown hserver, htalk⟩
  · rw [Database.withPrepared_of_ok h]
    simp only [closePrepared_state]
    rw [h] at hprep
    cases hprep with
    | @given sql returnsKeys st₀ st t₀ t hprepare hbefore =>
        have hfirst := firstPreparation p hreplies sql returnsKeys
        rw [hprepare] at hfirst
        cases hfirst with
        | @accepted known hknown hserver st₀ hlink hsql honServer t₀ htalk htouch =>
            have hrun := Pool.runOnPrepared_continues st action.program ⟨t, warnings⟩
            have hopen : (t₀.link st₀.link).isOpen = true := by
              rw [hlink, htalk.isOpen, State.link_connect_self]
            obtain ⟨work, hwork, hclosed⟩ := ((hbefore.mono False.elim).trans hrun).closed
              (hlink ▸ htouch) hopen
            rw [hlink, hsql, honServer] at hclosed
            rw [hsql, honServer] at hwork
            refine ⟨_, .accepted rfl (hasks sql rfl) hknown hserver hwork, ?_⟩
            rw [closing_eq]
            exact htalk.trans hclosed

/-- There was no connection and the server heard nothing, or one was opened, the dialogue
was said after the login, and the connection was given back. -/
def Converses (preparer? : Option (Preparer (source p))) (mayClose : Prop)
    (w : World (source p)) (t : State) : Prop :=
  (t.server = w.state.server ∧ t.links = w.state.links) ∨
    ∃ ms, Dialogue preparer? mayClose w ms ∧
      State.Visit (.login p.user p.hasPassword p.schema :: ms) w.state t

/-- Every course keeps to its dialogue. -/
theorem course_converses {course : Course (source p) β} (hp : course.Uses PreparesOneText)
    {w : World (source p)} (hreplies : w.state.server.Replies) :
    Converses course.preparer? (¬ course.LeavesClosing) w (course.run w).2.state := by
  cases course with
  | atOnce r => exact Or.inl ⟨rfl, rfl⟩
  | plain action finish =>
      refine (withConnection_cases _ w).imp id fun h => ?_
      obtain ⟨ms, htalk, hms⟩ := withStatement_talks w.state.links.length action
        { w with state := w.state.connect p }
      exact ⟨ms, .plain rfl hms, h ▸ State.visit_of_talk htalk⟩
  | prepared preparer action finish =>
      refine (withConnection_cases _ w).imp id fun h => ?_
      obtain ⟨ms, hms, htalk⟩ := withPrepared_dialogue hp action hreplies
      exact ⟨ms, hms, h ▸ State.visit_of_talk htalk⟩

theorem Dialogue.mono {preparer? : Option (Preparer (source p))} {mayClose mayClose' : Prop}
    {w : World (source p)} {ms : List Message} (h : Dialogue preparer? mayClose w ms)
    (hmay : mayClose → mayClose') : Dialogue preparer? mayClose' w ms := by
  cases h with
  | plain hplain h => exact .plain hplain h
  | unprepared hpreparer => exact .unprepared hpreparer
  | declined hpreparer hasks hknown hserver => exact .declined hpreparer hasks hknown hserver
  | accepted hpreparer hasks hknown hserver hwork =>
      refine .accepted hpreparer hasks hknown hserver fun m hm => ?_
      exact (hwork m hm).imp id fun hclose => ⟨hclose.1.imp hmay id, hclose.2⟩

/-- **An operation closes the statement that the server prepared for it, once, before it
gives its connection back**, however it ends, unless the statement is kept. -/
theorem operation_closes_its_statement (op : Operation (source p) β)
    (hown : ∀ preparer ∈ op.preparers, PreparesOneText preparer) (w : World (source p))
    (hreplies : w.state.server.Replies) :
    Converses op.course.preparer? (¬ op.LeavesClosing) w (op.run w).2.state := by
  have hcourse := course_converses (op.course_uses preparesOneText_creator hown) hreplies
  rw [op.run_eq_course]
  refine hcourse.imp id fun ⟨ms, hms, hvisit⟩ => ⟨ms, hms.mono fun hcloses hop => ?_, hvisit⟩
  exact hcloses (op.course_leavesClosing hop)

/-- An update whose parameter is never bound, so that nothing is executed.  Its SQL text
is too long for the statement to be kept. -/
theorem unbound_update_closes_its_statement :
    let pool : Pool :=
      ⟨"p", "u", false, none, { PoolSettings.standard 4 with statementCacheSqlLimit := 10 }⟩
    let preparer : Preparer (source pool) :=
      Creator.preparer ⟨none, .ok ("DELETE FROM t WHERE id = :id", false)⟩
    let op : Operation (source pool) (Option Int64) := .updatePrepared preparer none false
    let w : World (source pool) := ⟨{ server := { responses := [.ok 1 0] } }, []⟩
    (∀ preparer ∈ op.preparers, PreparesOneText preparer) ∧ w.state.server.Replies ∧
      Converses (some preparer) (¬ op.LeavesClosing) w (op.run w).2.state ∧
      (op.run w).2.state.server.received =
        [.login "u" false none, .prepare "DELETE FROM t WHERE id = ?",
          .closeStatement "DELETE FROM t WHERE id = ?"] := by
  intro pool preparer op w
  have hown : ∀ preparer ∈ op.preparers, PreparesOneText preparer := by
    intro preparer hpreparer
    rw [List.mem_singleton.mp hpreparer]
    exact preparesOneText_creator _
  have hreplies : w.state.server.Replies := by
    intro r hr
    rw [List.mem_singleton.mp hr]
    trivial
  exact ⟨hown, hreplies, operation_closes_its_statement op hown w hreplies, by decide +kernel⟩

/-- Statements are not kept here, and the server accepts what is prepared; but a program
that closes its statement itself has it closed twice. -/
theorem closed_twice_by_caller :
    let pool : Pool :=
      ⟨"p", "u", false, none, { PoolSettings.standard 4 with cachesStatements := false }⟩
    let op : Operation (source pool) (Option Unit) :=
      .executeSql "DELETE FROM t" ⟨PreparedCall.close.perform.orFail, none⟩
    let w : World (source pool) := ⟨{ server := {} }, []⟩
    w.state.server.Replies ∧ w.state.server.Accepts ∧
      (op.run w).2.state.server.received =
        [.login "u" false none, .prepare "DELETE FROM t", .closeStatement "DELETE FROM t",
          .closeStatement "DELETE FROM t"] ∧
      (op.run w).2.state.server.closedStatements.length ≠ 1 := by
  intro pool op w
  have hreplies : w.state.server.Replies := fun r hr => by cases hr
  exact ⟨hreplies, trivial, by decide +kernel, by decide +kernel⟩

end SqlAccess.MySql
