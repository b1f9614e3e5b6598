import SqlAccess.Proofs.Statement.Program
import SqlAccess.Statement.Script

/-!
# What a run is told

A program meets failures only through the replies to its calls.  A driver may
refuse any call, and rows that it returns may be unreadable.  The library's own
programs then end at once: a refusal is the result, with the parameter's number
if a parameter was refused.  Programs that callers bring along may do
otherwise.

* `Program.Hears` — a reply that comes up in a run;
* `Program.PassesOn` — programs that end with a refusal they hear;
* `Program.ReadsRows` — programs that end with what reading their rows raises;
* `Setter.passesOn_typed`, `Setter.passesOn_untyped` — the library's setters
  pass refusals on.
-/

namespace SqlAccess

/-- How the calls of one kind of statement are read: the reply that a response
is, and the number of the parameter that a call binds. -/
structure Protocol (Call : Type) (Response : Call → Type) where
  reply : (c : Call) → Response c → Except SqlError Reply
  parameter : Call → Option Nat := fun _ => none

/-- The calls on a plain statement. -/
def StatementCall.protocol : Protocol StatementCall StatementCall.Response where
  reply := StatementCall.reply

/-- The calls about parameters. -/
def BindingCall.protocol : Protocol BindingCall BindingCall.Response where
  reply := BindingCall.reply
  parameter
    | .bind index _ => some index
    | _ => none

/-- The calls on a prepared statement. -/
def PreparedCall.protocol : Protocol PreparedCall PreparedCall.Response where
  reply := PreparedCall.reply
  parameter
    | .binding c => BindingCall.protocol.parameter c
    | _ => none

/-- A refusal as it is told: as it is, or with the number of the parameter that
was refused. -/
def SqlError.ToldAs (e : SqlError) (parameter : Option Nat) (told : SqlError) : Prop :=
  told = e ∨ ∃ index ∈ parameter, told = e.atParameter index

namespace Program

variable {Call : Type} {Response : Call → Type} {α β σ : Type}
  {protocol : Protocol Call Response}

/-- Run against `s`, the program makes a call that is given this reply;
`parameter` is the number of the parameter that the call binds. -/
inductive Hears (protocol : Protocol Call Response) (answer : (c : Call) → σ → Response c × σ)
    (parameter : Option Nat) (reply : Except SqlError Reply) :
    Program Call Response α → σ → Prop where
  | now {c : Call} {next : Response c → Program Call Response α} {s : σ}
      (hreply : protocol.reply c (answer c s).1 = reply)
      (hparameter : protocol.parameter c = parameter) :
      Hears protocol answer parameter reply (.call c next) s
  | later {c : Call} {next : Response c → Program Call Response α} {s : σ}
      (h : Hears protocol answer parameter reply (next (answer c s).1) (answer c s).2) :
      Hears protocol answer parameter reply (.call c next) s

/-- The program ends with a refusal that it hears, whoever answers. -/
def PassesOn (protocol : Protocol Call Response)
    (p : Program Call Response (Except Error α)) : Prop :=
  ∀ (σ : Type) (answer : (c : Call) → σ → Response c × σ) (s : σ) (n : Option Nat)
    (e : SqlError), Hears protocol answer n (.error e) p s →
      ∃ told, e.ToldAs n told ∧ (p.run answer s).1 = .error (.driver told)

/-- The program ends with what reading the rows raises that it is given,
whoever answers. -/
def ReadsRows (protocol : Protocol Call Response) (raises : ResultSet → Error → Prop)
    (p : Program Call Response (Except Error α)) : Prop :=
  ∀ (σ : Type) (answer : (c : Call) → σ → Response c × σ) (s : σ) (r : ResultSet) (e : Error),
    Hears protocol answer none (.ok (.rows r)) p s → raises r e →
      (p.run answer s).1 = .error e

/-- No call of the program is ever given rows. -/
def Rowless (protocol : Protocol Call Response) (p : Program Call Response α) : Prop :=
  ∀ (σ : Type) (answer : (c : Call) → σ → Response c × σ) (s : σ) (r : ResultSet),
    ¬ Hears protocol answer none (.ok (.rows r)) p s

/-! ## One after the other -/

/-- A reply that is heard on going on is heard before that or after it. -/
theorem hears_bind {answer : (c : Call) → σ → Response c × σ} {n : Option Nat}
    {reply : Except SqlError Reply} (p : Program Call Response α)
    (f : α → Program Call Response β) (s : σ) (h : Hears protocol answer n reply (p.bind f) s) :
    Hears protocol answer n reply p s ∨
      Hears protocol answer n reply (f (p.run answer s).1) (p.run answer s).2 := by
  induction p generalizing s with
  | done a => exact Or.inr h
  | call c next ih =>
      cases h with
      | now hreply hparameter => exact Or.inl (.now hreply hparameter)
      | later h =>
          rcases ih _ _ h with h | h
          · exact Or.inl (.later h)
          · exact Or.inr h

/-- On going on unless there is a failure, a reply is heard before that, or
after a success. -/
theorem hears_andThen {answer : (c : Call) → σ → Response c × σ} {n : Option Nat}
    {reply : Except SqlError Reply} {p : Program Call Response (Except Error α)}
    {f : α → Program Call Response (Except Error β)} {s : σ}
    (h : Hears protocol answer n reply (p.andThen f) s) :
    Hears protocol answer n reply p s ∨
      ∃ a, (p.run answer s).1 = .ok a ∧ Hears protocol answer n reply (f a) (p.run answer s).2 := by
  rcases hears_bind p _ s h with h | h
  · exact Or.inl h
  · cases hr : (p.run answer s).1 with
    | ok a =>
        rw [hr] at h
        exact Or.inr ⟨a, rfl, h⟩
    | error e =>
        rw [hr] at h
        cases h

theorem passesOn_done (r : Except Error α) : PassesOn protocol (.done r) := by
  intro σ answer s n e h
  cases h

/-- Programs that pass refusals on do so one after the other. -/
theorem PassesOn.andThen {p : Program Call Response (Except Error α)}
    {f : α → Program Call Response (Except Error β)} (hp : PassesOn protocol p)
    (hf : ∀ a, PassesOn protocol (f a)) : PassesOn protocol (p.andThen f) := by
  intro σ answer s n e h
  rcases hears_andThen h with h | ⟨a, ha, h⟩
  · obtain ⟨told, htold, hrun⟩ := hp σ answer s n e h
    exact ⟨told, htold, run_andThen_of_error hrun⟩
  · rw [run_andThen_of_ok ha]
    exact hf a σ answer _ n e h

theorem readsRows_done {raises : ResultSet → Error → Prop} (r : Except Error α) :
    ReadsRows protocol raises (.done r) := by
  intro σ answer s rows e h
  cases h

/-- If reading rows raises nothing, there is nothing to end with. -/
theorem readsRows_false (p : Program Call Response (Except Error α)) :
    ReadsRows protocol (fun _ _ => False) p :=
  fun _ _ _ _ _ _ hraises => hraises.elim

/-- Rows that come up only later are read later. -/
theorem Rowless.andThen {raises : ResultSet → Error → Prop}
    {p : Program Call Response (Except Error α)}
    {f : α → Program Call Response (Except Error β)} (hp : Rowless protocol p)
    (hf : ∀ a, ReadsRows protocol raises (f a)) : ReadsRows protocol raises (p.andThen f) := by
  intro σ answer s r e h hraises
  rcases hears_andThen h with h | ⟨a, ha, h⟩
  · exact absurd h (hp σ answer s r)
  · rw [run_andThen_of_ok ha]
    exact hf a σ answer _ r e h hraises

/-- If fewer errors count as raised, the program still ends with them. -/
theorem ReadsRows.mono {raises raises' : ResultSet → Error → Prop}
    {p : Program Call Response (Except Error α)} (h : ReadsRows protocol raises p)
    (himp : ∀ r e, raises' r e → raises r e) : ReadsRows protocol raises' p :=
  fun σ answer s r e hears hraises => h σ answer s r e hears (himp r e hraises)

/-! ## One call -/

/-- A program that ends with a refusal of its first call, and passes refusals
on in any case after that. -/
theorem passesOn_call {c : Call} {next : Response c → Program Call Response (Except Error α)}
    (hnow : ∀ r e, protocol.reply c r = .error e →
      ∃ told, e.ToldAs (protocol.parameter c) told ∧ next r = .done (.error (.driver told)))
    (hlater : ∀ r, PassesOn protocol (next r)) : PassesOn protocol (.call c next) := by
  intro σ answer s n e h
  cases h with
  | now hreply hparameter =>
      obtain ⟨told, htold, hnext⟩ := hnow _ e hreply
      rw [hparameter] at htold
      refine ⟨told, htold, ?_⟩
      simp only [run, hnext]
  | later h => exact hlater _ σ answer _ n e h

/-- A call whose refusal is the result. -/
theorem passesOn_perform {c : Call} {toResult : Response c → Except SqlError α}
    (hreply : ∀ r e, protocol.reply c r = .error e → toResult r = .error e) :
    PassesOn protocol (.call c fun r => .done ((toResult r).mapError Error.driver)) := by
  refine passesOn_call (fun r e h => ?_) (fun r => passesOn_done _)
  refine ⟨e, Or.inl rfl, ?_⟩
  rw [hreply r e h]
  rfl

theorem rowless_perform {c : Call} {toResult : Response c → Except SqlError α}
    (hreply : ∀ r rows, protocol.reply c r ≠ .ok (.rows rows)) :
    Rowless protocol (.call c fun r => .done ((toResult r).mapError Error.driver)) := by
  intro σ answer s rows h
  cases h with
  | now hnow _ => exact hreply _ rows hnow
  | later h => cases h

/-- A call that is given rows which are read at once. -/
theorem readsRows_perform {c : Call} {toResult : Response c → Except SqlError ResultSet}
    {read : ResultSet → Except Error α} (hreply : ∀ r rows,
      protocol.reply c r = .ok (.rows rows) → toResult r = .ok rows) :
    ReadsRows protocol (fun rows e => read rows = .error e)
      (Program.andThen (.call c fun r => .done ((toResult r).mapError Error.driver))
        fun rows => .done (read rows)) := by
  intro σ answer s rows e h hread
  cases h with
  | now hnow _ =>
      have hresult := hreply _ rows hnow
      simp only [Program.andThen, bind, run, hresult]
      exact hread
  | later h =>
      rcases hears_bind (.done _) _ _ h with h | h
      · cases h
      · simp only [run] at h
        revert h
        cases toResult (answer c s).1 with
        | ok rows => intro h; cases h
        | error e => intro h; cases h

end Program

/-- The reply to a call refuses it just where the response does. -/
theorem eq_error_of_map {α : Type} {r : Except SqlError α} {f : α → Reply} {e : SqlError}
    (h : r.map f = .error e) : r = .error e := by
  cases r with
  | ok a => cases h
  | error e' =>
      cases h
      rfl

/-- The reply to a call for rows holds the rows of the response. -/
theorem eq_ok_of_map_rows {r : Except SqlError ResultSet} {rows : ResultSet}
    (h : r.map Reply.rows = .ok (.rows rows)) : r = .ok rows := by
  cases r with
  | ok a =>
      cases h
      rfl
  | error e' => cases h

/-- A reply of another sort holds no rows. -/
theorem map_ne_ok_rows {α : Type} {r : Except SqlError α} {f : α → Reply}
    (hf : ∀ a rows, f a ≠ .rows rows) (rows : ResultSet) : r.map f ≠ .ok (.rows rows) := by
  cases r with
  | ok a =>
      intro h
      exact hf a rows (Except.ok.inj h)
  | error e =>
      intro h
      cases h

/-! ## Setters -/

namespace Setter

/-- The library's setters end with the number of the parameter that was
refused. -/
theorem passesOn_bindFrom (index : Nat) (ps : List Parameter) :
    Program.PassesOn BindingCall.protocol (bindFrom index ps) := by
  induction ps generalizing index with
  | nil => exact Program.passesOn_done _
  | cons p rest ih =>
      refine Program.passesOn_call (fun r e h => ?_) (fun r => ?_)
      · refine ⟨e.atParameter index, Or.inr ⟨index, rfl, rfl⟩, ?_⟩
        rw [eq_error_of_map h]
      · cases r with
        | ok u => exact ih (index + 1)
        | error e => exact Program.passesOn_done _

/-- Values are bound under their types up to the first refusal. -/
theorem passesOn_typed (values : List Value) (types : List SqlType) :
    Program.PassesOn BindingCall.protocol (typed values types) := by
  unfold typed
  split
  · exact Program.passesOn_done _
  · exact passesOn_bindFrom 1 _

theorem passesOn_untyped (values : List Value) :
    Program.PassesOn BindingCall.protocol (untyped values) :=
  passesOn_bindFrom 1 _

end Setter

/-- Every entry of a typed batch is bound up to the first refusal. -/
theorem BatchSetter.passesOn_typed (rows : List (List Value)) (types : List SqlType) (i : Nat) :
    Program.PassesOn BindingCall.protocol ((BatchSetter.typed rows types).entry i) := by
  simp only [BatchSetter.typed]
  split
  · exact Setter.passesOn_typed _ types
  · exact Program.passesOn_done _

/-! ## Work with the whole statement -/

namespace Program

variable {α σ : Type}

/-- What answers the calls about parameters alone. -/
def bindingsOnly (answer : (c : PreparedCall) → σ → c.Response × σ) (c : BindingCall) (s : σ) :
    c.Response × σ :=
  answer (.binding c) s

/-- Work with the parameters alone runs the same as part of the whole. -/
theorem run_onPrepared (answer : (c : PreparedCall) → σ → c.Response × σ) (p : BindingProgram α)
    (s : σ) : p.onPrepared.run answer s = p.run (bindingsOnly answer) s := by
  induction p generalizing s with
  | done a => rfl
  | call c next ih => exact ih _ _

/-- It hears the same replies. -/
theorem hears_onPrepared {answer : (c : PreparedCall) → σ → c.Response × σ} {n : Option Nat}
    {reply : Except SqlError Reply} (p : BindingProgram α) (s : σ)
    (h : Hears PreparedCall.protocol answer n reply p.onPrepared s) :
    Hears BindingCall.protocol (bindingsOnly answer) n reply p s := by
  induction p generalizing s with
  | done a => cases h
  | call c next ih =>
      cases h with
      | now hreply hparameter => exact .now hreply hparameter
      | later h => exact .later (ih _ _ h)

theorem PassesOn.onPrepared {p : BindingProgram (Except Error α)}
    (h : PassesOn BindingCall.protocol p) : PassesOn PreparedCall.protocol p.onPrepared := by
  intro σ answer s n e hears
  rw [run_onPrepared]
  exact h σ _ s n e (hears_onPrepared p s hears)

/-- Calls about parameters are given no rows. -/
theorem rowless_onPrepared (p : BindingProgram α) :
    Rowless PreparedCall.protocol p.onPrepared := by
  intro σ answer s rows h
  -- The induction is on the calls about parameters, whose replies hold no rows.
  have hears := hears_onPrepared p s h
  clear h
  induction p generalizing s with
  | done a => cases hears
  | call c next ih =>
      cases hears with
      | now hreply _ =>
          cases c with
          | bind index p => exact map_ne_ok_rows (fun _ _ => Reply.noConfusion) rows hreply
          | clear => cases hreply
          | addBatch => exact map_ne_ok_rows (fun _ _ => Reply.noConfusion) rows hreply
          | supportsBatch => cases hreply
          | sql => cases hreply
      | later h => exact ih _ _ h

end Program

end SqlAccess
