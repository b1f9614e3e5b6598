import SqlAccess.Error
import SqlAccess.Statement.Program

/-!
# Programs one after the other

Programs go on with one another as lists do: it does not matter how they are
bracketed, and a failure ends whatever would come after it.  What a program may
call, whatever it is answered, is said without running it.

* `Program.calls` — the calls that a run makes;
* `Program.andThen_assoc`, `run_andThen_of_ok`, `run_andThen_of_error` — going on;
* `Program.OnlyCalls` — programs that make calls of one sort.
-/

namespace SqlAccess.Program

variable {Call : Type} {Response : Call → Type} {α β γ ε : Type} {P : Call → Prop}

/-- The calls that a run makes, in their order. -/
def calls {σ : Type} (answer : (c : Call) → σ → Response c × σ) :
    Program Call Response α → σ → List Call
  | .done _, _ => []
  | .call c next, s => c :: (next (answer c s).1).calls answer (answer c s).2

/-- What comes after a program is asked for after it. -/
theorem calls_bind {σ : Type} (answer : (c : Call) → σ → Response c × σ)
    (p : Program Call Response α) (f : α → Program Call Response β) (s : σ) :
    (p.bind f).calls answer s =
      p.calls answer s ++ (f (p.run answer s).1).calls answer (p.run answer s).2 := by
  induction p generalizing s with
  | done a => rfl
  | call c next ih => exact congrArg (c :: ·) (ih _ _)

theorem bind_assoc (p : Program Call Response α) (f : α → Program Call Response β)
    (g : β → Program Call Response γ) : (p.bind f).bind g = p.bind fun a => (f a).bind g := by
  induction p with
  | done a => rfl
  | call c next ih => exact congrArg (call c) (funext ih)

/-- A failure ends all that would come after it. -/
theorem andThen_assoc (p : Program Call Response (Except Error α))
    (f : α → Program Call Response (Except Error β))
    (g : β → Program Call Response (Except Error γ)) :
    (p.andThen f).andThen g = p.andThen fun a => (f a).andThen g := by
  rw [andThen, andThen, bind_assoc]
  apply congrArg p.bind
  funext r
  cases r with
  | ok a => rfl
  | error e => rfl

theorem run_andThen_of_error {answer : (c : Call) → σ → Response c × σ}
    {p : Program Call Response (Except Error α)}
    {f : α → Program Call Response (Except Error β)} {s : σ} {e : Error}
    (h : (p.run answer s).1 = .error e) : ((p.andThen f).run answer s).1 = .error e := by
  rw [Program.andThen, run_bind, h]
  rfl

theorem run_andThen_of_ok {answer : (c : Call) → σ → Response c × σ}
    {p : Program Call Response (Except Error α)}
    {f : α → Program Call Response (Except Error β)} {s : σ} {a : α}
    (h : (p.run answer s).1 = .ok a) :
    (p.andThen f).run answer s = (f a).run answer (p.run answer s).2 := by
  rw [Program.andThen, run_bind, h]

/-- What comes after a failure does not change the state either. -/
theorem run_andThen_eq_error {σ : Type} {answer : (c : Call) → σ → Response c × σ}
    {p : Program Call Response (Except Error α)} {s s' : σ} {e : Error}
    (h : p.run answer s = (.error e, s')) (f : α → Program Call Response (Except Error β)) :
    (p.andThen f).run answer s = (.error e, s') := by
  rw [andThen, run_bind, h]
  rfl

/-! ## Programs that make calls of one sort -/

/-- Whatever the responses are, the program makes calls of one sort only. -/
def OnlyCalls (P : Call → Prop) : Program Call Response α → Prop
  | done _ => True
  | call c next => P c ∧ ∀ r, (next r).OnlyCalls P

theorem OnlyCalls.bind {p : Program Call Response α} {f : α → Program Call Response β}
    (hp : p.OnlyCalls P) (hf : ∀ a, (f a).OnlyCalls P) : (p.bind f).OnlyCalls P := by
  induction p with
  | done a => exact hf a
  | call c next ih => exact ⟨hp.1, fun r => ih r (hp.2 r)⟩

theorem OnlyCalls.andThen {p : Program Call Response (Except ε α)}
    {f : α → Program Call Response (Except ε β)} (hp : p.OnlyCalls P)
    (hf : ∀ a, (f a).OnlyCalls P) : (p.andThen f).OnlyCalls P := by
  refine hp.bind fun r => ?_
  cases r with
  | ok a => exact hf a
  | error e => trivial

/-- A relation that can be chained and that calls of one sort keep holds between the
states before and after the run of a program that makes no others. -/
theorem OnlyCalls.run_rel {σ : Type} {R : σ → σ → Prop}
    {answer : (c : Call) → σ → Response c × σ} (hrefl : ∀ s, R s s)
    (htrans : ∀ {a b c}, R a b → R b c → R a c) (hcall : ∀ c s, P c → R s (answer c s).2)
    {p : Program Call Response α} (hp : p.OnlyCalls P) (s : σ) : R s (p.run answer s).2 := by
  induction p generalizing s with
  | done a => exact hrefl s
  | call c next ih => exact htrans (hcall c s hp.1) (ih _ (hp.2 _) _)

end SqlAccess.Program
