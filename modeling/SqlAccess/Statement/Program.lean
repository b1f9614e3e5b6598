/-!
# Programs over calls

Code that works with a statement is given as a program: it is done with a
result, or it makes a call and goes on according to the response.  A driver
runs a program by answering its calls one after the other.

* `Program` — the programs;
* `Program.run` — running one against a state;
* `Program.run_bind` — a program that goes on with another runs one after the
  other;
* `Program.run_rel` — what every call does to the state, a whole run does.
-/

namespace SqlAccess

/-- A program that makes calls of type `Call`, each with a response of its
own type, and ends with an `α`. -/
inductive Program (Call : Type) (Response : Call → Type) (α : Type) where
  | done (a : α)
  | call (c : Call) (next : Response c → Program Call Response α)

namespace Program

variable {Call : Type} {Response : Call → Type} {α β ε σ : Type}

/-- A program that goes on with another one. -/
def bind : Program Call Response α → (α → Program Call Response β) → Program Call Response β
  | done a, f => f a
  | call c next, f => call c fun r => (next r).bind f

instance : Monad (Program Call Response) where
  pure := done
  bind := bind

/-- The program of one call. -/
def perform (c : Call) : Program Call Response (Response c) := call c done

/-- A program that goes on with another one unless it fails. -/
def andThen (p : Program Call Response (Except ε α))
    (f : α → Program Call Response (Except ε β)) : Program Call Response (Except ε β) :=
  p.bind fun
    | .ok a => f a
    | .error e => done (.error e)

/-- Runs a program against a state that answers its calls. -/
def run (answer : (c : Call) → σ → Response c × σ) : Program Call Response α → σ → α × σ
  | done a, s => (a, s)
  | call c next, s => (next (answer c s).1).run answer (answer c s).2

/-- A program that goes on with another runs one after the other. -/
theorem run_bind (answer : (c : Call) → σ → Response c × σ) (p : Program Call Response α)
    (f : α → Program Call Response β) (s : σ) :
    (p.bind f).run answer s = (f (p.run answer s).1).run answer (p.run answer s).2 := by
  induction p generalizing s with
  | done a => rfl
  | call c next ih => exact ih _ _

/-- A relation that can be chained and that every call keeps holds between the
states before and after a run. -/
theorem run_rel {R : σ → σ → Prop} {answer : (c : Call) → σ → Response c × σ}
    (hrefl : ∀ s, R s s) (htrans : ∀ {a b c}, R a b → R b c → R a c)
    (hcall : ∀ c s, R s (answer c s).2) (p : Program Call Response α) (s : σ) :
    R s (p.run answer s).2 := by
  induction p generalizing s with
  | done a => exact hrefl s
  | call c next ih => exact htrans (hcall c s) (ih _ _)

end Program

end SqlAccess
