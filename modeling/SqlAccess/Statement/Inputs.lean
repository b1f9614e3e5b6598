import SqlAccess.Statement.Call

/-!
# The inputs of a prepared statement

A prepared statement has one slot for each of its placeholders.  Values are
bound to slots; an execution, or an entry of a batch, takes them all and leaves
the slots empty.  It is refused while a slot is empty, and then nothing
changes.

* `Slots.bind` and `Slots.take` — giving a slot its value, and taking all;
* `Inputs.answer` — the response to each call about parameters.
-/

namespace SqlAccess

/-- The slots of a prepared statement, in order. -/
structure Slots where
  values : List (Option Parameter)
  deriving DecidableEq

namespace Slots

/-- Slots that are all empty. -/
def ofCount (n : Nat) : Slots := ⟨List.replicate n none⟩

/-- The number of slots. -/
def count (s : Slots) : Nat := s.values.length

/-- Every slot emptied. -/
def clear (s : Slots) : Slots := ofCount s.count

/-- Gives a slot, counted from 1, its value. -/
def bind (s : Slots) (index : Nat) (p : Parameter) : Except SqlError Slots :=
  if index = 0 ∨ s.count < index then .error (.indexOutOfRange index s.count)
  else .ok ⟨s.values.set (index - 1) (some p)⟩

/-- The values of all slots, or the number of the first empty one; `index` is
the number of the first slot. -/
def collectFrom (index : Nat) : List (Option Parameter) → Except Nat (List Parameter)
  | [] => .ok []
  | none :: _ => .error index
  | some p :: rest => (collectFrom (index + 1) rest).map (p :: ·)

/-- Takes the values of all slots, which are empty then; refuses while one is
empty. -/
def take (s : Slots) : Except SqlError (List Parameter) × Slots :=
  match collectFrom 1 s.values with
  | .ok ps => (.ok ps, s.clear)
  | .error index => (.error (.noValueFor index), s)

end Slots

/-- The slots of a prepared statement and the entries of its batch, in the
order they were added.  A driver may keep entries in a form of its own. -/
structure Inputs (ε : Type) where
  slots : Slots
  batch : List (List ε)

namespace Inputs

variable {ε : Type}

/-- Empty inputs for so many placeholders. -/
def ofCount (n : Nat) : Inputs ε := ⟨.ofCount n, []⟩

/-- Takes the values of all slots in the driver's form. -/
def take (encode : Parameter → ε) (i : Inputs ε) : Except SqlError (List ε) × Inputs ε :=
  let (r, slots) := i.slots.take
  (r.map (·.map encode), { i with slots })

/-- Takes the entries of the batch. -/
def takeBatch (i : Inputs ε) : List (List ε) × Inputs ε := (i.batch, { i with batch := [] })

/-- The response to a call about the parameters of a statement prepared from
`sql`. -/
def answer (encode : Parameter → ε) (supportsBatch : Bool) (sql : String) :
    (c : BindingCall) → Inputs ε → c.Response × Inputs ε
  | .bind index p, i =>
    match i.slots.bind index p with
    | .ok slots => (.ok (), { i with slots })
    | .error e => (.error e, i)
  | .clear, i => ((), { i with slots := i.slots.clear })
  | .addBatch, i =>
    match i.take encode with
    | (.ok entry, i) => (.ok (), { i with batch := i.batch ++ [entry] })
    | (.error e, i) => (.error e, i)
  | .supportsBatch, i => (supportsBatch, i)
  | .sql, i => (sql, i)

end Inputs

end SqlAccess
