import SqlAccess.Proofs.Statement.Replies
import SqlAccess.Statement.Inputs

/-!
# Entries of a typed batch

The values of a row are bound to the placeholders one after the other, from the
first on.  A row makes an entry if it has a value for each placeholder and a
type for each value; otherwise it is refused, and why depends on its length.

* `Slots.filled` — the slots when the first of them are bound;
* `rowError?` — why a row is refused;
* `Setter.run_typed_of_fits`, `Setter.run_typed_of_error` — binding a row.
-/

namespace SqlAccess

namespace Program

variable {Call : Type} {Response : Call → Type} {α β γ : Type}

/-- Work goes on with the response to a call, or ends with its failure. -/
theorem run_orFail_andThen {σ : Type} (answer : (c : Call) → σ → Response c × σ)
    (p : Program Call Response (Except SqlError α))
    (f : α → Program Call Response (Except Error β)) (s : σ) :
    (p.orFail.andThen f).run answer s =
      match p.run answer s with
      | (.ok a, s') => (f a).run answer s'
      | (.error e, s') => (.error (.driver e), s') := by
  rw [andThen, orFail, run_bind, run_bind]
  rcases p.run answer s with ⟨_ | a, s'⟩
  · rfl
  · rfl

theorem onPrepared_andThen (p : BindingProgram (Except Error α))
    (f : α → BindingProgram (Except Error β)) :
    (p.andThen f).onPrepared = p.onPrepared.andThen fun a => (f a).onPrepared := by
  unfold andThen
  induction p with
  | done r =>
      cases r with
      | ok a => rfl
      | error e => rfl
  | call c next ih => exact congrArg (call (PreparedCall.binding c)) (funext ih)

end Program

namespace Slots

variable {n : Nat} {ps : List Parameter}

/-- So many slots, the first of which have the given values. -/
def filled (n : Nat) (ps : List Parameter) : Slots :=
  ⟨ps.map some ++ List.replicate (n - ps.length) none⟩

theorem count_filled (h : ps.length ≤ n) : (filled n ps).count = n := by
  simp [filled, count]
  omega

/-- The next slot takes its value. -/
theorem bind_filled (h : ps.length < n) (p : Parameter) :
    (filled n ps).bind (ps.length + 1) p = .ok (filled n (ps ++ [p])) := by
  have hin : ¬ (ps.length + 1 = 0 ∨ n < ps.length + 1) := by omega
  rw [bind, count_filled (by omega), if_neg hin]
  obtain ⟨k, hk⟩ : ∃ k, n - ps.length = k + 1 := ⟨n - ps.length - 1, by omega⟩
  simp [filled, hk, List.replicate_succ]
  omega

/-- Behind the last slot there is none. -/
theorem bind_filled_of_full (h : ps.length = n) (p : Parameter) :
    (filled n ps).bind (ps.length + 1) p = .error (.indexOutOfRange (n + 1) n) := by
  have hout : ps.length + 1 = 0 ∨ n < ps.length + 1 := by omega
  rw [bind, count_filled (by omega), if_pos hout, h]

theorem collectFrom_append (ps : List Parameter) (rest : List (Option Parameter)) (start : Nat) :
    collectFrom start (ps.map some ++ rest) =
      (collectFrom (start + ps.length) rest).map (ps ++ ·) := by
  induction ps generalizing start with
  | nil =>
      simp only [List.map_nil, List.nil_append, List.length_nil, Nat.add_zero]
      cases collectFrom start rest <;> rfl
  | cons p ps ih =>
      have hstart : start + (p :: ps).length = start + 1 + ps.length := by
        rw [List.length_cons]
        omega
      rw [List.map_cons, List.cons_append, collectFrom, ih, hstart]
      cases collectFrom (start + 1 + ps.length) rest <;> rfl

/-- If all slots are bound, they are taken. -/
theorem take_filled (h : ps.length = n) : (filled n ps).take = (.ok ps, ofCount n) := by
  have hcollect : collectFrom 1 (filled n ps).values = .ok ps := by
    rw [filled, collectFrom_append, h, Nat.sub_self]
    exact congrArg Except.ok (List.append_nil ps)
  rw [take, hcollect, clear, count_filled (by omega)]

/-- If some are bound, the next one is missing. -/
theorem take_filled_of_lt (h : ps.length < n) :
    (filled n ps).take = (.error (.noValueFor (ps.length + 1)), filled n ps) := by
  obtain ⟨k, hk⟩ : ∃ k, n - ps.length = k + 1 := ⟨n - ps.length - 1, by omega⟩
  have hcollect : collectFrom 1 (filled n ps).values = .error (ps.length + 1) := by
    rw [filled, collectFrom_append, hk, List.replicate_succ, Nat.add_comm]
    rfl
  rw [take, hcollect]

end Slots

namespace Setter

variable {ε : Type} {encode : Parameter → ε} {supportsBatch : Bool} {sql : String} {n : Nat}

/-- If there are slots left for all of them, parameters are bound behind those
that are. -/
theorem run_bindFrom (before : List Parameter) {rest : List Parameter}
    (h : before.length + rest.length ≤ n) (batch : List (List ε)) :
    (bindFrom (before.length + 1) rest).run (Inputs.answer encode supportsBatch sql)
        ⟨.filled n before, batch⟩ =
      (.ok (), ⟨.filled n (before ++ rest), batch⟩) := by
  induction rest generalizing before with
  | nil =>
      rw [List.append_nil]
      rfl
  | cons p rest ih =>
      rw [List.length_cons] at h
      have hlength : (before ++ [p]).length = before.length + 1 := by
        rw [List.length_append, List.length_singleton]
      have hbind : (Slots.filled n before).bind (before.length + 1) p = _ :=
        Slots.bind_filled (by omega) p
      have hrest := ih (before ++ [p]) (by omega)
      rw [hlength, List.append_assoc] at hrest
      simp only [bindFrom, Program.run, Inputs.answer, hbind]
      exact hrest

/-- If there are not, the first parameter behind the last slot is refused. -/
theorem run_bindFrom_of_lt (before : List Parameter) {rest : List Parameter}
    (hbefore : before.length ≤ n) (h : n < before.length + rest.length) (batch : List (List ε)) :
    ((bindFrom (before.length + 1) rest).run (Inputs.answer encode supportsBatch sql)
        ⟨.filled n before, batch⟩).1 =
      .error (.driver ((SqlError.indexOutOfRange (n + 1) n).atParameter (n + 1))) := by
  induction rest generalizing before with
  | nil =>
      rw [List.length_nil] at h
      omega
  | cons p rest ih =>
      rw [List.length_cons] at h
      by_cases hfull : before.length = n
      · have hbind := Slots.bind_filled_of_full hfull p
        simp only [bindFrom, Program.run, Inputs.answer, hbind]
        rw [hfull]
      · have hlength : (before ++ [p]).length = before.length + 1 := by
          rw [List.length_append, List.length_singleton]
        have hbind : (Slots.filled n before).bind (before.length + 1) p = _ :=
          Slots.bind_filled (by omega) p
        have hrest := ih (before ++ [p]) (by omega) (by omega)
        rw [hlength] at hrest
        simp only [bindFrom, Program.run, Inputs.answer, hbind]
        exact hrest

end Setter

/-- What a row is bound as, under types shared by all rows. -/
def entryOf (types : List SqlType) (row : List Value) : List Parameter :=
  List.zipWith Parameter.ofTyped types row

/-- Whether a row makes an entry of a batch with `n` placeholders. -/
def FitsEntry (n : Nat) (types : List SqlType) (row : List Value) : Prop :=
  row.length = n ∧ n ≤ types.length

/-- Why a row makes no entry, if it does not. -/
def rowError? (n : Nat) (types : List SqlType) (row : List Value) : Option Error :=
  if types.length < row.length then some (Setter.missingTypes row.length types.length)
  else if n < row.length then
    some (.driver ((SqlError.indexOutOfRange (n + 1) n).atParameter (n + 1)))
  else if row.length < n then some (.driver (.noValueFor (row.length + 1)))
  else none

section

variable {ε : Type} {encode : Parameter → ε} {supportsBatch : Bool} {sql : String} {n : Nat}
  {types : List SqlType} {row : List Value}

theorem rowError?_eq_none : rowError? n types row = none ↔ FitsEntry n types row := by
  unfold rowError? FitsEntry
  split
  · simp only [reduceCtorEq, false_iff]
    omega
  · split
    · simp only [reduceCtorEq, false_iff]
      omega
    · split
      · simp only [reduceCtorEq, false_iff]
        omega
      · simp only [true_iff]
        omega

theorem length_entryOf (h : row.length ≤ types.length) :
    (entryOf types row).length = row.length := by
  simp [entryOf, h]

theorem run_addBatch (i : Inputs ε) :
    BindingCall.addBatch.perform.orFail.run (Inputs.answer encode supportsBatch sql) i =
      ((Inputs.answer encode supportsBatch sql .addBatch i).1.mapError Error.driver,
        (Inputs.answer encode supportsBatch sql .addBatch i).2) :=
  rfl

/-- Binds one row and adds it to the batch. -/
def addRow (types : List SqlType) (row : List Value) : Setter :=
  (Setter.typed row types).andThen fun () => BindingCall.addBatch.perform.orFail

/-- If the values are as many as the types at most, they are bound from the
first slot on. -/
theorem typed_of_le (h : row.length ≤ types.length) :
    Setter.typed row types = Setter.bindFrom 1 (entryOf types row) := by
  rw [Setter.typed, if_neg (by omega), entryOf]

/-- A row that fits becomes one entry, and leaves the slots empty. -/
theorem run_addRow_of_fits (h : FitsEntry n types row) (batch : List (List ε)) :
    (addRow types row).run (Inputs.answer encode supportsBatch sql) ⟨.ofCount n, batch⟩ =
      (.ok (), ⟨.ofCount n, batch ++ [(entryOf types row).map encode]⟩) := by
  obtain ⟨hlength, htypes⟩ := h
  have hentry : (entryOf types row).length = n := by
    rw [length_entryOf (by omega), hlength]
  have hbound : (Setter.bindFrom 1 (entryOf types row)).run
      (Inputs.answer encode supportsBatch sql) ⟨.ofCount n, batch⟩ = _ :=
    Setter.run_bindFrom [] (by rw [hentry, List.length_nil]; omega) batch
  have htake := Slots.take_filled hentry
  rw [addRow, typed_of_le (by omega), Program.run_andThen_of_ok (congrArg Prod.fst hbound), hbound,
    List.nil_append, run_addBatch]
  simp only [Inputs.answer, Inputs.take, htake]
  rfl

/-- A row that does not is refused. -/
theorem run_addRow_of_error {e : Error} (h : rowError? n types row = some e)
    (batch : List (List ε)) :
    ((addRow types row).run (Inputs.answer encode supportsBatch sql) ⟨.ofCount n, batch⟩).1 =
      .error e := by
  unfold rowError? at h
  split at h
  · rename_i htypes
    cases h
    rw [addRow, Setter.typed, if_pos htypes]
    rfl
  rename_i htypes
  have hentry : (entryOf types row).length = row.length := length_entryOf (by omega)
  rw [addRow, typed_of_le (by omega)]
  split at h
  · rename_i hlong
    cases h
    exact Program.run_andThen_of_error
      (Setter.run_bindFrom_of_lt [] (by simp) (by rw [hentry, List.length_nil]; omega) batch)
  split at h
  · rename_i hshort
    cases h
    have hbound : (Setter.bindFrom 1 (entryOf types row)).run
        (Inputs.answer encode supportsBatch sql) ⟨.ofCount n, batch⟩ = _ :=
      Setter.run_bindFrom [] (by rw [hentry, List.length_nil]; omega) batch
    have htake : (Slots.filled n (entryOf types row)).take = _ :=
      Slots.take_filled_of_lt (by omega)
    rw [Program.run_andThen_of_ok (congrArg Prod.fst hbound), hbound, List.nil_append, run_addBatch]
    simp only [Inputs.answer, Inputs.take, htake, hentry]
    rfl
  · cases h

end

end SqlAccess
