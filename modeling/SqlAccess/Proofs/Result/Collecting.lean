import SqlAccess.Proofs.Result.Mapping

/-!
# The rows that are collected

Collecting offers the rows that a cursor has left to a mapper, one after the
other and with their numbers, until the limit is reached, the rows are used up or
the mapper fails.  The cursor comes back behind the last row that was offered.

Which rows were offered shows in what a mapper keeps of them.  So the statement is
about mappers that keep something, be it all the rows they were ever given; a
mapper that keeps nothing is the special case that `collect` is about.

* `KeepingMapper` and `collectKeeping` — mappers that keep something, and their
  rows collected;
* `collectKeeping_plain` — a mapper that keeps nothing;
* `Cursor.nextRows` — the rows within the limit;
* `KeepingMapper.Collects` — all of them are mapped, or the mapping ends with the
  first failure;
* `collects_next_rows` — **just these rows are collected**.
-/

namespace SqlAccess

variable {σ α : Type}

/-- A mapper that keeps something, which every row it is given may change. -/
abbrev KeepingMapper (σ α : Type) : Type := Row → Nat → σ → Except Error α × σ

/-- A mapper that leaves what it could keep as it is. -/
def RowMapper.keeping (mapper : RowMapper α) (σ : Type) : KeepingMapper σ α :=
  fun row n s => (mapper row n, s)

/-- `mapRows` for a mapper that keeps something. -/
def mapRowsKeeping (mapper : KeepingMapper σ α) :
    (count number : Nat) → Cursor → σ → (Except Error (List α) × Cursor) × σ
  | 0, _, c, s => ((.ok [], c), s)
  | count + 1, number, c, s =>
    match c.next? with
    | none => ((.ok [], c), s)
    | some (row, c) =>
      match mapper row number s with
      | (.error e, s) => ((.error e, c), s)
      | (.ok x, s) =>
        let ((rest, c), s) := mapRowsKeeping mapper count (number + 1) c s
        ((rest.map (x :: ·), c), s)

/-- `collect` for a mapper that keeps something. -/
def collectKeeping (mapper : KeepingMapper σ α) (limit : Nat) (c : Cursor) (s : σ) :
    (Except Error (Option (List α)) × Cursor) × σ :=
  let count := if limit = 0 then c.remaining.length else limit
  let ((items, c), s) := mapRowsKeeping mapper count 0 c s
  ((items.map some, c), s)

/-! ## Mappers that keep nothing -/

theorem mapRowsKeeping_plain (mapper : RowMapper α) (count number : Nat) (c : Cursor) (s : σ) :
    mapRowsKeeping (mapper.keeping σ) count number c s = (mapRows mapper count number c, s) := by
  induction count generalizing number c with
  | zero => rfl
  | succ count ih =>
      unfold mapRowsKeeping mapRows
      cases c.next? with
      | none => rfl
      | some next =>
          obtain ⟨row, c'⟩ := next
          cases hanswer : mapper row number with
          | error e => simp only [RowMapper.keeping, hanswer]
          | ok x => simp only [RowMapper.keeping, hanswer, ih]

/-- **A mapper that keeps nothing is collected as by `collect`.** -/
theorem collectKeeping_plain (mapper : RowMapper α) (limit : Nat) (c : Cursor) (s : σ) :
    collectKeeping (mapper.keeping σ) limit c s = (collect mapper limit c, s) := by
  simp only [collectKeeping, collect, mapRowsKeeping_plain]

/-! ## The rows within the limit -/

/-- The number of rows within a limit when so many are left.  A limit of zero is
none, and the sign of a limit does not matter. -/
def rowsWithin (limit : Int64) (left : Nat) : Nat :=
  if limit = 0 then left else min left limit.toInt.natAbs

/-- The least of the limits is the greatest number of rows. -/
example : rowsWithin Int64.minValue (2 ^ 63 + 1) = 2 ^ 63 := by decide

namespace Cursor

/-- The cursor behind the next `n` rows. -/
def skip (c : Cursor) (n : Nat) : Cursor := ⟨c.result, c.position + n⟩

/-- The rows that a cursor has left within a limit, each with its number. -/
def nextRows (c : Cursor) (limit : Int64) : List (Row × Nat) :=
  (c.remaining.take (rowsWithin limit c.remaining.length)).zipIdx

theorem skip_skip (c : Cursor) (m n : Nat) : (c.skip m).skip n = c.skip (n + m) := by
  simp only [skip, Nat.add_assoc, Nat.add_comm n m]

/-- A cursor that has no rows left stays where it is. -/
theorem next?_of_remaining_nil {c : Cursor} (h : c.remaining = []) : c.next? = none := by
  have hend : c.result.rows.length ≤ c.position :=
    List.drop_eq_nil_iff.mp (List.map_eq_nil_iff.mp h)
  rw [next?, List.getElem?_eq_none hend]

/-- A cursor that has rows left moves on by one. -/
theorem next?_of_remaining_cons {c : Cursor} {row : Row} {rest : List Row}
    (h : c.remaining = row :: rest) :
    c.next? = some (row, c.skip 1) ∧ (c.skip 1).remaining = rest := by
  obtain ⟨c', hnext, hrest⟩ := next?_of_remaining h
  have hskip : c' = c.skip 1 := by
    unfold next? at hnext
    split at hnext
    · cases hnext
      rfl
    · cases hnext
  exact ⟨hskip ▸ hnext, hskip ▸ hrest⟩

end Cursor

/-! ## Collecting -/

namespace KeepingMapper

/-- The mapper turns rows offered one after the other into items, and what it
keeps from `s` into `s'`. -/
inductive MapsAll (mapper : KeepingMapper σ α) : List (Row × Nat) → σ → List α → σ → Prop
  | nil (s : σ) : MapsAll mapper [] s [] s
  | cons {row : Row} {n : Nat} {rest : List (Row × Nat)} {x : α} {items : List α} {s s' s'' : σ}
      (hrow : mapper row n s = (.ok x, s')) (hrest : MapsAll mapper rest s' items s'') :
      MapsAll mapper ((row, n) :: rest) s (x :: items) s''

/-- What may come of the rows offered: all of them are mapped, and the cursor is
behind them; or one fails after those before it were mapped, and the cursor is
behind this one.  The mapper keeps what it kept of the rows up to there. -/
inductive Collects (mapper : KeepingMapper σ α) (c : Cursor) (s : σ) (offered : List (Row × Nat)) :
    Except Error (List α) → Cursor → σ → Prop
  | all {items : List α} {s' : σ} (hall : mapper.MapsAll offered s items s') :
      Collects mapper c s offered (.ok items) (c.skip offered.length) s'
  | failed {before after : List (Row × Nat)} {row : Row} {n : Nat} {items : List α} {e : Error}
      {s' s'' : σ} (hoffered : offered = before ++ (row, n) :: after)
      (hbefore : mapper.MapsAll before s items s') (hrow : mapper row n s' = (.error e, s'')) :
      Collects mapper c s offered (.error e) (c.skip (before.length + 1)) s''

variable {mapper : KeepingMapper σ α}

/-- One more row is offered in front of the others and mapped. -/
theorem Collects.cons {c : Cursor} {row : Row} {n : Nat} {rest : List (Row × Nat)} {x : α}
    {s s' s'' : σ} {r : Except Error (List α)} {c' : Cursor}
    (hrow : mapper row n s = (.ok x, s'))
    (hrest : mapper.Collects (c.skip 1) s' rest r c' s'') :
    mapper.Collects c s ((row, n) :: rest) (r.map (x :: ·)) c' s'' := by
  cases hrest with
  | all hall =>
      rw [Cursor.skip_skip]
      exact .all (.cons hrow hall)
  | @failed before after row' n' items e t t' hoffered hbefore hfails =>
      rw [Cursor.skip_skip]
      exact .failed (congrArg ((row, n) :: ·) hoffered) (.cons hrow hbefore) hfails

/-- The rows offered are the next ones, up to as many as asked for. -/
theorem collects_mapRowsKeeping (mapper : KeepingMapper σ α) (count n : Nat) (c : Cursor) (s : σ) :
    ∃ r c' s', mapRowsKeeping mapper count n c s = ((r, c'), s') ∧
      mapper.Collects c s ((c.remaining.take count).zipIdx n) r c' s' := by
  induction count generalizing n c s with
  | zero => exact ⟨.ok [], c, s, rfl, .all (.nil s)⟩
  | succ count ih =>
      unfold mapRowsKeeping
      cases hrows : c.remaining with
      | nil =>
          rw [Cursor.next?_of_remaining_nil hrows]
          exact ⟨.ok [], c, s, rfl, .all (.nil s)⟩
      | cons row rest =>
          obtain ⟨hnext, hrest⟩ := Cursor.next?_of_remaining_cons hrows
          rw [hnext, List.take_succ_cons, List.zipIdx_cons]
          rcases hrow : mapper row n s with ⟨e | x, s'⟩
          · -- The row fails, and no other is offered.
            refine ⟨.error e, c.skip 1, s', by simp only [hrow], ?_⟩
            exact .failed (List.nil_append _).symm (.nil s) hrow
          · obtain ⟨r, c', s'', hmapped, hcollects⟩ := ih (n + 1) (c.skip 1) s'
            rw [hrest] at hcollects
            exact ⟨r.map (x :: ·), c', s'', by simp only [hrow, hmapped], hcollects.cons hrow⟩

end KeepingMapper

/-- Counting up to the limit is taking the rows within it. -/
theorem take_rowsWithin (limit : Int64) (rows : List Row) :
    rows.take (if limitOf limit.toInt = 0 then rows.length else limitOf limit.toInt) =
      rows.take (rowsWithin limit rows.length) := by
  have hzero : limitOf limit.toInt = 0 ↔ limit = 0 := by
    rw [limitOf, Int.natAbs_eq_zero, ← Int64.toInt_zero, Int64.toInt_inj]
  unfold rowsWithin
  by_cases hlimit : limit = 0
  · rw [if_pos (hzero.mpr hlimit), if_pos hlimit]
  · rw [if_neg (fun h => hlimit (hzero.mp h)), if_neg hlimit, Nat.min_comm, ← List.take_eq_take_min]
    rfl

/-- **Just the next rows within the limit are collected**, in order and numbered
from zero, wherever the cursor stands and whatever the mapper keeps.  If all of
them are mapped, the items come back and the cursor is behind these rows.  If one
fails, its error comes back, the cursor is behind this row, and the mapper was
offered no other row after it.  A mapper that keeps nothing is collected as by
`collect`. -/
theorem collects_next_rows (c : Cursor) (limit : Int64) :
    (∀ (mapper : KeepingMapper σ α) (s : σ), ∃ r c' s',
      collectKeeping mapper (limitOf limit.toInt) c s = ((r.map some, c'), s') ∧
        mapper.Collects c s (c.nextRows limit) r c' s') ∧
    ∀ (mapper : RowMapper α) (s : σ),
      collectKeeping (mapper.keeping σ) (limitOf limit.toInt) c s =
        (collect mapper (limitOf limit.toInt) c, s) := by
  refine ⟨?_, fun mapper s => collectKeeping_plain mapper _ c s⟩
  intro mapper s
  obtain ⟨r, c', s', hmapped, hcollects⟩ := mapper.collects_mapRowsKeeping
    (if limitOf limit.toInt = 0 then c.remaining.length else limitOf limit.toInt) 0 c s
  rw [take_rowsWithin] at hcollects
  exact ⟨r, c', s', by simp only [collectKeeping, hmapped], hcollects⟩

end SqlAccess
