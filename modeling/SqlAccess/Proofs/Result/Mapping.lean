import SqlAccess.Proofs.Database.Failure
import SqlAccess.Result.Extractor

/-!
# Mapping all rows

A mapper gives an object or an error for each row and its number.  Mapping all
rows of a result gives the objects in order; the first row that gives an error
ends it with this error, whatever the rows after it would give.

* `RowMapper.results` — what a mapper gives for each of some rows;
* `FirstError` — the error that ends the mapping;
* `all_of_results_ok`, `all_of_firstError` — what mapping all rows comes to.
-/

namespace SqlAccess

variable {α : Type}

/-- The rows of a result, with its columns. -/
def ResultSet.asRows (r : ResultSet) : List Row := r.rows.map fun values => ⟨r.columns, values⟩

theorem ResultSet.length_asRows (r : ResultSet) : r.asRows.length = r.rows.length :=
  List.length_map _

/-- What the mapper gives for each of some rows, the first of which has number `n`. -/
def RowMapper.results (mapper : RowMapper α) : (n : Nat) → List Row → List (Except Error α)
  | _, [] => []
  | n, row :: rest => mapper row n :: results mapper (n + 1) rest

theorem RowMapper.length_results (mapper : RowMapper α) (n : Nat) (rows : List Row) :
    (mapper.results n rows).length = rows.length := by
  induction rows generalizing n with
  | nil => rfl
  | cons row rest ih => exact congrArg (· + 1) (ih (n + 1))

/-- Rows that give an object each are as many as the objects. -/
theorem RowMapper.size_of_results_ok {mapper : RowMapper α} {r : ResultSet} {items : List α}
    (h : mapper.results 0 r.asRows = items.map .ok) : r.size = items.length := by
  calc r.size
      = (mapper.results 0 r.asRows).length := by rw [mapper.length_results, r.length_asRows]; rfl
    _ = items.length := by rw [h, List.length_map]

/-- The first of some results that is an error is this one. -/
def FirstError (e : Error) (results : List (Except Error α)) : Prop :=
  ∃ (before : List α) (rest : List (Except Error α)),
    results = before.map .ok ++ .error e :: rest

/-- Either no result is an error, or one is the first. -/
theorem all_ok_or_firstError (results : List (Except Error α)) :
    (∃ items : List α, results = items.map .ok) ∨ ∃ e, FirstError e results := by
  induction results with
  | nil => exact .inl ⟨[], rfl⟩
  | cons result rest ih =>
      cases result with
      | error e => exact .inr ⟨e, [], rest, rfl⟩
      | ok a =>
          rcases ih with ⟨items, rfl⟩ | ⟨e, before, after, rfl⟩
          · exact .inl ⟨a :: items, rfl⟩
          · exact .inr ⟨e, a :: before, after, rfl⟩

/-- If any result is an error, one is the first. -/
theorem exists_firstError {results : List (Except Error α)} {e : Error}
    (h : .error e ∈ results) : ∃ first, FirstError first results := by
  rcases all_ok_or_firstError results with ⟨items, rfl⟩ | hfirst
  · obtain ⟨a, _, ha⟩ := List.mem_map.mp h
    cases ha
  · exact hfirst

/-! ## From the rows of a cursor -/

namespace Cursor

/-- The rows that a cursor has left are taken one by one. -/
theorem next?_of_remaining {c : Cursor} {row : Row} {rest : List Row}
    (h : c.remaining = row :: rest) :
    ∃ c', c.next? = some (row, c') ∧ c'.remaining = rest := by
  have hin : c.position < c.result.rows.length := by
    have hlength := congrArg List.length h
    simp only [remaining, List.length_map, List.length_drop, List.length_cons] at hlength
    omega
  rw [remaining, List.drop_eq_getElem_cons hin, List.map_cons] at h
  cases h
  exact ⟨⟨c.result, c.position + 1⟩, by rw [next?, List.getElem?_eq_getElem hin], rfl⟩

end Cursor

/-- Where the results of a cursor's rows begin with one, there is a row for it. -/
theorem RowMapper.next?_of_results {mapper : RowMapper α} {n : Nat} {c : Cursor}
    {result : Except Error α} {rest : List (Except Error α)}
    (h : mapper.results n c.remaining = result :: rest) :
    ∃ row c', c.next? = some (row, c') ∧ mapper row n = result ∧
      mapper.results (n + 1) c'.remaining = rest := by
  cases hrows : c.remaining with
  | nil =>
      rw [hrows] at h
      cases h
  | cons row after =>
      obtain ⟨c', hnext, hafter⟩ := Cursor.next?_of_remaining hrows
      rw [hrows] at h
      obtain ⟨hresult, hrest⟩ := List.cons.inj h
      exact ⟨row, c', hnext, hresult, by rw [hafter, hrest]⟩

/-- If no row gives an error, the objects are collected in order. -/
theorem mapRows_of_results_ok {mapper : RowMapper α} {n : Nat} {c : Cursor} {items : List α}
    (h : mapper.results n c.remaining = items.map .ok) :
    (mapRows mapper c.remaining.length n c).1 = .ok items := by
  induction items generalizing n c with
  | nil =>
      have hnone : c.remaining.length = 0 := by
        rw [← mapper.length_results n, h]
        rfl
      rw [hnone]
      rfl
  | cons a items ih =>
      obtain ⟨row, c', hnext, ha, hrest⟩ := RowMapper.next?_of_results h
      rw [Cursor.length_remaining_of_next? hnext]
      simp only [mapRows, hnext, ha, ih hrest]
      rfl

/-- If one gives the first error, the mapping fails with it. -/
theorem RowMapper.Fails.of_firstError {mapper : RowMapper α} {e : Error} {n : Nat} {c : Cursor}
    (h : FirstError e (mapper.results n c.remaining)) : mapper.Fails e n c := by
  obtain ⟨before, after, h⟩ := h
  induction before generalizing n c with
  | nil =>
      obtain ⟨row, c', hnext, he, _⟩ := RowMapper.next?_of_results h
      exact .here hnext he
  | cons a before ih =>
      obtain ⟨row, c', hnext, ha, hrest⟩ := RowMapper.next?_of_results h
      exact .later hnext ha (ih hrest)

namespace Database

theorem all_of_results_ok {mapper : RowMapper α} {r : ResultSet} {items : List α}
    (h : mapper.results 0 r.asRows = items.map .ok) :
    (all mapper r.cursor).1 = .ok (some items) := by
  have hrows : (mapRows mapper r.cursor.remaining.length 0 r.cursor).1 = .ok items :=
    mapRows_of_results_ok h
  simp only [all, collect, if_pos, hrows]
  rfl

theorem all_of_firstError {mapper : RowMapper α} {r : ResultSet} {e : Error}
    (h : FirstError e (mapper.results 0 r.asRows)) :
    (all mapper r.cursor).1 = .error e :=
  (RowMapper.Fails.of_firstError h).all

end Database

end SqlAccess
