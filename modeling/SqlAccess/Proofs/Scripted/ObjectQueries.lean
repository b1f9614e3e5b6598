import SqlAccess.Proofs.Result.Mapping
import SqlAccess.Proofs.Scripted.QueryResult

/-!
# Queries for lists and for objects

A query may find no connection, no rows or too many of them.  The queries for a
list and for an object tell these apart, and the forms with a fallback use it for
some of them.  All of them make the same query, and differ in what they make of
the list of mapped rows.

* `ListAndObject` — what they give for what was found;
* `mappedList` and `listAndObject_mappedList` — the list of mapped rows, of which they
  are made;
* `list_and_object_queries` — **they give it on every source**.
-/

namespace SqlAccess.Scripted

variable {α : Type} {sql : String}

/-- What queries for a list and for an object, with a fallback or without, give for what
was found: a failure, no connection, or rows.  What a mapper raises is told by `told`. -/
structure ListAndObject (found : Except Error (Option ResultSet)) (told : Error → Error)
    (mapper : RowMapper α) (listFallback : List α) (fallback : α)
    (list : Except Error (Option (List α))) (listOrElse : Except Error (List α))
    (object : Except Error (Option α)) (objectOrElse : Except Error α) : Prop where
  refused : ∀ e, found = .error e → list = .error e ∧ object = .error e
  noConnection : found = .ok none → list = .ok none ∧ object = .ok none
  mapped : ∀ r items, found = .ok (some r) →
    mapper.results 0 r.asRows = List.map .ok items → list = .ok (some items)
  /-- The only row gives the object. -/
  one : ∀ r a, found = .ok (some r) → mapper.results 0 r.asRows = [.ok a] → object = .ok (some a)
  /-- Another number of rows is not what is expected. -/
  size : ∀ r items, found = .ok (some r) →
    mapper.results 0 r.asRows = List.map .ok items → r.size ≠ 1 →
      object = .error (.incorrectResultSize 1 r.size)
  /-- If any row cannot be mapped, the first of them is told, however many rows there
  are. -/
  unmapped : ∀ r e, found = .ok (some r) → .error e ∈ mapper.results 0 r.asRows →
    ∃ first, FirstError first (mapper.results 0 r.asRows) ∧
      list = .error (told first) ∧ object = .error (told first)
  /-- The fallback stands in for no list and for an empty one, and for nothing else. -/
  listOrElse_absent : list = .ok none ∨ list = .ok (some []) → listOrElse = .ok listFallback
  listOrElse_present : ¬ (list = .ok none ∨ list = .ok (some [])) → listOrElse.map some = list
  /-- The fallback stands in for no object and for the error that there are no rows, and
  for nothing else. -/
  objectOrElse_absent : (object = .ok none ∨ ∃ r, found = .ok (some r) ∧ r.size = 0) →
    objectOrElse = .ok fallback
  objectOrElse_present : ¬ (object = .ok none ∨ ∃ r, found = .ok (some r) ∧ r.size = 0) →
    objectOrElse.map some = object

/-- There is no object just where there is no list. -/
theorem list_of_objectOf {list : Except Error (Option (List α))}
    (h : Database.objectOf list = .ok none) : list = .ok none := by
  match list, h with
  | .ok none, _ => rfl
  | .ok (some []), h => cases h
  | .ok (some [a]), h => cases h
  | .ok (some (a :: b :: rest)), h => cases h

/-- A list of another length than one holds no single object. -/
theorem objectOf_of_ne_one {items : List α} (h : items.length ≠ 1) :
    Database.objectOf (.ok (some items)) = .error (.incorrectResultSize 1 items.length) := by
  match items, h with
  | [], _ => rfl
  | [a], h => exact absurd rfl h
  | a :: b :: rest, _ => rfl

/-- Where the list is not empty, the fallback is not asked for. -/
theorem objectOrElse_of_ne_nil (fallback : α) {items : List α} (h : items ≠ []) :
    (Database.objectOrElse fallback (.ok (some items))).map some =
      Database.objectOf (.ok (some items)) := by
  match items, h with
  | [], h => exact absurd rfl h
  | [a], _ => rfl
  | a :: b :: rest, _ => rfl

/-! ## The list of mapped rows -/

/-- The list that mapping all rows makes of what was found. -/
def mappedList (mapper : RowMapper α) (told : Error → Error) :
    Except Error (Option ResultSet) → Except Error (Option (List α))
  | .error e => .error e
  | .ok none => .ok none
  | .ok (some r) => (Database.all mapper r.cursor).1.mapError told

section

variable {mapper : RowMapper α} {told : Error → Error} {found : Except Error (Option ResultSet)}
  {r : ResultSet} {items : List α}

theorem mappedList_of_results_ok (h : mapper.results 0 r.asRows = items.map .ok) :
    mappedList mapper told (.ok (some r)) = .ok (some items) := by
  simp only [mappedList, Database.all_of_results_ok h]
  rfl

theorem mappedList_of_firstError {e : Error} (h : FirstError e (mapper.results 0 r.asRows)) :
    mappedList mapper told (.ok (some r)) = .error (told e) := by
  simp only [mappedList, Database.all_of_firstError h]
  rfl

/-- A list that is there has an object for each row. -/
theorem size_of_mappedList (h : mappedList mapper told found = .ok (some items)) :
    ∃ r, found = .ok (some r) ∧ r.size = items.length := by
  match found, h with
  | .ok (some r), h =>
      refine ⟨r, rfl, ?_⟩
      rcases all_ok_or_firstError (mapper.results 0 r.asRows) with
        ⟨objects, hresults⟩ | ⟨e, hfirst⟩
      · rw [mappedList_of_results_ok hresults] at h
        cases h
        exact RowMapper.size_of_results_ok hresults
      · rw [mappedList_of_firstError hfirst] at h
        cases h

end

/-- **What is made of the list tells absences apart.** -/
theorem listAndObject_mappedList (found : Except Error (Option ResultSet)) (told : Error → Error)
    (mapper : RowMapper α) (listFallback : List α) (fallback : α) :
    let list := mappedList mapper told found
    ListAndObject found told mapper listFallback fallback list
      (list.map (Database.nonEmptyOr listFallback)) (Database.objectOf list)
      (Database.objectOrElse fallback list) := by
  intro list
  constructor
  case refused =>
    rintro e rfl
    exact ⟨rfl, rfl⟩
  case noConnection =>
    rintro rfl
    exact ⟨rfl, rfl⟩
  case mapped =>
    rintro r items rfl hresults
    exact mappedList_of_results_ok hresults
  case one =>
    rintro r a rfl hresults
    have hlist : list = .ok (some [a]) := mappedList_of_results_ok hresults
    rw [hlist]
    rfl
  case size =>
    rintro r items rfl hresults hsize
    have hlist : list = .ok (some items) := mappedList_of_results_ok hresults
    rw [RowMapper.size_of_results_ok hresults] at hsize ⊢
    rw [hlist]
    exact objectOf_of_ne_one hsize
  case unmapped =>
    rintro r e rfl he
    obtain ⟨first, hfirst⟩ := exists_firstError he
    have hlist : list = .error (told first) := mappedList_of_firstError hfirst
    refine ⟨first, hfirst, hlist, ?_⟩
    rw [hlist]
    rfl
  case listOrElse_absent =>
    rintro (hlist | hlist)
    · rw [hlist]
      rfl
    · rw [hlist]
      rfl
  case listOrElse_present =>
    intro hpresent
    match list, hpresent with
    | .error e, _ => rfl
    | .ok none, hpresent => exact absurd (.inl rfl) hpresent
    | .ok (some []), hpresent => exact absurd (.inr rfl) hpresent
    | .ok (some (a :: rest)), _ => rfl
  case objectOrElse_absent =>
    rintro (hobject | ⟨r, rfl, hsize⟩)
    · rw [list_of_objectOf hobject]
      rfl
    · have hresults : mapper.results 0 r.asRows = List.map .ok [] := by
        rw [ResultSet.asRows, List.eq_nil_of_length_eq_zero hsize]
        rfl
      have hlist : list = .ok (some []) := mappedList_of_results_ok hresults
      rw [hlist]
      rfl
  case objectOrElse_present =>
    intro hpresent
    cases hlist : list with
    | error e => rfl
    | ok absent =>
        cases absent with
        | none =>
            rw [hlist] at hpresent
            exact absurd (.inl rfl) hpresent
        | some items =>
            obtain ⟨r, hfound, hsize⟩ := size_of_mappedList hlist
            refine objectOrElse_of_ne_nil fallback fun hnil => hpresent (.inr ?_)
            exact ⟨r, hfound, by rw [hsize, hnil]; rfl⟩

/-- **The queries for lists and for objects keep absences apart**, on every source and
however their arguments are given: no connection, no rows, and too many of them.  All
of them leave the same world. -/
theorem list_and_object_queries (hsql : ¬ Text.IsBlankText sql) (args : Arguments)
    (mapper : RowMapper α) (listFallback : List α) (fallback : α) (w : World source) :
    ListAndObject (w.state.rowsFor sql args) (Error.inOperation args.context (some sql))
        mapper listFallback fallback
        (Database.queryList sql args mapper w).1
        (Database.queryListOrElse sql args mapper listFallback w).1
        (Database.queryObject sql args mapper w).1
        (Database.queryObjectOrElse sql args mapper fallback w).1 ∧
      (Database.queryListOrElse sql args mapper listFallback w).2 =
        (Database.queryList sql args mapper w).2 ∧
      (Database.queryObject sql args mapper w).2 = (Database.queryList sql args mapper w).2 ∧
      (Database.queryObjectOrElse sql args mapper fallback w).2 =
        (Database.queryList sql args mapper w).2 := by
  have hlist : (Database.queryList sql args mapper w).1 =
      mappedList mapper (Error.inOperation args.context (some sql)) (w.state.rowsFor sql args) := by
    rw [Database.queryList, query_result hsql]
    rcases w.state.rowsFor sql args with _ | _ | _ <;> rfl
  refine ⟨?_, rfl, rfl, rfl⟩
  have h := listAndObject_mappedList (w.state.rowsFor sql args)
    (Error.inOperation args.context (some sql)) mapper listFallback fallback
  rw [← hlist] at h
  exact h

/-- There are two rows, and the second one lacks its value: that is told, with the
fallback or without, and not the number of rows. -/
theorem short_row_before_size :
    let sql := "SELECT n FROM t WHERE id > ?"
    let args : Arguments := .typed [.int64 1] [.bigInt]
    let r : ResultSet := ⟨[⟨"n", none⟩], [[.int64 7], []]⟩
    let w : World source := ⟨{ responses := [.rows r] }, []⟩
    let e : Error := .dataAccess "prepared statement callback" (some sql) none
      "Row has no value for column 1"
    ¬ Text.IsBlankText sql ∧ w.state.rowsFor sql args = .ok (some r) ∧
      (Database.queryObject sql args (singleColumn .int64) w).1 = .error e ∧
      (Database.queryObjectOrElse sql args (singleColumn .int64) 5 w).1.map some = .error e := by
  have hcount : placeholders "SELECT n FROM t WHERE id > ?" = 1 := by rfl
  intro sql args r w e
  have hsql : ¬ Text.IsBlankText sql := by decide
  have hfound : w.state.rowsFor sql args = .ok (some r) := by
    simp only [State.rowsFor, show placeholders sql = 1 from hcount]
    rfl
  have hresults : (singleColumn .int64).results 0 r.asRows =
      [.ok 7, .error (.driver (.noValueInRow 1))] := by rfl
  have hlacks : .error (.driver (.noValueInRow 1)) ∈ (singleColumn .int64).results 0 r.asRows := by
    rw [hresults]
    exact List.mem_cons_of_mem _ List.mem_cons_self
  have h := (list_and_object_queries hsql args (singleColumn .int64) [] 5 w).1
  obtain ⟨first, ⟨before, rest, hsplit⟩, _, hobject⟩ := h.unmapped r _ hfound hlacks
  have hfirst : first = .driver (.noValueInRow 1) := by
    rw [hresults] at hsplit
    rcases before with _ | ⟨_, _ | ⟨_, _⟩⟩
    · cases hsplit
    · cases hsplit
      rfl
    · cases hsplit
  rw [hfirst] at hobject
  have hpresent : ¬ ((Database.queryObject sql args (singleColumn .int64) w).1 = .ok none ∨
      ∃ r, w.state.rowsFor sql args = .ok (some r) ∧ r.size = 0) := by
    rintro (hnone | ⟨r', hfound', hsize⟩)
    · rw [hobject] at hnone
      cases hnone
    · rw [hfound] at hfound'
      cases hfound'
      cases hsize
  exact ⟨hsql, hfound, hobject, (h.objectOrElse_present hpresent).trans hobject⟩

end SqlAccess.Scripted
