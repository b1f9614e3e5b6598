import SqlAccess.Proofs.Database.Operation
import SqlAccess.Scripted.Source

/-!
# Batches by number and by item

The entries of a batch come from a batch setter, which is given their numbers,
or from items and a setter that is given each of them.  Two loops add them to a
statement.  This file shows that the loops stay in step, whichever driver
answers them and wherever a setter fails.

* `BatchSetter.Numbers` — a batch setter binds by number what a setter binds by
  item;
* `BatchSetter.Numbers.entries_eq` — its entries, in order;
* `Database.batches_agree` — **batches over the same items give the same result
  and leave the same world**.
-/

namespace SqlAccess

variable {ι : Type} {items : List ι} {setter : ι → Setter} {b : BatchSetter}

/-- The batch setter has an entry for each item and binds it as the setter binds
the item.  Nothing is said about numbers that are out of range. -/
structure BatchSetter.Numbers (b : BatchSetter) (items : List ι) (setter : ι → Setter) : Prop where
  size : b.size = items.length
  entry : ∀ (i : Nat) (h : i < items.length), b.entry i = setter items[i]

/-- Its entries are the items, one by one. -/
theorem BatchSetter.Numbers.entries_eq (h : b.Numbers items setter) :
    b.entries = items.map setter := by
  apply List.ext_getElem
  · rw [entries, List.length_map, List.length_map, List.length_range, h.size]
  · intro i hi hi'
    rw [List.length_map] at hi'
    rw [List.getElem_map]
    simp only [entries, List.getElem_map, List.getElem_range]
    exact h.entry i hi'

/-- Rows with types in common are numbered as they stand. -/
theorem BatchSetter.typed_numbers (rows : List (List Value)) (types : List SqlType) :
    (typed rows types).Numbers rows (Setter.typed · types) where
  size := rfl
  entry i h := by simp only [typed, List.getElem?_eq_getElem h]

namespace Database

variable {D : Driver}

/-- A batch over some items is an operation with one statement. -/
theorem batchUpdateWith_eq_executeSql (sql : String) (h : items ≠ []) (setter : ι → Setter) :
    batchUpdateWith (D := D) sql items setter = executeSql sql (itemsAction items setter) := by
  have hsome : ¬ items.isEmpty = true := by simpa using h
  rw [batchUpdateWith, executeSql]
  cases Creator.ofSql sql false with
  | error e => rfl
  | ok creator => exact if_neg hsome

/-- **Batches over the same items give the same result and leave the same
world**, whether the entries are bound by number or by item, and so do rows with
types in common. -/
theorem batches_agree (sql : String) (w : World D) :
    (∀ (ι : Type) (items : List ι) (setter : ι → Setter) (b : BatchSetter),
      items ≠ [] → b.Numbers items setter →
        batchUpdateWith sql items setter w = batchUpdate sql b w) ∧
    (∀ (rows : List (List Value)) (types : List SqlType),
      rows ≠ [] →
        batchUpdateWith sql rows (Setter.typed · types) w = batchUpdateTyped sql rows types w) := by
  have hagree : ∀ (ι : Type) (items : List ι) (setter : ι → Setter) (b : BatchSetter),
      items ≠ [] → b.Numbers items setter →
        batchUpdateWith sql items setter w = batchUpdate sql b w := by
    intro ι items setter b hitems hb
    rw [batchUpdateWith_eq_executeSql sql hitems, itemsAction_eq_batchAction, ← hb.entries_eq,
      batchUpdate]
  refine ⟨hagree, ?_⟩
  intro rows types hrows
  have hsome : ¬ rows.isEmpty = true := by simpa using hrows
  rw [batchUpdateTyped, if_neg hsome]
  exact hagree _ rows _ _ hrows (BatchSetter.typed_numbers rows types)

/-- Where the second of two items is refused, so is the batch.  Whatever the
batch setter does with a third entry, it is not asked for it. -/
theorem batches_agree_refused :
    let w : World Scripted.source := ⟨{ responses := [.batch [1, 1]] }, []⟩
    let refusal : Error := .invalidArgument "odd id"
    let setter : Int32 → Setter := fun id =>
      if id = 7 then .done (.error refusal) else .untyped [.int32 id]
    let b : BatchSetter := ⟨2, fun i => setter (if i = 0 then 6 else 7)⟩
    let rows : List (List Value) := [[.int32 6], [.int32 7]]
    (([6, 7] : List Int32) ≠ [] ∧ b.Numbers [6, 7] setter ∧ rows ≠ []) ∧
      batchUpdateWith "DELETE FROM t WHERE id = ?" [6, 7] setter w =
        batchUpdate "DELETE FROM t WHERE id = ?" b w ∧
      batchUpdateWith "DELETE FROM t WHERE id = ?" rows (Setter.typed · [.integer]) w =
        batchUpdateTyped "DELETE FROM t WHERE id = ?" rows [.integer] w ∧
      (batchUpdate "DELETE FROM t WHERE id = ?" b w).1 = .error refusal ∧
      (batchUpdateTyped "DELETE FROM t WHERE id = ?" rows [.integer] w).1 = .ok (some [1, 1]) := by
  intro w refusal setter b rows
  have hitems : ([6, 7] : List Int32) ≠ [] := by decide
  have hrows : rows ≠ [] := List.cons_ne_nil _ _
  have hb : b.Numbers [6, 7] setter := by
    constructor
    case size => rfl
    case entry =>
      intro i h
      match i with
      | 0 => rfl
      | 1 => rfl
  obtain ⟨hagree, hagreeRows⟩ := batches_agree "DELETE FROM t WHERE id = ?" w
  refine ⟨⟨hitems, hb, hrows⟩, hagree _ _ _ _ hitems hb, hagreeRows _ _ hrows, ?_, ?_⟩
  · rfl
  · rfl

end Database

end SqlAccess
