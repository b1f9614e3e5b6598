import Mathlib.Data.List.Dedup
import Mathlib.Data.List.Perm.Subperm
import SqlAccess.Proofs.Driver.Holdings
import SqlAccess.Scripted.Source

/-!
# Handles that are counted

A scripted source counts what it hands out and what is closed.  Whether a handle
is closed is kept with what it stands for, and so a close that is repeated is not
counted again.

* `Counted` — the counters of one sort of handles agree with the handles opened
  and closed;
* `Counted.handOut`, `Counted.work` — they still do after a call;
* `Counted.closed_le_opened` — no more are closed than were opened.
-/

namespace SqlAccess.Scripted

/-- The tally of one sort of handles, and what is remembered of each handle:
that it was closed, or that it was not. -/
structure Counted (opened closed : List Nat) (tally : Tally) (isClosed? : Nat → Option Bool) :
    Prop where
  length_opened : tally.opened = opened.length
  length_closed : tally.closed = closed.dedup.length
  nodup : opened.Nodup
  subset : closed ⊆ opened
  known : ∀ h, isClosed? h = if h ∈ opened then some (decide (h ∈ closed)) else none

namespace Counted

variable {opened closed closed' : List Nat} {tally tally' : Tally}
  {known known' : Nat → Option Bool} {h : Nat} {was is : Bool}

/-- At most as many were closed as were opened. -/
theorem closed_le_opened (hc : Counted opened closed tally known) :
    tally.closed ≤ tally.opened := by
  rw [hc.length_opened, hc.length_closed]
  apply List.Subperm.length_le
  apply List.subperm_of_subset (List.nodup_dedup closed)
  intro h hmem
  exact hc.subset (List.mem_dedup.mp hmem)

theorem congr (hc : Counted opened closed tally known) (hknown : ∀ k, known' k = known k) :
    Counted opened closed tally known' := by
  rwa [funext hknown]

/-- A handle that was not known before is opened. -/
theorem handOut (hc : Counted opened closed tally known) (hnew : known h = none)
    (hknown : ∀ k, known' k = if k = h then some false else known k) :
    Counted (h :: opened) closed { tally with opened := tally.opened + 1 } known' := by
  have hfresh : h ∉ opened := by
    intro hmem
    rw [hc.known, if_pos hmem] at hnew
    cases hnew
  constructor
  case length_opened => simp [hc.length_opened]
  case length_closed => exact hc.length_closed
  case nodup => exact List.nodup_cons.mpr ⟨hfresh, hc.nodup⟩
  case subset => exact List.subset_cons_of_subset h hc.subset
  case known =>
    intro k
    rw [hknown]
    by_cases hk : k = h
    · have hopen : h ∉ closed := fun hmem => hfresh (hc.subset hmem)
      simp [hk, hopen]
    · simp [hk, hc.known]

/-- Work with a handle closes it, once more perhaps, or leaves it as it was. -/
theorem work (hc : Counted opened closed tally known) (hwas : known h = some was)
    (hknown : ∀ k, known' k = if k = h then some is else known k)
    (hopened : tally'.opened = tally.opened)
    (hclosed : tally'.closed + was.toNat = tally.closed + is.toNat)
    (hdone : is = was ∧ closed' = closed ∨ is = true ∧ closed' = h :: closed) :
    Counted opened closed' tally' known' := by
  have hold : h ∈ opened ∧ decide (h ∈ closed) = was := by
    rw [hc.known] at hwas
    split at hwas
    · rename_i hmem
      exact ⟨hmem, Option.some.inj hwas⟩
    · cases hwas
  obtain ⟨hmem, hbefore⟩ := hold
  rcases hdone with ⟨rfl, rfl⟩ | ⟨rfl, rfl⟩
  · constructor
    case length_opened => rw [hopened, hc.length_opened]
    case length_closed =>
      rw [← hc.length_closed]
      omega
    case nodup => exact hc.nodup
    case subset => exact hc.subset
    case known =>
      intro k
      rw [hknown, ← hc.known]
      split
      · rename_i hk
        rw [hk, hwas]
      · rfl
  · constructor
    case length_opened => rw [hopened, hc.length_opened]
    case length_closed =>
      rw [hc.length_closed] at hclosed
      by_cases hagain : h ∈ closed
      · simp only [← hbefore, hagain, decide_true, Bool.toNat_true] at hclosed
        rw [List.dedup_cons_of_mem hagain]
        omega
      · simp only [← hbefore, hagain, decide_false, Bool.toNat_false, Bool.toNat_true] at hclosed
        rw [List.dedup_cons_of_notMem hagain, List.length_cons]
        omega
    case nodup => exact hc.nodup
    case subset => exact List.cons_subset.mpr ⟨hmem, hc.subset⟩
    case known =>
      intro k
      rw [hknown, hc.known]
      by_cases hk : k = h
      · simp [hk, hmem]
      · simp [hk]

end Counted

/-! ## What is handed out -/

theorem getElem?_handedOut {α : Type} (items : List α) (item : α) (k : Nat) :
    (items ++ [item])[k]? = if k = items.length then some item else items[k]? := by
  by_cases hk : k = items.length
  · simp [hk]
  · by_cases hlt : k < items.length
    · simp [hk, List.getElem?_append_left hlt]
    · rw [if_neg hk, List.getElem?_eq_none (by simp; omega), List.getElem?_eq_none (by omega)]

theorem getElem?_worked {α : Type} {items : List α} {h : Nat} {old : α}
    (hold : items[h]? = some old) (item : α) (k : Nat) :
    (items.set h item)[k]? = if k = h then some item else items[k]? := by
  obtain ⟨hlt, _⟩ := List.getElem?_eq_some_iff.mp hold
  rw [List.getElem?_set]
  by_cases hk : k = h
  · simp [hk, hlt]
  · simp [hk, Ne.symm hk]

namespace Counted

variable {opened closed closed' : List Nat} {tally tally' : Tally} {h : Nat} {was is : Bool}
  {items : List (Held source)} {old item : Held source} {isClosed? : Held source → Option Bool}

/-- An item of the sort is handed out. -/
theorem handOut_item (hc : Counted opened closed tally fun k => items[k]?.bind isClosed?)
    (hitem : isClosed? item = some false) :
    Counted (items.length :: opened) closed { tally with opened := tally.opened + 1 }
      fun k => (items ++ [item])[k]?.bind isClosed? := by
  apply hc.handOut
  · simp
  · intro k
    rw [getElem?_handedOut, ← hitem]
    split <;> rfl

/-- An item of another sort is handed out. -/
theorem handOut_other (hc : Counted opened closed tally fun k => items[k]?.bind isClosed?)
    (hitem : isClosed? item = none) :
    Counted opened closed tally fun k => (items ++ [item])[k]?.bind isClosed? := by
  apply hc.congr
  intro k
  rw [getElem?_handedOut]
  split
  · rename_i hk
    simp [hk, hitem]
  · rfl

/-- Work with an item of the sort. -/
theorem work_item (hc : Counted opened closed tally fun k => items[k]?.bind isClosed?)
    (hold : items[h]? = some old) (hwas : isClosed? old = some was) (his : isClosed? item = some is)
    (hopened : tally'.opened = tally.opened)
    (hclosed : tally'.closed + was.toNat = tally.closed + is.toNat)
    (hdone : is = was ∧ closed' = closed ∨ is = true ∧ closed' = h :: closed) :
    Counted opened closed' tally' fun k => (items.set h item)[k]?.bind isClosed? := by
  refine hc.work (h := h) ?_ ?_ hopened hclosed hdone
  · simp [hold, hwas]
  · intro k
    rw [getElem?_worked hold, ← his]
    split <;> rfl

/-- Work with an item of another sort. -/
theorem work_other (hc : Counted opened closed tally fun k => items[k]?.bind isClosed?)
    (hold : items[h]? = some old) (hwas : isClosed? old = none) (his : isClosed? item = none) :
    Counted opened closed tally fun k => (items.set h item)[k]?.bind isClosed? := by
  apply hc.congr
  intro k
  rw [getElem?_worked hold]
  split
  · rename_i hk
    simp [hk, hold, hwas, his]
  · rfl

end Counted

end SqlAccess.Scripted
