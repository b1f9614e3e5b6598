import Mathlib.Data.List.Basic
import SqlAccess.Statement.Inputs

/-!
# What is bound

The slots and the batch of a prepared statement are what the calls made on it
left there.  This file says what that is, from the calls alone: a placeholder
has the value it was given last since the values were last taken or cleared,
and the batch has the entries added since it was last executed.

Histories of calls are kept with the latest call first, so that what a call
leaves is said by one step of a recursion.

* `Slots.missing?` and `Slots.valuesOf` — the first placeholder without a
  value, and the values of all of them;
* `Inputs.lastBound` and `Inputs.entries` — what a history leaves;
* `Inputs.after_ofHistory` — **one more call leaves what the longer history
  does**, for every form in which a driver keeps its entries;
* `Inputs.take_ofHistory` — taking gives the values last bound, or refuses.
-/

namespace SqlAccess

namespace Slots

variable {n : Nat} {bound : Nat → Option Parameter}

/-- The value of a slot, counted from 1. -/
def valueAt? (s : Slots) : Nat → Option Parameter
  | 0 => none
  | i + 1 => s.values[i]?.join

/-- So many slots with the given values. -/
def ofBound (n : Nat) (bound : Nat → Option Parameter) : Slots := ⟨(List.range' 1 n).map bound⟩

/-- The first of the placeholders `1` to `n` that has no value. -/
def missing? (n : Nat) (bound : Nat → Option Parameter) : Option Nat :=
  (List.range' 1 n).find? fun i => (bound i).isNone

/-- The values of the placeholders `1` to `n`, in their order. -/
def valuesOf (n : Nat) (bound : Nat → Option Parameter) : List Parameter :=
  (List.range' 1 n).filterMap bound

@[simp] theorem count_ofBound : (ofBound n bound).count = n := by
  simp [count, ofBound]

theorem ofBound_none : ofBound n (fun _ => none) = ofCount n := by
  simp [ofBound, ofCount, List.map_const']

theorem valueAt?_ofBound (i : Nat) :
    (ofBound n bound).valueAt? i = if 1 ≤ i ∧ i ≤ n then bound i else none := by
  cases i with
  | zero => rfl
  | succ i =>
      by_cases h : i < n
      · have hin : 1 ≤ i + 1 ∧ i + 1 ≤ n := by omega
        simp [valueAt?, ofBound, h, hin, Nat.add_comm]
      · have hout : ¬ i + 1 ≤ n := by omega
        simp [valueAt?, ofBound, h, hout]

/-- A placeholder that there is takes the value, whatever it had before. -/
theorem bind_ofBound {i : Nat} (h : 1 ≤ i ∧ i ≤ n) (p : Parameter) :
    (ofBound n bound).bind i p =
      .ok (ofBound n fun j => if j = i then some p else bound j) := by
  have hrange : ¬ (i = 0 ∨ n < i) := by omega
  rw [bind, count_ofBound, if_neg hrange]
  congr 2
  apply List.ext_getElem
  · simp [ofBound]
  · intro k hk _
    have hindex : i - 1 = k ↔ 1 + 1 * k = i := by omega
    simp only [ofBound, List.getElem_set, List.getElem_map, List.getElem_range', hindex]

/-- A placeholder that there is not is refused. -/
theorem bind_ofBound_of_not {i : Nat} (h : ¬ (1 ≤ i ∧ i ≤ n)) (p : Parameter) :
    (ofBound n bound).bind i p = .error (.indexOutOfRange i n) := by
  have hrange : i = 0 ∨ n < i := by omega
  rw [bind, count_ofBound, if_pos hrange]

/-- The slots from one on are collected up to the first empty one. -/
theorem collectFrom_map (bound : Nat → Option Parameter) (start n : Nat) :
    collectFrom start ((List.range' start n).map bound) =
      match (List.range' start n).find? fun i => (bound i).isNone with
      | some i => .error i
      | none => .ok ((List.range' start n).filterMap bound) := by
  induction n generalizing start with
  | zero => rfl
  | succ n ih =>
      rw [List.range'_succ, List.map_cons]
      cases hb : bound start with
      | none => simp [collectFrom, hb]
      | some p =>
          simp only [collectFrom, ih, List.find?_cons, hb, Option.isNone_some, List.filterMap_cons]
          cases (List.range' (start + 1) n).find? fun i => (bound i).isNone <;> rfl

/-- While a placeholder has no value, nothing is taken. -/
theorem take_ofBound_of_missing {i : Nat} (h : missing? n bound = some i) :
    (ofBound n bound).take = (.error (.noValueFor i), ofBound n bound) := by
  have hcollect := collectFrom_map bound 1 n
  rw [show (List.range' 1 n).find? (fun i => (bound i).isNone) = some i from h] at hcollect
  rw [take, ofBound, hcollect]

/-- If every placeholder has a value, all are taken. -/
theorem take_ofBound (h : missing? n bound = none) :
    (ofBound n bound).take = (.ok (valuesOf n bound), ofCount n) := by
  have hcollect := collectFrom_map bound 1 n
  rw [show (List.range' 1 n).find? (fun i => (bound i).isNone) = none from h] at hcollect
  rw [take, ofBound, hcollect]
  simp [valuesOf, clear, count]

theorem isSome_of_missing?_none (h : missing? n bound = none) {i : Nat} (hi : 1 ≤ i ∧ i ≤ n) :
    (bound i).isSome = true := by
  have hall := List.find?_eq_none.mp h i (List.mem_range'_1.mpr (by omega))
  simpa [Option.isSome_iff_ne_none] using hall

/-- The placeholder that is missing has no value, and all before it have one. -/
theorem missing?_eq_some {i : Nat} (h : missing? n bound = some i) :
    (1 ≤ i ∧ i ≤ n) ∧ bound i = none ∧ ∀ j, 1 ≤ j → j < i → (bound j).isSome = true := by
  obtain ⟨hnone, hmem, hbefore⟩ := List.find?_range'_eq_some.mp h
  have hrange := List.mem_range'_1.mp hmem
  refine ⟨by omega, by simpa using hnone, fun j hj hlt => ?_⟩
  simpa [Option.isSome_iff_ne_none] using hbefore j hj hlt

/-- If none is missing there is one value for each placeholder. -/
theorem map_some_valuesOf (h : missing? n bound = none) :
    (valuesOf n bound).map some = (List.range' 1 n).map bound := by
  rw [valuesOf, List.map_filterMap, ← List.filterMap_eq_map]
  apply List.filterMap_congr
  intro i hi
  have hrange := List.mem_range'_1.mp hi
  obtain ⟨p, hp⟩ := Option.isSome_iff_exists.mp (isSome_of_missing?_none h (i := i) (by omega))
  simp [hp]

/-- If none is missing the values are in the order of the placeholders. -/
theorem valuesOf_of_missing?_none (h : missing? n bound = none) :
    (valuesOf n bound).length = n ∧
      ∀ i, 1 ≤ i → i ≤ n → (valuesOf n bound)[i - 1]? = bound i := by
  have hvalues := map_some_valuesOf h
  have hlength : (valuesOf n bound).length = n := by
    simpa using congrArg List.length hvalues
  refine ⟨hlength, fun i hi hn => ?_⟩
  have hat : ((valuesOf n bound).map some)[i - 1]? = some (bound i) := by
    rw [hvalues, List.getElem?_map, List.getElem?_range' (by omega)]
    simp only [Option.map_some]
    congr 2
    omega
  rw [List.getElem?_map, Option.map_eq_some_iff] at hat
  obtain ⟨p, hp, hbound⟩ := hat
  rw [hp, hbound]

end Slots

/-- Whether a call takes the values of all slots, if it is not refused. -/
def PreparedCall.takes : PreparedCall → Bool
  | .binding .addBatch | .query | .update => true
  | _ => false

namespace Inputs

variable {ε : Type} {encode : Parameter → ε} {n : Nat}

/-! ## Histories, latest call first -/

/-- The value that each of `n` placeholders was given last since the values
were last taken or cleared. -/
def lastBound (n : Nat) : List PreparedCall → Nat → Option Parameter
  | [], _ => none
  | .binding (.bind i p) :: earlier, j =>
    if 1 ≤ i ∧ i ≤ n ∧ j = i then some p else lastBound n earlier j
  | .binding .clear :: _, _ => none
  | c :: earlier, j =>
    if c.takes && (Slots.missing? n (lastBound n earlier)).isNone then none
    else lastBound n earlier j

/-- The values that the next call would take. -/
def pending (n : Nat) (calls : List PreparedCall) : List Parameter :=
  Slots.valuesOf n (lastBound n calls)

/-- The first placeholder whose value the next call would miss. -/
def missing? (n : Nat) (calls : List PreparedCall) : Option Nat :=
  Slots.missing? n (lastBound n calls)

/-- The entries added to the batch since it was last executed. -/
def entries (n : Nat) : List PreparedCall → List (List Parameter)
  | [] => []
  | .binding .addBatch :: earlier =>
    match missing? n earlier with
    | none => entries n earlier ++ [pending n earlier]
    | some _ => entries n earlier
  | .batch :: _ => []
  | _ :: earlier => entries n earlier

/-- What a history leaves in the inputs of a statement with `n` placeholders. -/
def ofHistory (encode : Parameter → ε) (n : Nat) (calls : List PreparedCall) : Inputs ε where
  slots := .ofBound n (lastBound n calls)
  batch := (entries n calls).map (List.map encode)

/-- What a call on a prepared statement does to its inputs. -/
def after (encode : Parameter → ε) : PreparedCall → Inputs ε → Inputs ε
  | .binding c, i => (i.answer encode false "" c).2
  | .query, i | .update, i => (i.take encode).2
  | .batch, i => i.takeBatch.2
  | .generatedKeys, i | .close, i => i

/-- A taking is refused and changes nothing, or it leaves the slots empty. -/
theorem take_cases (encode : Parameter → ε) (i : Inputs ε) :
    (∃ e, i.take encode = (.error e, i)) ∨
      ∃ ps, i.take encode = (.ok ps, { i with slots := i.slots.clear }) := by
  obtain ⟨slots, batch⟩ := i
  simp only [take, Slots.take]
  cases Slots.collectFrom 1 slots.values with
  | ok ps => exact Or.inr ⟨ps.map encode, rfl⟩
  | error index => exact Or.inl ⟨.noValueFor index, rfl⟩

theorem take_of_error {i : Inputs ε} {e : SqlError} (h : (i.take encode).1 = .error e) :
    i.take encode = (.error e, i) := by
  rcases i.take_cases encode with ⟨e', h'⟩ | ⟨ps, h'⟩
  · rw [h'] at h
    rw [h', ← h]
  · rw [h'] at h
    cases h

/-- What a history leaves is taken as a whole, unless something is missing. -/
theorem take_ofHistory (calls : List PreparedCall) :
    (ofHistory encode n calls).take encode =
      match missing? n calls with
      | some i => (.error (.noValueFor i), ofHistory encode n calls)
      | none =>
        (.ok ((pending n calls).map encode),
          { ofHistory encode n calls with slots := .ofCount n }) := by
  cases h : missing? n calls with
  | none => simp only [take, ofHistory, Slots.take_ofBound h]; rfl
  | some i => simp only [take, ofHistory, Slots.take_ofBound_of_missing h]; rfl

theorem ofHistory_nil : ofHistory encode n [] = ofCount n := by
  simp only [ofHistory, ofCount, entries, List.map_nil]
  rw [← Slots.ofBound_none]
  rfl

/-- A call that takes the values leaves none, unless it is refused. -/
theorem slots_of_takes {c : PreparedCall} (hc : c.takes = true) (calls : List PreparedCall) :
    Slots.ofBound n (lastBound n (c :: calls)) =
      match missing? n calls with
      | some _ => Slots.ofBound n (lastBound n calls)
      | none => Slots.ofCount n := by
  have hbound : lastBound n (c :: calls) =
      fun j => if (missing? n calls).isNone then none else lastBound n calls j := by
    funext j
    have hstep : lastBound n (c :: calls) j =
        if c.takes && (missing? n calls).isNone then none else lastBound n calls j := by
      cases c with
      | binding c =>
          cases c with
          | addBatch => rfl
          | _ => cases hc
      | query | update => rfl
      | _ => cases hc
    rw [hstep, hc, Bool.true_and]
  rw [hbound]
  cases missing? n calls with
  | none => exact Slots.ofBound_none
  | some i => rfl

/-- **One more call leaves what the longer history does.** -/
theorem after_ofHistory (c : PreparedCall) (calls : List PreparedCall) :
    (ofHistory encode n calls).after encode c = ofHistory encode n (c :: calls) := by
  have htake : (ofHistory encode n calls).take encode = _ := take_ofHistory calls
  have hslots := fun hc : c.takes = true => slots_of_takes (n := n) hc calls
  cases c with
  | binding c =>
      cases c with
      | bind i p =>
          by_cases h : 1 ≤ i ∧ i ≤ n
          · have hslots : (fun j => if j = i then some p else lastBound n calls j) =
                lastBound n (.binding (.bind i p) :: calls) := by
              funext j
              simp only [lastBound, h, true_and]
            simp only [after, answer, ofHistory, Slots.bind_ofBound h, hslots]
            rfl
          · have hslots : lastBound n (.binding (.bind i p) :: calls) = lastBound n calls := by
              funext j
              rw [lastBound, if_neg (fun hin => h ⟨hin.1, hin.2.1⟩)]
            simp only [after, answer, ofHistory, Slots.bind_ofBound_of_not h, hslots]
            rfl
      | clear =>
          simp only [after, answer, ofHistory, Slots.clear, Slots.count_ofBound]
          rw [← Slots.ofBound_none]
          rfl
      | addBatch =>
          simp only [after, answer, htake]
          simp only [ofHistory, entries, hslots rfl]
          cases missing? n calls with
          | none => simp
          | some i => rfl
      | supportsBatch => rfl
      | sql => rfl
  | query =>
      simp only [after, htake]
      simp only [ofHistory, hslots rfl]
      cases missing? n calls <;> rfl
  | update =>
      simp only [after, htake]
      simp only [ofHistory, hslots rfl]
      cases missing? n calls <;> rfl
  | batch => rfl
  | generatedKeys => rfl
  | close => rfl

end Inputs

end SqlAccess
