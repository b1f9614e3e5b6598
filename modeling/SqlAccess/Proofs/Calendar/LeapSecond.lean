import SqlAccess.Proofs.Calendar.Shift

/-!
# Spans of time from inside a leap second

A leap second is the same second on every clock, so a change of clocks keeps it.  A span
of time on one clock leaves it: forward the count goes on from its end, and back it goes
from the second after it.  Both can be told by a change of clocks from the reading a second
before, which lies in no leap second.

* `DateTime.withNanosecond` and `shift?_withNanosecond` — clocks and parts of a second;
* `DateTime.beforeLeap` and `shift?_beforeLeap` — the reading a second before;
* `exists_shift?_between` — a clock between two clocks;
* `advance?_forward` and `advance?_back` — **spans of time as changes of clocks**.
-/

namespace SqlAccess

namespace DateTime

/-- The reading with so many nanoseconds of its second gone. -/
def withNanosecond (dt : DateTime) (n : Nat) (hn : n < 2000000000) : DateTime :=
  ⟨dt.date, { dt.time with nanosecond := n, nanosecond_lt := hn }⟩

/-- A change of clocks is known from whole seconds; the nanoseconds go with them. -/
theorem shift?_withNanosecond_eq (dt : DateTime) (s : Int) {n : Nat} (hn : n < 2000000000) :
    (dt.withNanosecond n hn).shift? s =
      ofSeconds? dt.date (dt.time.secondOfDay + s) n hn := rfl

/-- Clocks stay whole seconds apart, however many nanoseconds are gone. -/
theorem shift?_withNanosecond (dt : DateTime) (s : Int) {n : Nat} (hn : n < 2000000000) :
    (dt.withNanosecond n hn).shift? s = (dt.shift? s).map fun wall => wall.withNanosecond n hn := by
  rw [shift?, shift?, ofSeconds?, ofSeconds?, Option.map_map]
  rfl

theorem nanosecond_sub_lt (dt : DateTime) : dt.time.nanosecond - nanosPerSecond < 2000000000 :=
  Nat.lt_of_le_of_lt (Nat.sub_le _ _) dt.time.nanosecond_lt

/-- The reading a second before one in a leap second, as far into the second that the leap
second follows. -/
def beforeLeap (dt : DateTime) : DateTime :=
  dt.withNanosecond (dt.time.nanosecond - nanosPerSecond) dt.nanosecond_sub_lt

/-- A second before a leap second is none. -/
theorem isLeapSecond_beforeLeap (dt : DateTime) : dt.beforeLeap.time.isLeapSecond = false := by
  have hlt := dt.time.nanosecond_lt
  rw [Time.isLeapSecond, beforeLeap, withNanosecond, decide_eq_false_iff_not]
  simp only [nanosPerSecond]
  omega

/-- Another clock shows the second before where it shows the leap second. -/
theorem shift?_beforeLeap {dt wall : DateTime} {s : Int} (h : dt.shift? s = some wall) :
    dt.beforeLeap.shift? s = some wall.beforeLeap := by
  rw [beforeLeap, shift?_withNanosecond, h, Option.map_some]
  simp only [beforeLeap, nanosecond_of_shift? h]

/-- A clock between this one and one behind it shows something if that one does. -/
theorem exists_shift?_between {dt wall : DateTime} {s s' : Int} (h : dt.shift? s = some wall)
    (hlow : s ≤ s') (hhigh : s' ≤ 0) : ∃ wall', dt.shift? s' = some wall' := by
  obtain ⟨date, hdate, -⟩ := Option.map_eq_some_iff.mp h
  have htime := dt.time.secondOfDay_lt
  by_cases hday : (dt.time.secondOfDay : Int) + s' < 0
  · -- Both are on the day before.
    rw [if_pos (by omega)] at hdate
    refine ⟨_, Option.map_eq_some_iff.mpr ⟨date, ?_, rfl⟩⟩
    rw [if_pos hday, hdate]
  · refine ⟨_, Option.map_eq_some_iff.mpr ⟨dt.date, ?_, rfl⟩⟩
    rw [if_neg hday, if_pos (by omega)]

variable {dt : DateTime} {s : Int}

theorem advance?_zero (dt : DateTime) : dt.advance? 0 = some dt := by
  rw [advance?, if_neg (fun hboth => hboth.2 rfl), shift?_zero]

/-- Going forward from a leap second counts on from its end, as from a second before. -/
theorem advance?_forward (hleap : dt.time.isLeapSecond = true) (hs : 0 < s) :
    dt.advance? s = dt.beforeLeap.shift? s := by
  have hnonneg : ¬ s < 0 := by omega
  have hcond : dt.time.isLeapSecond = true ∧ s ≠ 0 := ⟨hleap, by omega⟩
  rw [advance?, if_pos hcond, if_neg hnonneg, Nat.add_zero, beforeLeap, shift?_withNanosecond_eq]

/-- Going back from a leap second takes it for the second after, so a second less is gone
back from the second before. -/
theorem advance?_back (hleap : dt.time.isLeapSecond = true) (hs : s < 0) :
    dt.advance? s = dt.beforeLeap.shift? (1 + s) := by
  have hcond : dt.time.isLeapSecond = true ∧ s ≠ 0 := ⟨hleap, by omega⟩
  have hstart : ((dt.time.secondOfDay + 1 : Nat) : Int) + s = dt.time.secondOfDay + (1 + s) := by
    omega
  rw [advance?, if_pos hcond, if_pos hs, beforeLeap, shift?_withNanosecond_eq, ← hstart]

end DateTime

end SqlAccess
