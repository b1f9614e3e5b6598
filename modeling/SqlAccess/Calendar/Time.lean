/-!
# Times of day

A time has a precision of a nanosecond.  A leap second is written as the
second it follows with a nanosecond count of `10 ^ 9` or more.

* `Time` — the type;
* `Time.secondOfDay` and `Time.ofSecondOfDay` — whole seconds since midnight.
-/

namespace SqlAccess

/-- Nanoseconds of a second. -/
def nanosPerSecond : Nat := 1000000000

/-- Seconds of a day. -/
def secondsPerDay : Nat := 86400

/-- A time of day. -/
structure Time where
  hour : Nat
  minute : Nat
  second : Nat
  nanosecond : Nat
  hour_lt : hour < 24
  minute_lt : minute < 60
  second_lt : second < 60
  nanosecond_lt : nanosecond < 2000000000
  deriving DecidableEq

namespace Time

/-- Midnight. -/
def midnight : Time := ⟨0, 0, 0, 0, by decide, by decide, by decide, by decide⟩

/-- The time with the given parts.  A leap second is one only at the end of a
minute. -/
def make? (hour minute second nanosecond : Nat) : Option Time :=
  if h : hour < 24 ∧ minute < 60 ∧ second < 60 ∧ nanosecond < 2000000000 then
    if nanosecond < nanosPerSecond ∨ second = 59 then
      some ⟨hour, minute, second, nanosecond, h.1, h.2.1, h.2.2.1, h.2.2.2⟩
    else none
  else none

/-- Whether a time lies in a leap second. -/
def isLeapSecond (t : Time) : Bool := decide (nanosPerSecond ≤ t.nanosecond)

/-- Whole seconds since midnight, a leap second counting as the one before. -/
def secondOfDay (t : Time) : Nat := 3600 * t.hour + 60 * t.minute + t.second

/-- The time so many seconds after midnight, days left out. -/
def ofSecondOfDay (seconds nanosecond : Nat) (h : nanosecond < 2000000000) : Time :=
  ⟨seconds / 3600 % 24, seconds / 60 % 60, seconds % 60, nanosecond,
    by omega, by omega, by omega, h⟩

end Time

end SqlAccess
