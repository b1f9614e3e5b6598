import SqlAccess.Calendar.Date
import SqlAccess.Calendar.Time

/-!
# Dates with times

A `DateTime` is a reading of some clock; an `OffsetDateTime` also says how far
that clock is from UTC, and so names an instant.

* `DateTime.shift?` — the same instant on a clock that is ahead by so many
  seconds; a leap second stays one;
* `DateTime.advance?` — the reading of the same clock so many seconds later,
  which leaves a leap second;
* `OffsetDateTime.wallClock` — the reading of its own clock.
-/

namespace SqlAccess

/-- A date and a time of day. -/
structure DateTime where
  date : Date
  time : Time
  deriving DecidableEq

/-- The distance of a clock from UTC in seconds, less than a day, east of UTC
positive. -/
structure Offset where
  seconds : Int
  neg_lt : -86400 < seconds
  lt_day : seconds < 86400
  deriving DecidableEq

namespace Offset

/-- UTC itself. -/
def utc : Offset := ⟨0, by decide, by decide⟩

/-- The offset of so many seconds, if that is less than a day. -/
def make? (seconds : Int) : Option Offset :=
  if h : -86400 < seconds ∧ seconds < 86400 then some ⟨seconds, h.1, h.2⟩ else none

end Offset

namespace DateTime

/-- Midnight at the start of a date. -/
def ofDate (d : Date) : DateTime := ⟨d, .midnight⟩

/-- The date-time `seconds` after the start of a date, which may lie on the
day before or the day after. -/
def ofSeconds? (d : Date) (seconds : Int) (nanosecond : Nat) (h : nanosecond < 2000000000) :
    Option DateTime :=
  let time := Time.ofSecondOfDay (seconds % secondsPerDay).toNat nanosecond h
  let date? :=
    if seconds < 0 then d.previous?
    else if seconds < secondsPerDay then some d
    else d.next?
  date?.map fun date => ⟨date, time⟩

/-- The reading of a clock that is ahead by less than a day, at the same
instant. -/
def shift? (dt : DateTime) (seconds : Int) : Option DateTime :=
  ofSeconds? dt.date (dt.time.secondOfDay + seconds) dt.time.nanosecond dt.time.nanosecond_lt

/-- The reading of the same clock `seconds` later, less than a day away.  From
inside a leap second the count goes on from its end when it goes forward, and
from the second after it when it goes back. -/
def advance? (dt : DateTime) (seconds : Int) : Option DateTime :=
  if dt.time.isLeapSecond ∧ seconds ≠ 0 then
    let start := dt.time.secondOfDay + (if seconds < 0 then 1 else 0)
    ofSeconds? dt.date (start + seconds) (dt.time.nanosecond - nanosPerSecond)
      (by have := dt.time.nanosecond_lt; omega)
  else dt.shift? seconds

end DateTime

/-- An instant, kept as the reading of a UTC clock, with the offset of the
clock it was read from; the reading of that clock is a date-time too. -/
structure OffsetDateTime where
  utc : DateTime
  offset : Offset
  inRange : (utc.shift? offset.seconds).isSome
  deriving DecidableEq

namespace OffsetDateTime

/-- The reading of the clock itself. -/
def wallClock (t : OffsetDateTime) : DateTime :=
  (t.utc.shift? t.offset.seconds).get t.inRange

/-- The instant at which a UTC clock shows the given reading, seen from a
clock with an offset. -/
def ofUtc? (utc : DateTime) (offset : Offset) : Option OffsetDateTime :=
  if h : (utc.shift? offset.seconds).isSome then some ⟨utc, offset, h⟩ else none

/-- The instant at which a clock with an offset shows the given reading. -/
def ofWallClock? (wallClock : DateTime) (offset : Offset) : Option OffsetDateTime :=
  (wallClock.shift? (-offset.seconds)).bind (ofUtc? · offset)

end OffsetDateTime

end SqlAccess
