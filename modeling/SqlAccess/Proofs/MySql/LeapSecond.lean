import SqlAccess.Proofs.Calendar.LeapSecond
import SqlAccess.Proofs.MySql.RoundTrip

/-!
# Leap seconds on their way to the server

There are three ways to send a timestamp in a leap second.  Without a declared type, and
after it was fetched as a date-time, it goes by its UTC reading, which lies in the leap
second as well.  Under the type of timestamps it goes by the reading of its own clock, from
which the offset is then taken away as a span of time, and that leaves the leap second: a
clock behind UTC comes to the second before it, and a clock ahead to the second after it.
Only a clock that shows UTC sends the leap second itself.

* `utcReading_of_behind` and `utcReading_of_ahead` — what is taken for the UTC reading;
* `isLeapSecond_eq_of_ofDateTime_eq` — the server can tell a leap second;
* `leap_seconds_sent_alike_iff` — **when the ways agree, and what they send**;
* `leap_second_sent_differently` — a leap second that is sent as three seconds.
-/

namespace SqlAccess.MySql.Datum

/-! ## The UTC reading of a clock in a leap second -/

variable {t : OffsetDateTime}

theorem utcReading_of_utc (h : t.offset.seconds = 0) : utcReading t.wallClock t.offset = t.utc := by
  have hself : t.wallClock = t.utc := by
    have hwall := t.shift?_utc
    rw [h, DateTime.shift?_zero] at hwall
    exact (Option.some.inj hwall).symm
  rw [utcReading, h, Int.neg_zero, DateTime.advance?_zero, Option.getD_some, hself]

/-- A clock behind UTC comes to the second before the leap second. -/
theorem utcReading_of_behind (hleap : t.wallClock.time.isLeapSecond = true)
    (h : t.offset.seconds < 0) : utcReading t.wallClock t.offset = t.utc.beforeLeap := by
  rw [utcReading, DateTime.advance?_forward hleap (by omega),
    DateTime.shift?_beforeLeap t.shift?_wallClock, Option.getD_some]

/-- A clock ahead of UTC comes to the second after the leap second. -/
theorem utcReading_of_ahead (hleap : t.wallClock.time.isLeapSecond = true)
    (h : 0 < t.offset.seconds) :
    t.utc.beforeLeap.shift? 1 = some (utcReading t.wallClock t.offset) := by
  have hday := t.offset.within_day
  have hbetween : -t.offset.seconds ≤ 1 + -t.offset.seconds := by omega
  obtain ⟨after, hafter⟩ := DateTime.exists_shift?_between
    (DateTime.shift?_beforeLeap t.shift?_wallClock) hbetween (by omega)
  -- From UTC to the own clock, and from there back by a second less.
  have hback : -(secondsPerDay : Int) < 1 + -t.offset.seconds ∧
      1 + -t.offset.seconds < secondsPerDay := by
    unfold secondsPerDay at hday ⊢
    omega
  have hsum : t.offset.seconds + (1 + -t.offset.seconds) = 1 := by omega
  have hlater := DateTime.shift?_add hday hback (by rw [hsum]; decide)
    (DateTime.shift?_beforeLeap t.shift?_utc) hafter
  rw [hsum] at hlater
  rw [utcReading, DateTime.advance?_back hleap (by omega), hafter, Option.getD_some, hlater]

/-! ## What is sent -/

/-- **The server can tell a leap second**: it has a million microseconds or more. -/
theorem isLeapSecond_eq_of_ofDateTime_eq {dt dt' : DateTime} (h : ofDateTime dt = ofDateTime dt') :
    dt.time.isLeapSecond = dt'.time.isLeapSecond := by
  have hmicros : micros dt.time = micros dt'.time := by
    simp only [ofDateTime, date.injEq] at h
    exact h.2.2.2.2.2.2
  have hnano := congrArg UInt32.toNat hmicros
  rw [toNat_micros, toNat_micros] at hnano
  have hiff : nanosPerSecond ≤ dt.time.nanosecond ↔ nanosPerSecond ≤ dt'.time.nanosecond := by
    unfold nanosPerSecond
    omega
  exact decide_eq_decide.mpr hiff

/-- A clock other than UTC's sends another second than the leap second. -/
theorem isLeapSecond_utcReading (hleap : t.wallClock.time.isLeapSecond = true)
    (h : t.offset.seconds ≠ 0) : (utcReading t.wallClock t.offset).time.isLeapSecond = false := by
  by_cases hbehind : t.offset.seconds < 0
  · rw [utcReading_of_behind hleap hbehind]
    exact t.utc.isLeapSecond_beforeLeap
  · have hahead := utcReading_of_ahead hleap (by omega)
    rw [Time.isLeapSecond, DateTime.nanosecond_of_shift? hahead]
    exact t.utc.isLeapSecond_beforeLeap

/-- **When a leap second is sent the same on all ways, and what is sent.**  Without a type,
and fetched as a date-time before, the UTC reading is sent.  Under the type of timestamps
the same is sent just if the clock shows UTC.  Else it is the reading of the second before
the leap second from a clock behind UTC, and of the second after it from a clock ahead. -/
theorem leap_seconds_sent_alike_iff (hleap : t.wallClock.time.isLeapSecond = true) :
    let v := Value.dateTimeTz t
    let tagged := ofParameter (.ofTyped .timestamp v)
    (∃ w, v.coerce .dateTime = .ok w ∧ ofValue w = ofValue v) ∧
      ofParameter (.ofUntyped v) = ofValue v ∧
      (tagged = ofValue v ↔ t.offset.seconds = 0) ∧
      (t.offset.seconds < 0 → tagged = ofDateTime t.utc.beforeLeap) ∧
      (0 < t.offset.seconds →
        ∃ after, t.utc.beforeLeap.shift? 1 = some after ∧ tagged = ofDateTime after) := by
  intro v tagged
  have htagged : tagged = ofDateTime (utcReading t.wallClock t.offset) := rfl
  have huntyped : ofValue v = ofDateTime t.utc := rfl
  have hutc : t.utc.time.isLeapSecond = true := by
    rw [Time.isLeapSecond, ← DateTime.nanosecond_of_shift? t.shift?_utc]
    exact hleap
  refine ⟨⟨.dateTime t.utc, rfl, rfl⟩, rfl, ?_, ?_, ?_⟩
  · rw [htagged, huntyped]
    constructor
    · intro hsame
      by_contra hoffset
      have hleap' := isLeapSecond_eq_of_ofDateTime_eq hsame
      rw [isLeapSecond_utcReading hleap hoffset, hutc] at hleap'
      exact Bool.false_ne_true hleap'
    · intro hoffset
      rw [utcReading_of_utc hoffset]
  · intro hbehind
    rw [htagged, utcReading_of_behind hleap hbehind]
  · intro hahead
    exact ⟨_, utcReading_of_ahead hleap hahead, htagged⟩

/-- The last leap second of 2016, from a clock five hours behind UTC and from one that is
an hour ahead and shows the new year already. -/
theorem leap_second_sent_by_two_clocks :
    let leap : DateTime := ⟨⟨2016, 12, 31, by decide⟩,
      ⟨23, 59, 59, 1500000000, by decide, by decide, by decide, by decide⟩⟩
    let behind : OffsetDateTime := ⟨leap, ⟨-18000, by decide, by decide⟩, by decide⟩
    let ahead : OffsetDateTime := ⟨leap, ⟨3600, by decide, by decide⟩, by decide⟩
    (behind.wallClock.time.isLeapSecond = true ∧
      ofParameter (.ofTyped .timestamp (.dateTimeTz behind)) = ofDateTime leap.beforeLeap) ∧
    (ahead.wallClock.time.isLeapSecond = true ∧
      ofParameter (.ofTyped .timestamp (.dateTimeTz ahead)) ≠ ofValue (.dateTimeTz ahead) ∧
      ∃ after, leap.beforeLeap.shift? 1 = some after ∧
        ofParameter (.ofTyped .timestamp (.dateTimeTz ahead)) = ofDateTime after) := by
  intro leap behind ahead
  have hbehind : behind.wallClock.time.isLeapSecond = true := by decide
  have hahead : ahead.wallClock.time.isLeapSecond = true := by decide
  obtain ⟨-, -, -, hbefore, -⟩ := leap_seconds_sent_alike_iff hbehind
  obtain ⟨-, -, hiff, -, hafter⟩ := leap_seconds_sent_alike_iff hahead
  refine ⟨⟨hbehind, hbefore (by decide)⟩, hahead, ?_, hafter (by decide)⟩
  intro hsame
  exact absurd (hiff.mp hsame) (by decide)

/-- A leap second before midnight is sent half a second after midnight by a clock that is
ahead, and a second too early by one that is behind, if the type is told; else it is sent
as it is. -/
theorem leap_second_sent_differently :
    let leap : DateTime := ⟨⟨2016, 12, 31, by decide⟩,
      ⟨23, 59, 59, 1500000000, by decide, by decide, by decide, by decide⟩⟩
    let ahead := Value.dateTimeTz ⟨leap, ⟨3600, by decide, by decide⟩, by decide⟩
    let behind := Value.dateTimeTz ⟨leap, ⟨-18000, by decide, by decide⟩, by decide⟩
    ofParameter (.ofTyped .timestamp ahead) = .date 2017 1 1 0 0 0 500000 ∧
      ofParameter (.ofTyped .timestamp behind) = .date 2016 12 31 23 59 59 500000 ∧
      (∀ v ∈ [ahead, behind], v.coerce .dateTime = .ok (.dateTime leap) ∧
        ofValue v = ofValue (.dateTime leap)) ∧
      ofValue (.dateTime leap) = .date 2016 12 31 23 59 59 1500000 := by
  intro leap ahead behind
  refine ⟨by decide +kernel, by decide +kernel, ?_, by decide +kernel⟩
  intro v hv
  simp only [List.mem_cons, List.not_mem_nil, or_false] at hv
  rcases hv with rfl | rfl
  · exact ⟨rfl, rfl⟩
  · exact ⟨rfl, rfl⟩

end SqlAccess.MySql.Datum
