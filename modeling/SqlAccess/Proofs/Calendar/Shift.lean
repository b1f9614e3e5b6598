import SqlAccess.Calendar.DateTime

/-!
# Clocks there and back

A clock that is ahead shows the same instant with another time of day, often on
another day, month or year.  Going back by the same offset gives the first
reading again, wherever that crosses the end of a day.

* `Date.previous?_of_next?` and `Date.next?_of_previous?` — neighbouring days;
* `DateTime.shift?_neg` — a clock ahead, and back;
* `DateTime.shift?_zero` — a clock that is not ahead;
* `DateTime.shift?_add` — clocks ahead of each other;
* `DateTime.eq_zero_of_shift?_self` — a clock that shows the same is not ahead;
* `DateTime.exists_shift?` — within the years of the calendar every clock has a
  reading.
-/

namespace SqlAccess

/-! ## Neighbouring days -/

namespace Date

/-- A date is the one with its parts. -/
theorem make?_self (d : Date) : make? d.year d.month d.day = some d := dif_pos d.isDate

/-- The parts that a date was made of are its parts. -/
theorem parts_of_make? {year : Int} {month day : Nat} {d : Date}
    (h : make? year month day = some d) : d.year = year ∧ d.month = month ∧ d.day = day := by
  unfold make? at h
  split at h
  · cases h
    exact ⟨rfl, rfl, rfl⟩
  · cases h

theorem make?_eq_none {year : Int} {month day : Nat} (h : ¬ IsDate year month day) :
    make? year month day = none := dif_neg h

/-- A day too many in a month. -/
theorem not_isDate_of_day {year : Int} {month day : Nat} (h : daysInMonth year month < day) :
    ¬ IsDate year month day := fun hdate => absurd hdate.2.2.2 (Nat.not_le_of_lt h)

/-- A month too many in a year. -/
theorem not_isDate_of_month {year : Int} {month day : Nat} (h : 12 < month) :
    ¬ IsDate year month day := fun hdate => absurd hdate.2.1.2 (Nat.not_le_of_lt h)

theorem one_le_daysInMonth (year : Int) (month : Nat) : 1 ≤ daysInMonth year month := by
  unfold daysInMonth
  split
  · split <;> decide
  · split <;> decide

theorem daysInMonth_le (year : Int) (month : Nat) : daysInMonth year month ≤ 31 := by
  unfold daysInMonth
  split
  · split <;> decide
  · split <;> decide

theorem month_le (d : Date) : d.month ≤ 12 := d.isDate.2.1.2

theorem day_le (d : Date) : d.day ≤ 31 :=
  Nat.le_trans d.isDate.2.2.2 (daysInMonth_le d.year d.month)

/-- The day before the day after. -/
theorem previous?_of_next? {d e : Date} (h : d.next? = some e) : e.previous? = some d := by
  have hd := d.isDate
  unfold next? at h
  by_cases hday : IsDate d.year d.month (d.day + 1)
  · -- The month goes on.
    rw [make?, dif_pos hday, Option.some_or] at h
    cases h
    have hprevious : 1 < d.day + 1 := by have := hd.2.2.1; omega
    simp only [previous?, if_pos hprevious, Nat.add_sub_cancel, make?_self]
  · have hlast : d.day = daysInMonth d.year d.month := by
      have hle := hd.2.2.2
      have hnot : ¬ d.day + 1 ≤ daysInMonth d.year d.month := fun hle' =>
        hday ⟨hd.1, hd.2.1, Nat.le_add_left 1 _, hle'⟩
      omega
    rw [make?_eq_none hday, Option.none_or] at h
    by_cases hmonth : IsDate d.year (d.month + 1) 1
    · -- The year goes on with the next month.
      rw [make?, dif_pos hmonth, Option.some_or] at h
      cases h
      have hprevious : 1 < d.month + 1 := by have := hd.2.1.1; omega
      simp only [previous?, Nat.lt_irrefl, if_false, if_pos hprevious, Nat.add_sub_cancel, ← hlast,
        make?_self]
    · -- It was the last day of the year.
      have hdecember : d.month = 12 := by
        have hle := hd.2.1.2
        have hnot : ¬ d.month + 1 ≤ 12 := fun hle' =>
          hmonth ⟨hd.1, ⟨Nat.le_add_left 1 _, hle'⟩, Nat.le_refl 1, one_le_daysInMonth _ _⟩
        omega
      rw [make?_eq_none hmonth, Option.none_or] at h
      obtain ⟨hyear, hone, hfirst⟩ := parts_of_make? h
      unfold previous?
      rw [hyear, hone, hfirst, if_neg (Nat.lt_irrefl 1), if_neg (Nat.lt_irrefl 1),
        Int.add_sub_cancel]
      rw [hdecember] at hlast
      have hself := d.make?_self
      rwa [hdecember, hlast] at hself

/-- The day after the day before. -/
theorem next?_of_previous? {d e : Date} (h : d.previous? = some e) : e.next? = some d := by
  have hd := d.isDate
  have hself := d.make?_self
  unfold previous? at h
  by_cases hday : 1 < d.day
  · rw [if_pos hday] at h
    obtain ⟨hyear, hmonth, hprevious⟩ := parts_of_make? h
    unfold next?
    rw [hyear, hmonth, hprevious, Nat.sub_add_cancel (by omega), hself, Option.some_or]
  · have hfirst : d.day = 1 := by have := hd.2.2.1; omega
    rw [if_neg hday] at h
    rw [hfirst] at hself
    by_cases hmonth : 1 < d.month
    · rw [if_pos hmonth] at h
      obtain ⟨hyear, hprevious, hlast⟩ := parts_of_make? h
      unfold next?
      rw [hyear, hprevious, hlast, make?_eq_none (not_isDate_of_day (Nat.lt_succ_self _)),
        Option.none_or, Nat.sub_add_cancel (by omega), hself, Option.some_or]
    · have hjanuary : d.month = 1 := by have := hd.2.1.1; omega
      rw [if_neg hmonth] at h
      rw [hjanuary] at hself
      obtain ⟨hyear, hprevious, hlast⟩ := parts_of_make? h
      have hday' : ¬ IsDate (d.year - 1) 12 (31 + 1) :=
        not_isDate_of_day (Nat.lt_succ_self 31)
      have hmonth' : ¬ IsDate (d.year - 1) (12 + 1) 1 := not_isDate_of_month (by decide)
      unfold next?
      rw [hyear, hprevious, hlast, make?_eq_none hday', make?_eq_none hmonth', Option.none_or,
        Option.none_or, Int.sub_add_cancel, hself]

end Date

/-! ## Seconds of a day -/

namespace Time

/-- A day has no more seconds. -/
theorem secondOfDay_lt (t : Time) : t.secondOfDay < secondsPerDay := by
  have hhour := t.hour_lt
  have hminute := t.minute_lt
  have hsecond := t.second_lt
  unfold secondOfDay secondsPerDay
  omega

theorem ofSecondOfDay_secondOfDay (t : Time) :
    ofSecondOfDay t.secondOfDay t.nanosecond t.nanosecond_lt = t := by
  obtain ⟨hour, minute, second, nanosecond, hhour, hminute, hsecond, _⟩ := t
  simp only [ofSecondOfDay, secondOfDay, Time.mk.injEq, and_true]
  omega

/-- The time so many seconds after midnight is that late. -/
theorem secondOfDay_ofSecondOfDay {second nanosecond : Nat} (h : nanosecond < 2000000000)
    (hsecond : second < secondsPerDay) :
    (ofSecondOfDay second nanosecond h).secondOfDay = second := by
  simp only [ofSecondOfDay, secondOfDay, secondsPerDay] at hsecond ⊢
  omega

end Time

/-! ## Clocks -/

namespace DateTime

variable {d : Date} {second nanosecond : Nat} {h : nanosecond < 2000000000}

/-- Seconds of the day itself. -/
theorem ofSeconds?_same (hsecond : second < secondsPerDay) :
    ofSeconds? d second nanosecond h = some ⟨d, Time.ofSecondOfDay second nanosecond h⟩ := by
  have hmod : ((second : Int) % secondsPerDay).toNat = second := by
    unfold secondsPerDay at hsecond ⊢
    omega
  unfold ofSeconds?
  rw [if_neg (by omega), if_pos (by omega), hmod]
  rfl

theorem ofSeconds?_previous (hsecond : second < secondsPerDay) :
    ofSeconds? d (second - secondsPerDay) nanosecond h =
      d.previous?.map fun e => ⟨e, Time.ofSecondOfDay second nanosecond h⟩ := by
  have hmod : (((second : Int) - secondsPerDay) % secondsPerDay).toNat = second := by
    unfold secondsPerDay at hsecond ⊢
    omega
  unfold ofSeconds?
  rw [if_pos (by omega), hmod]

theorem ofSeconds?_next (hsecond : second < secondsPerDay) :
    ofSeconds? d (second + secondsPerDay) nanosecond h =
      d.next?.map fun e => ⟨e, Time.ofSecondOfDay second nanosecond h⟩ := by
  have hmod : (((second : Int) + secondsPerDay) % secondsPerDay).toNat = second := by
    unfold secondsPerDay at hsecond ⊢
    omega
  unfold ofSeconds?
  rw [if_neg (by omega), if_neg (by omega), hmod]

/-- Less than a day away from a time of day lies the same day, the day before
or the day after. -/
theorem day_cases {t s : Int} (ht : 0 ≤ t ∧ t < secondsPerDay)
    (hs : -secondsPerDay < s ∧ s < secondsPerDay) :
    ∃ second : Nat, second < secondsPerDay ∧
      (t + s = second ∨ t + s = second - secondsPerDay ∨ t + s = second + secondsPerDay) := by
  refine ⟨((t + s) % secondsPerDay).toNat, ?_, ?_⟩ <;>
    · simp only [secondsPerDay] at ht hs ⊢
      omega

/-- The shift of a date and a time that is known by its seconds. -/
theorem shift?_mk (hsecond : second < secondsPerDay) (s : Int) :
    (DateTime.mk d (Time.ofSecondOfDay second nanosecond h)).shift? s =
      ofSeconds? d (second + s) nanosecond h := by
  unfold shift?
  rw [Time.secondOfDay_ofSecondOfDay h hsecond]
  rfl

/-- **A clock that is ahead, seen from a clock that is as much behind, shows the
first reading again.** -/
theorem shift?_neg {dt wall : DateTime} {s : Int} (hs : -secondsPerDay < s ∧ s < secondsPerDay)
    (hwall : dt.shift? s = some wall) : wall.shift? (-s) = some dt := by
  have htime := dt.time.secondOfDay_lt
  have hself := dt.time.ofSecondOfDay_secondOfDay
  obtain ⟨second, hsecond, hday⟩ :=
    day_cases (t := dt.time.secondOfDay) ⟨by omega, by omega⟩ hs
  unfold shift? at hwall
  -- The other clock is on the same day, the day before or the day after.
  rcases hday with hday | hday | hday
  · rw [hday, ofSeconds?_same hsecond] at hwall
    cases hwall
    have hback : (second : Int) + -s = dt.time.secondOfDay := by omega
    rw [shift?_mk hsecond, hback, ofSeconds?_same htime, hself]
  · rw [hday, ofSeconds?_previous hsecond] at hwall
    obtain ⟨e, he, rfl⟩ := Option.map_eq_some_iff.mp hwall
    have hback : (second : Int) + -s = dt.time.secondOfDay + secondsPerDay := by omega
    rw [shift?_mk hsecond, hback, ofSeconds?_next htime, Date.next?_of_previous? he, hself]
    rfl
  · rw [hday, ofSeconds?_next hsecond] at hwall
    obtain ⟨e, he, rfl⟩ := Option.map_eq_some_iff.mp hwall
    have hback : (second : Int) + -s = dt.time.secondOfDay - secondsPerDay := by omega
    rw [shift?_mk hsecond, hback, ofSeconds?_previous htime, Date.previous?_of_next? he, hself]
    rfl

/-- Clocks are apart by whole seconds. -/
theorem nanosecond_of_shift? {dt wall : DateTime} {s : Int} (h : dt.shift? s = some wall) :
    wall.time.nanosecond = dt.time.nanosecond := by
  obtain ⟨date, _, rfl⟩ := Option.map_eq_some_iff.mp h
  rfl

/-- A clock that is not ahead. -/
theorem shift?_zero (dt : DateTime) : dt.shift? 0 = some dt := by
  unfold shift?
  rw [Int.add_zero, ofSeconds?_same dt.time.secondOfDay_lt, Time.ofSecondOfDay_secondOfDay]

end DateTime

/-! ## Clocks ahead of each other -/

namespace Date

/-- The day before, the day itself or the day after, as the sign says. -/
def neighbour? (d : Date) (days : Int) : Option Date :=
  if days < 0 then d.previous? else if 0 < days then d.next? else some d

/-- **Going to neighbours adds up**, as long as it stays with neighbours. -/
theorem neighbour?_add {d e f : Date} {j k : Int} (hj : -1 ≤ j ∧ j ≤ 1) (hk : -1 ≤ k ∧ k ≤ 1)
    (hjk : -1 ≤ j + k ∧ j + k ≤ 1) (he : d.neighbour? j = some e) (hf : e.neighbour? k = some f) :
    d.neighbour? (j + k) = some f := by
  have hcases : j = 0 ∨ k = 0 ∨ j = -1 ∧ k = 1 ∨ j = 1 ∧ k = -1 := by omega
  rcases hcases with rfl | rfl | ⟨rfl, rfl⟩ | ⟨rfl, rfl⟩
  · cases he
    rwa [Int.zero_add]
  · cases hf
    rwa [Int.add_zero]
  · exact (next?_of_previous? he).symm.trans hf
  · exact (previous?_of_next? he).symm.trans hf

/-- There is a day before, except in the first year. -/
theorem exists_previous? (d : Date) (h : minYear < d.year) : ∃ e, d.previous? = some e := by
  obtain ⟨⟨hlow, hhigh⟩, ⟨hone, htwelve⟩, hfirst, hlast⟩ := d.isDate
  unfold previous?
  by_cases hday : 1 < d.day
  · have hdate : IsDate d.year d.month (d.day - 1) :=
      ⟨⟨hlow, hhigh⟩, ⟨hone, htwelve⟩, by omega, by omega⟩
    exact ⟨_, by rw [if_pos hday]; exact dif_pos hdate⟩
  · by_cases hmonth : 1 < d.month
    · have hdate : IsDate d.year (d.month - 1) (daysInMonth d.year (d.month - 1)) :=
        ⟨⟨hlow, hhigh⟩, ⟨by omega, by omega⟩, one_le_daysInMonth _ _, Nat.le_refl _⟩
      exact ⟨_, by rw [if_neg hday, if_pos hmonth]; exact dif_pos hdate⟩
    · have hdate : IsDate (d.year - 1) 12 31 :=
        ⟨⟨by omega, by omega⟩, ⟨by decide, by decide⟩, by decide, Nat.le_refl 31⟩
      exact ⟨_, by rw [if_neg hday, if_neg hmonth]; exact dif_pos hdate⟩

/-- There is a day after, except in the last year. -/
theorem exists_next? (d : Date) (h : d.year < maxYear) : ∃ e, d.next? = some e := by
  obtain ⟨⟨hlow, hhigh⟩, ⟨hone, htwelve⟩, hfirst, hlast⟩ := d.isDate
  unfold next?
  by_cases hday : IsDate d.year d.month (d.day + 1)
  · exact ⟨_, by rw [make?, dif_pos hday]; rfl⟩
  · by_cases hmonth : IsDate d.year (d.month + 1) 1
    · exact ⟨_, by rw [make?_eq_none hday, make?, dif_pos hmonth]; rfl⟩
    · have hdate : IsDate (d.year + 1) 1 1 :=
        ⟨⟨by omega, by omega⟩, ⟨by decide, by decide⟩, by decide, one_le_daysInMonth _ _⟩
      exact ⟨_, by rw [make?_eq_none hday, make?_eq_none hmonth, make?, dif_pos hdate]; rfl⟩

theorem exists_neighbour? (d : Date) (h : minYear < d.year ∧ d.year < maxYear) (days : Int) :
    ∃ e, d.neighbour? days = some e := by
  unfold neighbour?
  split
  · exact d.exists_previous? h.1
  · split
    · exact d.exists_next? h.2
    · exact ⟨d, rfl⟩

end Date

namespace DateTime

/-- Less than a day away from a time of day: how many days away, and the time of
day there. -/
theorem exists_day {t s : Int} (ht : 0 ≤ t ∧ t < secondsPerDay)
    (hs : -secondsPerDay < s ∧ s < secondsPerDay) :
    ∃ (second : Nat) (days : Int), second < secondsPerDay ∧ (-1 ≤ days ∧ days ≤ 1) ∧
      t + s = second + days * secondsPerDay := by
  refine ⟨((t + s) % secondsPerDay).toNat, (t + s) / secondsPerDay, ?_, ?_, ?_⟩ <;>
    · simp only [secondsPerDay] at ht hs ⊢
      omega

variable {d : Date} {second nanosecond : Nat} {h : nanosecond < 2000000000}

theorem ofSeconds?_neighbour (hsecond : second < secondsPerDay) {days : Int}
    (hdays : -1 ≤ days ∧ days ≤ 1) :
    ofSeconds? d (second + days * secondsPerDay) nanosecond h =
      (d.neighbour? days).map fun e => ⟨e, Time.ofSecondOfDay second nanosecond h⟩ := by
  have hcases : days = -1 ∨ days = 0 ∨ days = 1 := by omega
  rcases hcases with rfl | rfl | rfl
  · rw [Int.neg_one_mul, ← Int.sub_eq_add_neg, ofSeconds?_previous hsecond]
    rfl
  · rw [Int.zero_mul, Int.add_zero, ofSeconds?_same hsecond]
    rfl
  · rw [Int.one_mul, ofSeconds?_next hsecond]
    rfl

/-- **A clock ahead of a clock that is ahead is ahead by both together**, as long as
that is less than a day. -/
theorem shift?_add {dt middle wall : DateTime} {s s' : Int}
    (hs : -secondsPerDay < s ∧ s < secondsPerDay)
    (hs' : -secondsPerDay < s' ∧ s' < secondsPerDay)
    (hboth : -secondsPerDay < s + s' ∧ s + s' < secondsPerDay)
    (hmiddle : dt.shift? s = some middle) (hwall : middle.shift? s' = some wall) :
    dt.shift? (s + s') = some wall := by
  have htime := dt.time.secondOfDay_lt
  obtain ⟨second, j, hsecond, hj, heq⟩ :=
    exists_day (t := dt.time.secondOfDay) ⟨by omega, by omega⟩ hs
  obtain ⟨second', k, hsecond', hk, heq'⟩ := exists_day (t := second) ⟨by omega, by omega⟩ hs'
  have hsum : (dt.time.secondOfDay : Int) + (s + s') = second' + (j + k) * secondsPerDay := by
    rw [Int.add_mul]
    omega
  have hjk : -1 ≤ j + k ∧ j + k ≤ 1 := by
    simp only [secondsPerDay] at hsum hboth htime hsecond'
    omega
  rw [shift?, heq, ofSeconds?_neighbour hsecond hj] at hmiddle
  obtain ⟨e, he, rfl⟩ := Option.map_eq_some_iff.mp hmiddle
  rw [shift?_mk hsecond, heq', ofSeconds?_neighbour hsecond' hk] at hwall
  obtain ⟨f, hf, rfl⟩ := Option.map_eq_some_iff.mp hwall
  rw [shift?, hsum, ofSeconds?_neighbour hsecond' hjk, Date.neighbour?_add hj hk hjk he hf]
  rfl

/-- A clock less than a day ahead that shows the same is not ahead. -/
theorem eq_zero_of_shift?_self {dt : DateTime} {s : Int}
    (hs : -secondsPerDay < s ∧ s < secondsPerDay) (h : dt.shift? s = some dt) : s = 0 := by
  have htime := dt.time.secondOfDay_lt
  obtain ⟨second, days, hsecond, hdays, heq⟩ :=
    exists_day (t := dt.time.secondOfDay) ⟨by omega, by omega⟩ hs
  rw [shift?, heq, ofSeconds?_neighbour hsecond hdays] at h
  obtain ⟨e, -, hsame⟩ := Option.map_eq_some_iff.mp h
  have hsecondOfDay : second = dt.time.secondOfDay := by
    rw [← hsame, Time.secondOfDay_ofSecondOfDay _ hsecond]
  simp only [secondsPerDay] at heq hs
  omega

/-- Within the years of the calendar, a clock that is ahead shows something. -/
theorem exists_shift? {dt : DateTime} (hyear : minYear < dt.date.year ∧ dt.date.year < maxYear)
    {s : Int} (hs : -secondsPerDay < s ∧ s < secondsPerDay) : ∃ wall, dt.shift? s = some wall := by
  have htime := dt.time.secondOfDay_lt
  obtain ⟨second, days, hsecond, hdays, heq⟩ :=
    exists_day (t := dt.time.secondOfDay) ⟨by omega, by omega⟩ hs
  obtain ⟨e, he⟩ := dt.date.exists_neighbour? hyear days
  rw [shift?, heq, ofSeconds?_neighbour hsecond hdays, he]
  exact ⟨_, rfl⟩

end DateTime

/-! ## Offsets -/

/-- An offset is less than a day, either way. -/
theorem Offset.within_day (o : Offset) :
    -(secondsPerDay : Int) < o.seconds ∧ o.seconds < secondsPerDay := ⟨o.neg_lt, o.lt_day⟩

theorem Offset.neg_within_day (o : Offset) :
    -(secondsPerDay : Int) < -o.seconds ∧ -o.seconds < secondsPerDay := by
  have hday := o.within_day
  omega

namespace OffsetDateTime

/-- The clock is ahead of UTC by its offset. -/
theorem shift?_utc (t : OffsetDateTime) : t.utc.shift? t.offset.seconds = some t.wallClock :=
  (Option.some_get t.inRange).symm

/-- UTC is behind the clock by its offset. -/
theorem shift?_wallClock (t : OffsetDateTime) :
    t.wallClock.shift? (-t.offset.seconds) = some t.utc :=
  DateTime.shift?_neg t.offset.within_day t.shift?_utc

end OffsetDateTime

end SqlAccess
