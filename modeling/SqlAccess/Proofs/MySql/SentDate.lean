import SqlAccess.Proofs.MySql.RoundTrip

/-!
# Dates on their way to the server

The protocol has 16 bits for the year of a date, and a calendar has more years
than that, before the year zero too.  A year is sent as what is left of it after
whole rounds of `2 ^ 16` years, so the same day of two years can arrive as one.
Every way to send a date does this alike: by itself, with a time, in UTC, bound
under a type or without one.

* `Date.SentAlike` — the same day of years that lie whole rounds apart;
* `Value.sentDate?` and `Parameter.sentDate?` — the date that is sent;
* `dateParts?_ofParameter` — **whatever is sent, its date goes by one rule**;
* `dates_sent_alike_iff` — **which dates arrive as one, and which years arrive
  as they are**.
-/

namespace SqlAccess

/-! ## Dates that arrive as one -/

/-- The same day of two years that lie whole rounds of `2 ^ 16` years apart. -/
structure Date.SentAlike (d d' : Date) : Prop where
  year : d.year % 2 ^ 16 = d'.year % 2 ^ 16
  month : d.month = d'.month
  day : d.day = d'.day

/-- Such dates are the same if their years lie less than a round apart. -/
theorem Date.SentAlike.eq_iff {d d' : Date} (h : d.SentAlike d') :
    d = d' ↔ (d.year - d'.year).natAbs < 2 ^ 16 := by
  constructor
  · rintro rfl
    rw [Int.sub_self]
    decide
  · intro hnear
    have hyear : d.year = d'.year := by
      have hrounds := h.year
      omega
    obtain ⟨year, month, day, isDate⟩ := d
    obtain ⟨year', month', day', isDate'⟩ := d'
    obtain ⟨-, rfl, rfl⟩ := h
    obtain rfl : year = year' := hyear
    rfl

/-- The date that is sent with a value, in UTC if the value has an offset. -/
def Value.sentDate? : Value → Option Date
  | date d => some d
  | dateTime t => some t.date
  | dateTimeTz t => some t.utc.date
  | _ => none

/-- The date that is sent with a parameter. -/
def Parameter.sentDate? : Parameter → Option Date
  | date d _ => some d
  | timestamp t none => some t.date
  | timestamp t (some offset) => some (MySql.Datum.utcReading t offset).date
  | object v _ => v.sentDate?
  | _ => none

namespace MySql.Datum

/-! ## The parts of a date on the wire -/

/-- Year, month and day of what is sent, if it is a date. -/
def dateParts? : Datum → Option (UInt16 × UInt8 × UInt8)
  | date year month day .. => some (year, month, day)
  | _ => none

/-- The parts that a date is sent in. -/
def partsOf (d : Date) : UInt16 × UInt8 × UInt8 := (.ofInt d.year, .ofNat d.month, .ofNat d.day)

theorem dateParts?_ofDateTime (t : DateTime) : (ofDateTime t).dateParts? = some (partsOf t.date) :=
  rfl

theorem dateParts?_ofValue (v : Value) : (ofValue v).dateParts? = v.sentDate?.map partsOf := by
  cases v <;> rfl

/-- **Whatever is sent, its date goes in the same parts.** -/
theorem dateParts?_ofParameter (p : Parameter) :
    (ofParameter p).dateParts? = p.sentDate?.map partsOf := by
  cases p with
  | timestamp t offset => cases offset <;> rfl
  | object v type => exact dateParts?_ofValue v
  | _ => rfl

/-! ## What the parts keep -/

/-- The year that is sent is what is left after whole rounds. -/
theorem toNat_ofInt_eq_emod (year : Int) : ((UInt16.ofInt year).toNat : Int) = year % 2 ^ 16 := by
  have hfits : 0 ≤ year % 2 ^ 16 ∧ year % 2 ^ 16 < 2 ^ 16 := by omega
  have hleft : UInt16.ofInt year = UInt16.ofInt (year % 2 ^ 16) := by
    unfold UInt16.ofInt
    rw [Int.emod_emod_of_dvd year (Int.dvd_refl _)]
  rw [hleft, toNat_ofInt hfits]

theorem ofInt_eq_iff (year year' : Int) :
    UInt16.ofInt year = UInt16.ofInt year' ↔ year % 2 ^ 16 = year' % 2 ^ 16 := by
  rw [← UInt16.toNat_inj, ← Int.natCast_inj, toNat_ofInt_eq_emod, toNat_ofInt_eq_emod]

/-- Dates have the same parts just if they are sent alike. -/
theorem partsOf_eq_iff (d d' : Date) : partsOf d = partsOf d' ↔ d.SentAlike d' := by
  simp only [partsOf, Prod.mk.injEq, ofInt_eq_iff, ← UInt8.toNat_inj, toNat_month, toNat_day]
  constructor
  · intro h
    exact ⟨h.1, h.2.1, h.2.2⟩
  · intro h
    exact ⟨h.year, h.month, h.day⟩

/-- A year that has 16 bits arrives as it is, and no other does. -/
theorem year_partsOf_iff (d : Date) :
    ((partsOf d).1.toNat : Int) = d.year ↔ 0 ≤ d.year ∧ d.year < 2 ^ 16 := by
  have hleft : ((partsOf d).1.toNat : Int) = d.year % 2 ^ 16 := toNat_ofInt_eq_emod d.year
  omega

/-- The time that goes with a date by itself is midnight's. -/
theorem ofDate_eq_iff (d d' : Date) : ofDate d = ofDate d' ↔ d.SentAlike d' := by
  rw [← partsOf_eq_iff]
  constructor
  · intro h
    exact Option.some.inj (congrArg dateParts? h)
  · intro h
    simp only [partsOf, Prod.mk.injEq] at h
    simp only [ofDate, ofDateTime, DateTime.ofDate, h.1, h.2.1, h.2.2]

/-- **Which dates arrive as one, and which years arrive as they are.**  Two dates
are told apart by themselves, as the dates of date-times and as those of whatever
is bound, unless they are the same day of years that lie whole rounds of `2 ^ 16`
apart; different ones lie a round apart at least.  Month and day always arrive,
and the year does if it has 16 bits. -/
theorem dates_sent_alike_iff {p p' : Parameter} {d d' : Date} (hp : p.sentDate? = some d)
    (hp' : p'.sentDate? = some d') :
    (ofDate d = ofDate d' ↔ d.SentAlike d') ∧
    (∀ t t' : Time,
      (ofDateTime ⟨d, t⟩).dateParts? = (ofDateTime ⟨d', t'⟩).dateParts? ↔ d.SentAlike d') ∧
    ((ofParameter p).dateParts? = (ofParameter p').dateParts? ↔ d.SentAlike d') ∧
    (d.SentAlike d' → (d = d' ↔ (d.year - d'.year).natAbs < 2 ^ 16)) ∧
    ∃ year month day, (ofParameter p).dateParts? = some (year, month, day) ∧
      ((year.toNat : Int) = d.year ↔ 0 ≤ d.year ∧ d.year < 2 ^ 16) ∧
      month.toNat = d.month ∧ day.toNat = d.day := by
  have hsent : (ofParameter p).dateParts? = some (partsOf d) := by
    rw [dateParts?_ofParameter, hp, Option.map_some]
  have hsent' : (ofParameter p').dateParts? = some (partsOf d') := by
    rw [dateParts?_ofParameter, hp', Option.map_some]
  refine ⟨ofDate_eq_iff d d', ?_, ?_, fun h => h.eq_iff, ?_⟩
  · intro t t'
    rw [dateParts?_ofDateTime, dateParts?_ofDateTime, Option.some_inj, partsOf_eq_iff]
  · rw [hsent, hsent', Option.some_inj, partsOf_eq_iff]
  · exact ⟨_, _, _, hsent, year_partsOf_iff d, toNat_month d, toNat_day d⟩

/-- New Year's Eve before the year zero, bound as the timestamp of a clock that shows
the first morning of the year zero already, arrives as one of the last year with 16
bits. -/
theorem dates_sent_alike_before_zero :
    let eve : Date := ⟨-1, 12, 31, by decide⟩
    let last : Date := ⟨65535, 12, 31, by decide⟩
    let early : Parameter := .ofTyped .timestamp (.dateTimeTz ⟨⟨eve,
      ⟨23, 30, 0, 0, by decide, by decide, by decide, by decide⟩⟩,
      ⟨3600, by decide, by decide⟩, by decide⟩)
    let late : Parameter := .ofUntyped (.date last)
    early = .timestamp ⟨⟨0, 1, 1, by decide⟩, ⟨0, 30, 0, 0, by decide, by decide, by decide,
        by decide⟩⟩ (some ⟨3600, by decide, by decide⟩) ∧
      (early.sentDate? = some eve ∧ late.sentDate? = some last ∧ eve.SentAlike last) ∧
      (ofParameter early).dateParts? = (ofParameter late).dateParts? ∧ eve ≠ last := by
  intro eve last early late
  have hearly : early.sentDate? = some eve := by decide +kernel
  have hlate : late.sentDate? = some last := rfl
  have halike : eve.SentAlike last := ⟨by decide, rfl, rfl⟩
  obtain ⟨_, _, hparts, hsame, _⟩ := dates_sent_alike_iff hearly hlate
  refine ⟨by decide +kernel, ⟨hearly, hlate, halike⟩, hparts.mpr halike, ?_⟩
  intro heq
  exact absurd ((hsame halike).mp heq) (by decide)

/-- A leap day is sent as one that comes a round of years before it, and so is its
noon. -/
theorem leap_days_sent_as_one :
    let leapDay : Date := ⟨2024, 2, 29, by decide⟩
    let later : Date := ⟨67560, 2, 29, by decide⟩
    let noon : Time := ⟨12, 0, 0, 0, by decide, by decide, by decide, by decide⟩
    leapDay ≠ later ∧ ofDate leapDay = ofDate later ∧ ofDate later = .date 2024 2 29 0 0 0 0 ∧
      (ofDateTime ⟨leapDay, noon⟩).dateParts? = (ofDateTime ⟨later, noon⟩).dateParts? := by
  intro leapDay later noon
  exact ⟨by decide, by decide, by decide, by decide⟩

end MySql.Datum

end SqlAccess
