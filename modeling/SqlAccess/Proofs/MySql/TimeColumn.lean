import SqlAccess.Proofs.Calendar.ReadBack
import SqlAccess.Proofs.MySql.RoundTrip

/-!
# What a column of times gives back

A column of times holds spans of time, which may be negative or last for days.  A
span that is a time of day is read as one.  Every other span is read as its text,
which has a layout of its own: a minus if there is one, hours in two or more digits,
minutes and seconds in two each and, unless they are zero, microseconds in six.

* `Span` and `Span.ofText?` — what such a text denotes;
* `Span.ofText?_spanText` — the text of a span denotes it;
* `TimeSpan` — what a column of times may hold;
* `TimeSpan.spans_read_back` — **a span is told by the value it is read as**;
* `TimeSpan.oneDay` and `TimeSpan.belowZero` — two spans that are no times of day.
-/

namespace SqlAccess

open Text Calendar

namespace MySql

/-! ## Texts of spans -/

/-- A span of time in whole hours and the parts of the last one. -/
structure Span where
  negative : Bool
  hours : Nat
  minutes : Nat
  seconds : Nat
  micros : Nat
  deriving DecidableEq

namespace Span

/-- Reads microseconds behind a point, in six digits, up to the end of a text; nothing
stands for none. -/
def readMicros? : List Char → Option Nat
  | [] => some 0
  | '.' :: rest => whole? (readExactly? 6 rest)
  | _ => none

/-- Reads a span without its sign: hours in two or more digits, minutes and seconds in
two. -/
def read? (negative : Bool) (cs : List Char) : Option Span :=
  let (hours, rest) := takeDigits cs
  if hours.length < 2 then none
  else do
    let (minutes, rest) ← readExactly? 2 (← expect? ':' rest)
    let (seconds, rest) ← readExactly? 2 (← expect? ':' rest)
    return ⟨negative, digitsValue hours, minutes, seconds, ← readMicros? rest⟩

/-- Reads a whole text as a span with an optional minus. -/
def ofText? : List Char → Option Span
  | '-' :: rest => read? true rest
  | rest => read? false rest

theorem readMicros?_text {micros : Nat} (h : micros < 10 ^ 6) :
    readMicros? (if micros = 0 then [] else '.' :: padded 6 micros) = some micros := by
  by_cases hzero : micros = 0
  · rw [if_pos hzero, hzero]
    rfl
  · have hread := readExactly?_padded (by decide) h []
    rw [List.append_nil] at hread
    rw [if_neg hzero, readMicros?, hread]
    rfl

/-- **The text of a span is read back**, sign and all. -/
theorem ofText?_spanText (negative : Bool) (hours : Nat) {minutes seconds micros : Nat}
    (hminutes : minutes < 60) (hseconds : seconds < 60) (hmicros : micros < 10 ^ 6) :
    ofText? (Datum.spanText negative hours minutes seconds micros) =
      some ⟨negative, hours, minutes, seconds, micros⟩ := by
  let behind := ':' :: padded 2 minutes ++ ':' :: padded 2 seconds ++
    (if micros = 0 then [] else '.' :: padded 6 micros)
  have htake : takeDigits (padded 2 hours ++ behind) = (padded 2 hours, behind) := by
    refine takeDigits_append (fun c hc => isDigit_of_mem_padded hc) ?_
    rintro _ ⟨⟩
    rfl
  have hlong : ¬ (padded 2 hours).length < 2 := Nat.not_lt.mpr (le_length_padded 2 hours)
  have hread : read? negative (padded 2 hours ++ behind) =
      some ⟨negative, hours, minutes, seconds, micros⟩ := by
    simp only [read?, htake, if_neg hlong, digitsValue_padded]
    simp only [behind, List.cons_append, List.append_assoc, expect?, if_true, Option.pure_def,
      Option.bind_eq_bind, Option.bind_some]
    rw [readExactly?_padded (by decide) (Nat.lt_trans hminutes (by decide))]
    simp only [Option.bind_some, if_true]
    rw [readExactly?_padded (by decide) (Nat.lt_trans hseconds (by decide))]
    simp only [Option.bind_some, readMicros?_text hmicros]
  have htext : Datum.spanText negative hours minutes seconds micros =
      (if negative then ['-'] else []) ++ (padded 2 hours ++ behind) := by
    simp [Datum.spanText, behind]
  rw [htext]
  cases negative with
  | true => exact hread
  | false =>
      -- The first digit is no minus.
      obtain ⟨c, ds, heq, hc⟩ := exists_padded_eq_cons Nat.two_pos hours
      rw [if_neg Bool.false_ne_true, List.nil_append]
      unfold ofText?
      split
      · next hminus =>
          rw [heq, List.cons_append] at hminus
          cases hminus
          exact absurd hc (by decide)
      · exact hread

end Span

/-! ## What a column of times holds -/

/-- A span of time as the protocol carries it, each part in its range. -/
structure TimeSpan where
  negative : Bool
  days : UInt32
  hours : UInt8
  minutes : UInt8
  seconds : UInt8
  micros : UInt32
  hours_lt : hours.toNat < 24
  minutes_lt : minutes.toNat < 60
  seconds_lt : seconds.toNat < 60
  micros_lt : micros.toNat < 10 ^ 6
  /-- The hours of all days have 32 bits. -/
  total_lt : days.toNat * 24 + hours.toNat < 2 ^ 32

namespace TimeSpan

variable (t : TimeSpan) (type : Option ColumnType)

/-- The span on the wire. -/
def datum : Datum := .time t.negative t.days t.hours t.minutes t.seconds t.micros

/-- The span with its days counted in hours. -/
def span : Span :=
  ⟨t.negative, t.days.toNat * 24 + t.hours.toNat, t.minutes.toNat, t.seconds.toNat, t.micros.toNat⟩

/-- Whether a span is a time of day. -/
def IsOfDay : Prop := t.negative = false ∧ t.days = 0

/-- Counting the days in hours loses nothing. -/
theorem span_injective {t t' : TimeSpan} (h : t.span = t'.span) : t = t' := by
  obtain ⟨negative, days, hours, minutes, seconds, micros, hhours⟩ := t
  obtain ⟨negative', days', hours', minutes', seconds', micros', hhours'⟩ := t'
  simp only [span, Span.mk.injEq] at h
  obtain ⟨hnegative, htotal, hminutes, hseconds, hmicros⟩ := h
  obtain rfl : days = days' := UInt32.toNat_inj.mp (by omega)
  obtain rfl : hours = hours' := UInt8.toNat_inj.mp (by omega)
  obtain rfl := hnegative
  obtain rfl := UInt8.toNat_inj.mp hminutes
  obtain rfl := UInt8.toNat_inj.mp hseconds
  obtain rfl := UInt32.toNat_inj.mp hmicros
  rfl

theorem toValue_datum : t.datum.toValue type =
    Datum.spanToValue t.negative t.span.hours t.span.minutes t.span.seconds t.span.micros := by
  have htotal : (t.days * 24 + t.hours.toUInt32).toNat = t.days.toNat * 24 + t.hours.toNat := by
    have hlt := t.total_lt
    rw [UInt32.toNat_add, UInt32.toNat_mul, UInt8.toNat_toUInt32]
    simp only [UInt32.toNat_ofNat]
    omega
  simp only [datum, span, Datum.toValue, htotal]

/-- A span is a time of day if it is not negative and shorter than a day. -/
theorem isOfDay_iff : t.IsOfDay ↔ t.negative = false ∧ t.span.hours < 24 := by
  refine and_congr_right fun _ => ?_
  have hhours := t.hours_lt
  rw [← UInt32.toNat_inj]
  simp only [span, UInt32.toNat_zero]
  omega

/-- A time of day is read as one. -/
theorem toValue_of_isOfDay (h : t.IsOfDay) : ∃ time : Time, t.datum.toValue type = .time time ∧
    time.hour = t.hours.toNat ∧ time.minute = t.minutes.toNat ∧ time.second = t.seconds.toNat ∧
    time.nanosecond = 1000 * t.micros.toNat := by
  obtain ⟨hnegative, hday⟩ := (isOfDay_iff t).mp h
  have hmicros := t.micros_lt
  have hparts : t.span.hours < 24 ∧ t.span.minutes < 60 ∧ t.span.seconds < 60 ∧
      1000 * t.span.micros < 2000000000 :=
    ⟨hday, t.minutes_lt, t.seconds_lt, by simp only [span]; omega⟩
  have hnanos : 1000 * t.span.micros < nanosPerSecond := by
    simp only [span, nanosPerSecond]
    omega
  have hhours : t.span.hours = t.hours.toNat := by simp [span, h.2]
  rw [toValue_datum, Datum.spanToValue, hnegative, if_neg Bool.false_ne_true, Time.make?,
    dif_pos hparts, if_pos (Or.inl hnanos)]
  exact ⟨_, rfl, hhours, rfl, rfl, rfl⟩

/-- Every other span is read as a text that denotes it. -/
theorem toValue_of_not_isOfDay (h : ¬ t.IsOfDay) : ∃ text : String,
    t.datum.toValue type = .string text ∧ Span.ofText? text.toList = some t.span := by
  have hnone : (if t.negative then none else Time.make? t.span.hours t.span.minutes
      t.span.seconds (1000 * t.span.micros)) = none := by
    cases hnegative : t.negative with
    | true => rfl
    | false =>
        rw [isOfDay_iff, hnegative] at h
        rw [if_neg Bool.false_ne_true, Time.make?, dif_neg]
        rintro ⟨hday, -⟩
        exact h ⟨rfl, hday⟩
  refine ⟨String.ofList (Datum.spanText t.negative t.span.hours t.span.minutes t.span.seconds
    t.span.micros), ?_, ?_⟩
  · rw [toValue_datum, Datum.spanToValue, hnone]
  · rw [String.toList_ofList]
    exact Span.ofText?_spanText _ _ t.minutes_lt t.seconds_lt t.micros_lt

/-- The span that a value tells, as a time or in a text. -/
def told? : Value → Option Span
  | .time t => some ⟨false, t.hour, t.minute, t.second, t.nanosecond / 1000⟩
  | .string text => Span.ofText? text.toList
  | _ => none

/-- **The value that a span is read as tells the span**, whichever of the two it is. -/
theorem told?_toValue : told? (t.datum.toValue type) = some t.span := by
  by_cases h : t.IsOfDay
  · obtain ⟨time, hread, hhour, hminute, hsecond, hnanos⟩ := t.toValue_of_isOfDay type h
    rw [hread, told?, hhour, hminute, hsecond, hnanos, Nat.mul_div_cancel_left _ (Nat.succ_pos 999)]
    simp [span, h.1, h.2]
  · obtain ⟨text, hread, hspan⟩ := t.toValue_of_not_isOfDay type h
    rw [hread]
    exact hspan

/-- What is said of a span that is read from a column. -/
structure ReadsBack : Prop where
  /-- A time of day is read as the time with its fields. -/
  ofDay : t.negative = false ∧ t.days = 0 → ∃ time : Time, t.datum.toValue type = .time time ∧
    time.hour = t.hours.toNat ∧ time.minute = t.minutes.toNat ∧ time.second = t.seconds.toNat ∧
    time.nanosecond = 1000 * t.micros.toNat
  /-- Every other span is read as a text that denotes it. -/
  other : ¬ (t.negative = false ∧ t.days = 0) → ∃ text : String,
    t.datum.toValue type = .string text ∧ Span.ofText? text.toList =
      some ⟨t.negative, t.days.toNat * 24 + t.hours.toNat, t.minutes.toNat, t.seconds.toNat,
        t.micros.toNat⟩
  /-- No other span is read as the same value, from whatever column. -/
  unique : ∀ (t' : TimeSpan) (type' : Option ColumnType),
    t'.datum.toValue type' = t.datum.toValue type → t' = t

/-- **A span of time is told by the value it is read as**: by a time if it is a time of
day, and else by its text. -/
theorem spans_read_back : t.ReadsBack type where
  ofDay := t.toValue_of_isOfDay type
  other := t.toValue_of_not_isOfDay type
  unique t' type' heq := by
    have htold := t'.told?_toValue type'
    rw [heq, told?_toValue] at htold
    exact span_injective (Option.some.inj htold).symm

/-- A day, which is one hour more than a time of day may have. -/
def oneDay : TimeSpan :=
  ⟨false, 1, 0, 0, 0, 0, by decide, by decide, by decide, by decide, by decide⟩

/-- Half a second below zero. -/
def belowZero : TimeSpan :=
  ⟨true, 0, 0, 0, 0, 500000, by decide, by decide, by decide, by decide, by decide⟩

/-- Neither is a time of day.  Their texts denote them, and no other span is read as
these. -/
theorem day_and_below_zero_read_back :
    (oneDay.datum.toValue none = .string "24:00:00" ∧
      Span.ofText? "24:00:00".toList = some ⟨false, 24, 0, 0, 0⟩ ∧
      ∀ t type, t.datum.toValue type = .string "24:00:00" → t = oneDay) ∧
    belowZero.datum.toValue none = .string "-00:00:00.500000" ∧
      Span.ofText? "-00:00:00.500000".toList = some ⟨true, 0, 0, 0, 500000⟩ ∧
      ∀ t type, t.datum.toValue type = .string "-00:00:00.500000" → t = belowZero := by
  have hday : oneDay.datum.toValue none = .string "24:00:00" := by decide +kernel
  have hbelow : belowZero.datum.toValue none = .string "-00:00:00.500000" := by decide +kernel
  have hdayBack := oneDay.spans_read_back none
  have hbelowBack := belowZero.spans_read_back none
  obtain ⟨text, hread, hspan⟩ := hdayBack.other (by decide)
  obtain ⟨text', hread', hspan'⟩ := hbelowBack.other (by decide)
  cases hread.symm.trans hday
  cases hread'.symm.trans hbelow
  exact ⟨⟨hday, hspan, fun t type h => hdayBack.unique t type (h.trans hday.symm)⟩,
    hbelow, hspan', fun t type h => hbelowBack.unique t type (h.trans hbelow.symm)⟩

end TimeSpan

end MySql

end SqlAccess
