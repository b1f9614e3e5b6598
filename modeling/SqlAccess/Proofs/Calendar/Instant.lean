import SqlAccess.Proofs.Calendar.ReadBack

/-!
# Instants through their text

The text of an instant in the internet format is the reading of its own clock with
the clock's offset from UTC.  The format has room for hours and minutes of an
offset, so an offset with seconds is written as the nearest whole minute.  What is
read from the text is the same reading of a clock with this offset, which is the
same instant just if no seconds were lost.  From half a minute below a day on, the
nearest minute is a whole day, which is no offset, and the text is refused.

* `Offset.nearestMinute` — what the text shows of an offset;
* `Calendar.readOffset?_text`, `readInstant?_text` — the text before a rest, and what
  is read from it;
* `OffsetDateTime.exists_ofWallClock?` — a reading of a clock is an instant;
* `OffsetDateTime.Spells` and `spells_text` — what a text in the format shows, whether it
  is read or not;
* `OffsetDateTime.ofText?_text` — whole texts;
* `OffsetDateTime.IsShownAs`, `exists_ofText?_text`, `ofText?_text_eq_none` — the
  instant that a text shows, if it shows one.
-/

namespace SqlAccess

open Text

namespace Offset

/-- The seconds of the whole minutes nearest to an offset, half a minute counting
away from zero. -/
def nearestMinute (o : Offset) : Int :=
  signed (decide (o.seconds < 0)) (60 * ((o.seconds.natAbs + 30) / 60))

theorem nearestMinute_cases (o : Offset) :
    (o.seconds < 0 ∧ o.nearestMinute = -(60 * ((o.seconds.natAbs + 30) / 60) : Nat)) ∨
      (¬ o.seconds < 0 ∧ o.nearestMinute = (60 * ((o.seconds.natAbs + 30) / 60) : Nat)) := by
  by_cases hneg : o.seconds < 0
  · exact .inl ⟨hneg, by simp only [nearestMinute, hneg, decide_true, signed, if_true]⟩
  · exact .inr ⟨hneg, by
      simp only [nearestMinute, hneg, decide_false, signed, Bool.false_eq_true, if_false]⟩

/-- Nothing is lost of whole minutes. -/
theorem nearestMinute_eq_self_iff {o : Offset} : o.nearestMinute = o.seconds ↔ 60 ∣ o.seconds := by
  rcases o.nearestMinute_cases with ⟨hneg, heq⟩ | ⟨hneg, heq⟩
  · omega
  · omega

/-- At most half a minute is lost. -/
theorem natAbs_sub_nearestMinute (o : Offset) : (o.seconds - o.nearestMinute).natAbs ≤ 30 := by
  rcases o.nearestMinute_cases with ⟨hneg, heq⟩ | ⟨hneg, heq⟩
  · omega
  · omega

/-- The nearest minute is less than a day away just up to half a minute below it. -/
theorem nearestMinute_lt_day_iff {o : Offset} :
    (-86400 < o.nearestMinute ∧ o.nearestMinute < 86400) ↔ o.seconds.natAbs < 86370 := by
  rcases o.nearestMinute_cases with ⟨hneg, heq⟩ | ⟨hneg, heq⟩
  · omega
  · omega

/-- From there on it is a day away. -/
theorem natAbs_nearestMinute {o : Offset} (h : 86370 ≤ o.seconds.natAbs) :
    o.nearestMinute.natAbs = 86400 := by
  have hlow := o.neg_lt
  have hhigh := o.lt_day
  rcases o.nearestMinute_cases with ⟨hneg, heq⟩ | ⟨hneg, heq⟩
  · omega
  · omega

/-- An offset is written without blanks. -/
theorem isBlank_of_mem_text {o : Offset} {c : Char} (h : c ∈ o.text) : isBlank c = false := by
  simp only [text, List.mem_append, List.mem_cons] at h
  rcases h with (rfl | hc) | rfl | hc
  · split <;> decide
  · exact isBlank_of_isDigit (isDigit_of_mem_padded hc)
  · rfl
  · exact isBlank_of_isDigit (isDigit_of_mem_padded hc)

/-- The sign of an offset ends the fraction before it. -/
theorem head?_text (o : Offset) : ∀ c ∈ o.text.head?, c.isDigit = false ∧ c ≠ '.' := by
  rintro _ ⟨⟩
  split <;> decide

end Offset

namespace Calendar

/-- **An offset is read as the nearest minute**, or refused if this is a day. -/
theorem readOffset?_text (o : Offset) (rest : List Char) :
    readOffset? (o.text ++ rest) = (Offset.make? o.nearestMinute).map fun o' => (o', rest) := by
  have hlow := o.neg_lt
  have hhigh := o.lt_day
  let minutes := (o.seconds.natAbs + 30) / 60
  have hhours : minutes / 60 < 10 ^ 2 := by omega
  have hpart : minutes % 60 < 10 ^ 2 := by omega
  have hsmall : ¬ 59 < minutes % 60 := by omega
  have hjoin : 3600 * (minutes / 60) + 60 * (minutes % 60) = 60 * minutes := by omega
  have hread (c : Char) (hsign : c = '-' ∧ o.seconds < 0 ∨ c = '+' ∧ ¬ o.seconds < 0) :
      readOffset? (c :: (padded 2 (minutes / 60) ++ ':' :: (padded 2 (minutes % 60) ++ rest))) =
        (Offset.make? o.nearestMinute).map fun o' => (o', rest) := by
    have hz : ¬ (c = 'Z' ∨ c = 'z') := by
      rcases hsign with ⟨rfl, -⟩ | ⟨rfl, -⟩ <;> decide
    have hplus : c = '+' ∨ c = '-' ∨ c = '−' := by
      rcases hsign with ⟨rfl, -⟩ | ⟨rfl, -⟩ <;> decide
    have hneg : (c != '+') = decide (o.seconds < 0) := by
      rcases hsign with ⟨rfl, hneg⟩ | ⟨rfl, hneg⟩
      · rw [decide_eq_true hneg]
        decide
      · rw [decide_eq_false hneg]
        decide
    simp only [readOffset?, if_neg hz, if_pos hplus, expect?, if_true, Option.bind_eq_bind,
      Option.bind_some, readExactly?_padded (by decide : 0 < 2) hhours,
      readExactly?_padded (by decide : 0 < 2) hpart, if_neg hsmall, hneg, hjoin]
    rw [Option.map_eq_bind]
    rfl
  have htext : o.text ++ rest = (if o.seconds < 0 then '-' else '+') ::
      (padded 2 (minutes / 60) ++ ':' :: (padded 2 (minutes % 60) ++ rest)) := by
    simp only [Offset.text, List.cons_append, List.append_assoc, minutes]
  rw [htext]
  by_cases hneg : o.seconds < 0
  · rw [if_pos hneg]
    exact hread '-' (.inl ⟨rfl, hneg⟩)
  · rw [if_neg hneg]
    exact hread '+' (.inr ⟨rfl, hneg⟩)

/-! ### Fields, each before what is read after it -/

theorem readExactly?_padded_bind {β : Type} {width n : Nat} (hwidth : 0 < width)
    (h : n < 10 ^ width) (rest : List Char) (next : Nat × List Char → Option β) :
    (readExactly? width (padded width n ++ rest)).bind next = next (n, rest) := by
  rw [readExactly?_padded hwidth h, Option.bind_some]

theorem expect?_bind {β : Type} (c : Char) (rest : List Char) (next : List Char → Option β) :
    (expect? c (c :: rest)).bind next = next rest := by
  rw [expect?, if_pos rfl, Option.bind_some]

theorem readBetween?_bind {β : Type} (rest : List Char) (next : List Char → Option β) :
    (readBetween? ('T' :: rest)).bind next = next rest := rfl

/-- **A reading of a clock with its offset is read as this reading, but with the
offset that the text shows.** -/
theorem readInstant?_text {wall : DateTime} (hyear : 0 ≤ wall.date.year ∧ wall.date.year ≤ 9999)
    (hleap : wall.time.isLeapSecond = false) (o : Offset) (rest : List Char) :
    readInstant? (wall.textWith 'T' ++ o.text ++ rest) =
      (Offset.make? o.nearestMinute).bind fun o' =>
        (OffsetDateTime.ofWallClock? wall o').map fun t => (t, rest) := by
  have hyearFits : wall.date.year.toNat < 10 ^ 4 := by omega
  have hyearCast : ((wall.date.year.toNat : Nat) : Int) = wall.date.year :=
    Int.toNat_of_nonneg hyear.1
  have hmonth : wall.date.month < 10 ^ 2 := Nat.lt_of_le_of_lt wall.date.month_le (by decide)
  have hday : wall.date.day < 10 ^ 2 := Nat.lt_of_le_of_lt wall.date.day_le (by decide)
  have hhour : wall.time.hour < 10 ^ 2 := Nat.lt_trans wall.time.hour_lt (by decide)
  have hminute : wall.time.minute < 10 ^ 2 := Nat.lt_trans wall.time.minute_lt (by decide)
  have hsecond : wall.time.second + wall.time.nanosecond / nanosPerSecond < 10 ^ 2 := by
    have hlt := wall.time.second_lt
    have hnano := wall.time.nanosecond_lt
    unfold nanosPerSecond
    omega
  have hleapsAtEnd : wall.time.LeapsAtEnd := fun h => absurd (hleap.symm.trans h) nofun
  have hsign : ∀ c ∈ (o.text ++ rest).head?, c.isDigit = false ∧ c ≠ '.' :=
    o.head?_text
  have htext : wall.textWith 'T' ++ o.text ++ rest =
      padded 4 wall.date.year.toNat ++ '-' :: (padded 2 wall.date.month ++
        '-' :: (padded 2 wall.date.day ++ 'T' :: (padded 2 wall.time.hour ++
          ':' :: (padded 2 wall.time.minute ++
            ':' :: (padded 2 (wall.time.second + wall.time.nanosecond / nanosPerSecond) ++
              (fractionText (wall.time.nanosecond % nanosPerSecond) ++
                (o.text ++ rest))))))) := by
    simp only [DateTime.textWith, Date.text, Time.text, yearText, if_pos hyear, List.append_assoc,
      List.cons_append]
  -- The fields are read from the left, each before what follows it is looked at.
  rw [htext]
  dsimp only [readInstant?, Option.bind_eq_bind]
  simp only [↓readExactly?_padded_bind (by decide : 0 < 4) hyearFits,
    ↓readExactly?_padded_bind (by decide : 0 < 2) hmonth,
    ↓readExactly?_padded_bind (by decide : 0 < 2) hday,
    ↓readExactly?_padded_bind (by decide : 0 < 2) hhour,
    ↓readExactly?_padded_bind (by decide : 0 < 2) hminute,
    ↓readExactly?_padded_bind (by decide : 0 < 2) hsecond, ↓expect?_bind, ↓readBetween?_bind]
  rw [readFraction?_fractionText (Nat.mod_lt _ (by decide)) hsign, Option.bind_some]
  dsimp only
  rw [readOffset?_text]
  cases Offset.make? o.nearestMinute with
  | none => rfl
  | some o' =>
      rw [Option.map_some, Option.bind_some, Option.bind_some, hyearCast, Date.make?_self,
        Option.bind_some, timeOf?_self hleapsAtEnd, Option.bind_some, Option.map_eq_bind]
      rfl

end Calendar

namespace OffsetDateTime

/-- **A reading of a clock is an instant**, and this clock shows it so. -/
theorem exists_ofWallClock? {wall : DateTime}
    (hyear : minYear < wall.date.year ∧ wall.date.year < maxYear) (o : Offset) :
    ∃ t, ofWallClock? wall o = some t ∧ t.wallClock = wall ∧ t.offset = o := by
  obtain ⟨utc, hutc⟩ := DateTime.exists_shift? hyear o.neg_within_day
  have hback := DateTime.shift?_neg o.neg_within_day hutc
  rw [Int.neg_neg] at hback
  have hinRange : (utc.shift? o.seconds).isSome = true := by
    rw [hback]
    rfl
  refine ⟨⟨utc, o, hinRange⟩, ?_, ?_, rfl⟩
  · rw [ofWallClock?, hutc]
    exact dif_pos hinRange
  · simp only [wallClock, hback, Option.get_some]

/-- There are no blanks in the text of an instant. -/
theorem trim_text (t : OffsetDateTime) : trim t.text = t.text := by
  refine trim_of_no_blanks fun c hc => ?_
  simp only [text, DateTime.textWith, List.mem_append, List.mem_cons] at hc
  rcases hc with (hc | rfl | hc) | hc
  · exact Date.isBlank_of_mem_text hc
  · rfl
  · exact Time.isBlank_of_mem_text hc
  · exact Offset.isBlank_of_mem_text hc

/-- The texts in the internet format, each with the reading of a clock and with the seconds
of the offset that it shows.  These may be a day or more. -/
inductive Spells : List Char → DateTime → Int → Prop
  | mk {date time : List Char} {wall : DateTime} (negative : Bool) (hours minutes : Nat)
    (hdate : Date.ofText? date = some wall.date) (htime : Time.ofText? time = some wall.time)
    (hhours : hours < 100) (hminutes : minutes < 60) :
    Spells (date ++ 'T' :: time ++
        (if negative then '-' else '+') :: padded 2 hours ++ ':' :: padded 2 minutes)
      wall (signed negative (3600 * hours + 60 * minutes))

/-- **The text of an instant shows its own clock, and its offset to the nearest minute.** -/
theorem spells_text {t : OffsetDateTime} (hleap : t.wallClock.time.isLeapSecond = false) :
    Spells t.text t.wallClock t.offset.nearestMinute := by
  have hlow := t.offset.neg_lt
  have hhigh := t.offset.lt_day
  let minutes := (t.offset.seconds.natAbs + 30) / 60
  have htime : Time.ofText? t.wallClock.time.text = some t.wallClock.time :=
    Time.ofText?_text fun h => absurd (hleap.symm.trans h) nofun
  have hspells := Spells.mk (decide (t.offset.seconds < 0)) (minutes / 60) (minutes % 60)
    t.wallClock.date.ofText?_text htime (by omega) (by omega)
  have hjoin : 3600 * (minutes / 60) + 60 * (minutes % 60) = 60 * minutes := by omega
  simp only [decide_eq_true_eq, hjoin] at hspells
  simpa only [text, DateTime.textWith, Offset.text, Offset.nearestMinute, List.append_assoc]
    using hspells

/-- **The whole text of an instant is read as the same reading of a clock with the
offset that the text shows**, and refused if this is none. -/
theorem ofText?_text {t : OffsetDateTime}
    (hyear : 0 ≤ t.wallClock.date.year ∧ t.wallClock.date.year ≤ 9999)
    (hleap : t.wallClock.time.isLeapSecond = false) :
    ofText? t.text = (Offset.make? t.offset.nearestMinute).bind (ofWallClock? t.wallClock) := by
  have hread := Calendar.readInstant?_text hyear hleap t.offset []
  rw [List.append_nil] at hread
  rw [ofText?, text, hread]
  cases Offset.make? t.offset.nearestMinute with
  | none => rfl
  | some o =>
      rw [Option.bind_some, Option.bind_some]
      cases ofWallClock? t.wallClock o <;> rfl

/-- The instant `t'` is what the text of `t` shows. -/
structure IsShownAs (t t' : OffsetDateTime) : Prop where
  wallClock_eq : t'.wallClock = t.wallClock
  offset_eq : t'.offset.seconds = t.offset.nearestMinute
  /-- What the offset loses, the instant gains. -/
  moved : t.utc.shift? (t.offset.seconds - t'.offset.seconds) = some t'.utc
  nearby : (t.offset.seconds - t'.offset.seconds).natAbs ≤ 30
  same_iff : t'.utc = t.utc ↔ 60 ∣ t.offset.seconds

/-- With an offset of whole minutes, an instant is shown as it is. -/
theorem IsShownAs.eq_of_dvd {t t' : OffsetDateTime} (h : t.IsShownAs t')
    (hminutes : 60 ∣ t.offset.seconds) : t' = t := by
  have hutc := h.same_iff.mpr hminutes
  have hoffset : t'.offset.seconds = t.offset.seconds :=
    h.offset_eq.trans (Offset.nearestMinute_eq_self_iff.mpr hminutes)
  obtain ⟨utc, ⟨seconds, hlow, hhigh⟩, hinRange⟩ := t
  obtain ⟨utc', ⟨seconds', hlow', hhigh'⟩, hinRange'⟩ := t'
  dsimp only at hutc hoffset
  subst hutc hoffset
  rfl

/-- The same reading of a clock with the offset that the text shows is what it shows. -/
theorem isShownAs_of_wallClock {t t' : OffsetDateTime} (hwall : t'.wallClock = t.wallClock)
    (hoffset : t'.offset.seconds = t.offset.nearestMinute) : t.IsShownAs t' := by
  have hnear : (t.offset.seconds - t'.offset.seconds).natAbs ≤ 30 := by
    rw [hoffset]
    exact t.offset.natAbs_sub_nearestMinute
  have hday : -(secondsPerDay : Int) < t.offset.seconds + -t'.offset.seconds ∧
      t.offset.seconds + -t'.offset.seconds < secondsPerDay := by
    unfold secondsPerDay
    omega
  have hmoved : t.utc.shift? (t.offset.seconds + -t'.offset.seconds) = some t'.utc :=
    DateTime.shift?_add t.offset.within_day t'.offset.neg_within_day hday t.shift?_utc
      (hwall ▸ t'.shift?_wallClock)
  refine ⟨hwall, hoffset, hmoved, hnear, ?_⟩
  rw [← Offset.nearestMinute_eq_self_iff, ← hoffset]
  constructor
  · intro hsame
    rw [hsame] at hmoved
    have hzero := DateTime.eq_zero_of_shift?_self hday hmoved
    omega
  · intro hsame
    rw [hsame, Int.add_right_neg, DateTime.shift?_zero] at hmoved
    exact (Option.some.inj hmoved).symm

/-- **An instant's text shows an instant** if its offset is further than half a
minute from a day. -/
theorem exists_ofText?_text {t : OffsetDateTime}
    (hyear : 0 ≤ t.wallClock.date.year ∧ t.wallClock.date.year ≤ 9999)
    (hleap : t.wallClock.time.isLeapSecond = false) (hoffset : t.offset.seconds.natAbs < 86370) :
    ∃ t', ofText? t.text = some t' ∧ t.IsShownAs t' := by
  have hday := Offset.nearestMinute_lt_day_iff.mpr hoffset
  have hmake : Offset.make? t.offset.nearestMinute = some ⟨_, hday.1, hday.2⟩ := dif_pos hday
  have hinside : minYear < t.wallClock.date.year ∧ t.wallClock.date.year < maxYear := by
    unfold minYear maxYear
    omega
  obtain ⟨t', hread, hwall, hoffset'⟩ := exists_ofWallClock? hinside ⟨_, hday.1, hday.2⟩
  refine ⟨t', ?_, isShownAs_of_wallClock hwall (congrArg Offset.seconds hoffset')⟩
  rw [ofText?_text hyear hleap, hmake, Option.bind_some, hread]

/-- **From half a minute below a day on, the text shows none.** -/
theorem ofText?_text_eq_none {t : OffsetDateTime}
    (hyear : 0 ≤ t.wallClock.date.year ∧ t.wallClock.date.year ≤ 9999)
    (hleap : t.wallClock.time.isLeapSecond = false) (hoffset : ¬ t.offset.seconds.natAbs < 86370) :
    ofText? t.text = none := by
  have hday := mt Offset.nearestMinute_lt_day_iff.mp hoffset
  have hmake : Offset.make? t.offset.nearestMinute = none := dif_neg hday
  rw [ofText?_text hyear hleap, hmake, Option.bind_none]

end OffsetDateTime

end SqlAccess
