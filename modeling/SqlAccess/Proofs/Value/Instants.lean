import SqlAccess.Proofs.Calendar.Instant
import SqlAccess.Proofs.Value.Fetch

/-!
# Timestamps are read back from their text

A timestamp that is fetched as text shows its own clock, and its offset to the
minute.  Fetched as a timestamp again, the text is the same reading of a clock with
the offset that is shown: the same timestamp if the offset has no seconds, and
another instant, at most half a minute away, if it has.  An offset within half a
minute of a day is shown as a day, and such a text is not fetched as a timestamp.

* `Value.coerce_text_dateTimeTz` — the text, fetched as a timestamp;
* `Value.timestamps_through_text` — **what becomes of a timestamp**;
* `Value.offset_seconds_lost` — two timestamps that do not come back.
-/

namespace SqlAccess

namespace Value

/-- The text of a timestamp, fetched as one, is what is read from it. -/
theorem coerce_text_dateTimeTz (t : OffsetDateTime) :
    (string (.ofList t.text)).coerce .dateTimeTz =
      match OffsetDateTime.ofText? t.text with
      | some t' => .ok (.dateTimeTz t')
      | none => .error (.typeMismatch "cannot read String value as DateTimeTz") := by
  have hshape : (string (.ofList t.text)).coerce? .dateTimeTz =
      (OffsetDateTime.ofText? t.text).map .dateTimeTz := by
    rw [coerce?, coerceDateTimeTz?, String.toList_ofList, t.trim_text]
  cases hread : OffsetDateTime.ofText? t.text with
  | some t' =>
      rw [hread] at hshape
      exact coerce_of_coerce? rfl hshape
  | none =>
      rw [hread] at hshape
      rw [coerce, hshape]
      rfl

/-- **What becomes of a timestamp that is fetched as text, and then as a timestamp
again.**  The text shows the reading of its clock and its offset to the nearest minute,
also if this is a day and no timestamp comes back. -/
theorem timestamps_through_text {t : OffsetDateTime}
    (hyear : 0 ≤ t.wallClock.date.year ∧ t.wallClock.date.year ≤ 9999)
    (hleap : t.wallClock.time.isLeapSecond = false) :
    ∃ s, (dateTimeTz t).coerce .string = .ok (.string s) ∧
      OffsetDateTime.Spells s.toList t.wallClock t.offset.nearestMinute ∧
      (60 ∣ t.offset.seconds → (string s).coerce .dateTimeTz = .ok (.dateTimeTz t)) ∧
      (t.offset.seconds.natAbs < 86370 →
        ∃ t', (string s).coerce .dateTimeTz = .ok (.dateTimeTz t') ∧ t.IsShownAs t') ∧
      (86370 ≤ t.offset.seconds.natAbs →
        t.offset.nearestMinute.natAbs = 86400 ∧ (string s).coerce .dateTimeTz =
          .error (.typeMismatch "cannot read String value as DateTimeTz")) := by
  have hlow := t.offset.neg_lt
  have hhigh := t.offset.lt_day
  refine ⟨.ofList t.text, rfl, ?_, fun hminutes => ?_, fun hoffset => ?_, fun hoffset => ?_⟩
  · rw [String.toList_ofList]
    exact OffsetDateTime.spells_text hleap
  · obtain ⟨t', hread, hshown⟩ := OffsetDateTime.exists_ofText?_text hyear hleap (by omega)
    rw [coerce_text_dateTimeTz, hread, hshown.eq_of_dvd hminutes]
  · obtain ⟨t', hread, hshown⟩ := OffsetDateTime.exists_ofText?_text hyear hleap hoffset
    refine ⟨t', ?_, hshown⟩
    rw [coerce_text_dateTimeTz, hread]
  · refine ⟨Offset.natAbs_nearestMinute hoffset, ?_⟩
    rw [coerce_text_dateTimeTz,
      OffsetDateTime.ofText?_text_eq_none hyear hleap (Nat.not_lt.mpr hoffset)]

/-- The last moment of the year 9999 on a clock nearly a day behind UTC comes back,
half a minute behind UTC becomes a minute, and half a minute less than a day ahead
is shown as a day and refused. -/
theorem timestamps_through_text_at_ends :
    let late : DateTime := ⟨⟨9999, 12, 31, by decide⟩,
      ⟨23, 59, 59, 999999999, by decide, by decide, by decide, by decide⟩⟩
    let early : DateTime := ⟨⟨0, 1, 1, by decide⟩, .midnight⟩
    ∃ t u v : OffsetDateTime,
      (t.wallClock = late ∧ t.offset.seconds = -86340 ∧
        ∃ s, (dateTimeTz t).coerce .string = .ok (.string s) ∧
          (string s).coerce .dateTimeTz = .ok (.dateTimeTz t)) ∧
      (u.wallClock = late ∧ u.offset.seconds = -30 ∧
        ∃ s, (dateTimeTz u).coerce .string = .ok (.string s) ∧
          ∃ u', (string s).coerce .dateTimeTz = .ok (.dateTimeTz u') ∧ u.IsShownAs u') ∧
      v.wallClock = early ∧ v.offset.seconds = 86370 ∧
        ∃ s, (dateTimeTz v).coerce .string = .ok (.string s) ∧
          OffsetDateTime.Spells s.toList early 86400 ∧
          (string s).coerce .dateTimeTz =
            .error (.typeMismatch "cannot read String value as DateTimeTz") := by
  intro late early
  obtain ⟨t, -, ht, hto⟩ := @OffsetDateTime.exists_ofWallClock? late
    (by decide) ⟨-86340, by decide, by decide⟩
  obtain ⟨u, -, hu, huo⟩ := @OffsetDateTime.exists_ofWallClock? late
    (by decide) ⟨-30, by decide, by decide⟩
  obtain ⟨v, -, hv, hvo⟩ := @OffsetDateTime.exists_ofWallClock? early
    (by decide) ⟨86370, by decide, by decide⟩
  obtain ⟨s, hs, -, hsame, -, -⟩ := timestamps_through_text (t := t)
    (by rw [ht]; decide) (by rw [ht]; decide)
  obtain ⟨s', hs', -, -, hshown, -⟩ := timestamps_through_text (t := u)
    (by rw [hu]; decide) (by rw [hu]; decide)
  obtain ⟨s'', hs'', hspells, -, -, hrefused⟩ := timestamps_through_text (t := v)
    (by rw [hv]; decide) (by rw [hv]; decide)
  have hday : v.offset.nearestMinute = 86400 := by
    rw [hvo]
    decide
  rw [hv, hday] at hspells
  refine ⟨t, u, v, ⟨ht, by rw [hto], s, hs, hsame ?_⟩, ⟨hu, by rw [huo], s', hs', hshown ?_⟩,
    hv, by rw [hvo], s'', hs'', hspells, (hrefused ?_).2⟩
  · rw [hto]
    decide
  · rw [huo]
    decide
  · rw [hvo]
    decide

/-- Midnight on a clock a second ahead of UTC comes back as a second later; on a
clock a second less than a day ahead it does not come back. -/
theorem offset_seconds_lost :
    let midnight : DateTime := ⟨⟨2024, 1, 1, by decide⟩, .midnight⟩
    (∃ t : OffsetDateTime, t.wallClock = midnight ∧ t.offset.seconds = 1 ∧
      ∃ s, (dateTimeTz t).coerce .string = .ok (.string s) ∧
        ∃ t', (string s).coerce .dateTimeTz = .ok (.dateTimeTz t') ∧ t'.utc ≠ t.utc) ∧
    ∃ u : OffsetDateTime, u.wallClock = midnight ∧ u.offset.seconds = 86399 ∧
      ∃ s, (dateTimeTz u).coerce .string = .ok (.string s) ∧
        (string s).coerce .dateTimeTz =
          .error (.typeMismatch "cannot read String value as DateTimeTz") := by
  intro midnight
  let eve : Date := ⟨2023, 12, 31, by decide⟩
  let t : OffsetDateTime := ⟨⟨eve, ⟨23, 59, 59, 0, by decide, by decide, by decide, by decide⟩⟩,
    ⟨1, by decide, by decide⟩, by decide⟩
  let t' : OffsetDateTime := ⟨midnight, ⟨0, by decide, by decide⟩, by decide⟩
  let u : OffsetDateTime := ⟨⟨eve, ⟨0, 0, 1, 0, by decide, by decide, by decide, by decide⟩⟩,
    ⟨86399, by decide, by decide⟩, by decide⟩
  have hread : OffsetDateTime.ofText? t.text = some t' := by decide +kernel
  have hrefused : OffsetDateTime.ofText? u.text = none := by decide +kernel
  refine ⟨⟨t, by decide, rfl, .ofList t.text, rfl, t', ?_, by decide⟩,
    u, by decide, rfl, .ofList u.text, rfl, ?_⟩
  · rw [coerce_text_dateTimeTz, hread]
  · rw [coerce_text_dateTimeTz, hrefused]

end Value

end SqlAccess
