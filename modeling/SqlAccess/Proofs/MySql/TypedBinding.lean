import SqlAccess.Proofs.MySql.RoundTrip

/-!
# Binding under a type and fetching in a kind

A value can be bound under a declared type, and it can be fetched in a kind.
Where type and kind mean the same, the server is sent the same data either way.
For a timestamp with an offset the two ways differ most: binding goes from the
reading of its own clock back to UTC, fetching has kept the UTC reading, and
between them may lie the end of a day, a month or a year.

* `Value.MeantAlike` — the types and kinds that mean the same for a value;
* `utcReading_wallClock` — from the own clock back to UTC;
* `typed_binding_agrees` — **binding under a type sends what fetching in the
  kind gives**.
-/

namespace SqlAccess

namespace Value

/-- The value is a date, a time of day, or both. -/
def IsTemporal : Value → Prop
  | date _ | time _ | dateTime _ | dateTimeTz _ => True
  | _ => False

/-- A declared type and a kind that mean the same for a value.  Under the types
of large texts only strings and bytes are texts. -/
inductive MeantAlike : Value → SqlType → Kind → Prop where
  | text {v : Value} {type : SqlType}
      (h : type ∈ [SqlType.varChar, .longVarChar, .nVarChar, .longNVarChar]) :
      MeantAlike v type .string
  | largeString {s : String} {type : SqlType} (h : type ∈ [SqlType.clob, .nClob]) :
      MeantAlike (.string s) type .string
  | largeBytes {b : ByteArray} {type : SqlType} (h : type ∈ [SqlType.clob, .nClob]) :
      MeantAlike (.bytes b) type .string
  | date {v : Value} (h : v.IsTemporal) : MeantAlike v .date .date
  | time {v : Value} (h : v.IsTemporal) : MeantAlike v .time .time
  | timestamp {v : Value} (h : v.IsTemporal) : MeantAlike v .timestamp .dateTime

/-- A value as a string is the text that it is bound as. -/
theorem coerceString?_eq (v : Value) : v.coerceString? = (Parameter.textOf? v).map string := by
  cases v <;> rfl

end Value

namespace MySql.Datum

/-! ## Texts -/

/-- A large text is sent as a text, whatever its length. -/
theorem ofParameter_ofLargeText (type : SqlType) (s : String) :
    ofParameter (.ofLargeText type s) = ofText s := by
  unfold Parameter.ofLargeText
  split <;> rfl

/-- A value under a string type is sent as its text. -/
theorem ofParameter_ofText {v w : Value} {setter : String → Parameter} {type : SqlType}
    (hsetter : ∀ s, ofParameter (setter s) = ofText s) (hw : v.coerceString? = some w) :
    ofParameter (.ofText setter type v) = ofValue w := by
  rw [Value.coerceString?_eq] at hw
  obtain ⟨s, hs, rfl⟩ := Option.map_eq_some_iff.mp hw
  simp only [Parameter.ofText, hs, hsetter, ofValue]

/-- Bytes under a type of large texts are sent as the text that they are. -/
theorem ofParameter_ofClob_bytes {b : ByteArray} {w : Value} (type : SqlType)
    (hw : (Value.bytes b).coerceString? = some w) :
    ofParameter (.ofClob type (.bytes b)) = ofValue w := by
  obtain ⟨s, hs, rfl⟩ := Option.map_eq_some_iff.mp hw
  simp only [Parameter.ofClob, hs, ofParameter_ofLargeText, ofValue]

/-! ## Dates and times -/

/-- **The reading of a timestamp's own clock, taken back by its offset, is its
UTC reading**, on whichever day that is. -/
theorem utcReading_wallClock {t : OffsetDateTime} (h : t.utc.time.isLeapSecond = false) :
    utcReading t.wallClock t.offset = t.utc := by
  have hleap : t.wallClock.time.isLeapSecond = false := by
    unfold Time.isLeapSecond at h ⊢
    rw [DateTime.nanosecond_of_shift? t.shift?_utc, h]
  -- Outside of leap seconds, going on by seconds is a change of clocks.
  unfold utcReading DateTime.advance?
  rw [if_neg (by rw [hleap]; exact fun hboth => Bool.false_ne_true hboth.1),
    t.shift?_wallClock, Option.getD_some]

/-- A value under the type of dates is sent as its date. -/
theorem ofParameter_ofDate {v w : Value} (hv : v.IsTemporal) (hw : v.coerceDate? = some w) :
    ofParameter (.ofDate v) = ofValue w := by
  cases v with
  | date d => cases hw; rfl
  | time t => cases hw
  | dateTime t => cases hw; rfl
  | dateTimeTz t => cases hw; rfl
  | _ => exact hv.elim

/-- A value under the type of times is sent as its time of day. -/
theorem ofParameter_ofTime {v w : Value} (hv : v.IsTemporal) (hw : v.coerceTime? = some w) :
    ofParameter (.ofTime v) = ofValue w := by
  cases v with
  | date d => cases hw
  | time t => cases hw; rfl
  | dateTime t => cases hw; rfl
  | dateTimeTz t => cases hw; rfl
  | _ => exact hv.elim

/-- A value under the type of timestamps is sent as its date-time, in UTC if it
has an offset. -/
theorem ofParameter_ofTimestamp {v w : Value} (hv : v.IsTemporal)
    (hleap : v.inLeapSecond = false) (hw : v.coerceDateTime? = some w) :
    ofParameter (.ofTimestamp v) = ofValue w := by
  cases v with
  | date d => cases hw; rfl
  | time t => cases hw
  | dateTime t => cases hw; rfl
  | dateTimeTz t =>
      cases hw
      simp only [Parameter.ofTimestamp, ofParameter, utcReading_wallClock hleap, ofValue]
  | _ => exact hv.elim

/-! ## All types -/

/-- What a value other than NULL that is meant alike is sent as. -/
theorem ofParameter_ofTyped {v w : Value} {type : SqlType} {kind : Kind}
    (hnull : v.isNull = false) (hleap : v.inLeapSecond = false) (halike : v.MeantAlike type kind)
    (hw : v.coerce? kind = some w) : ofParameter (.ofTyped type v) = ofValue w := by
  unfold Parameter.ofTyped
  rw [hnull, if_neg Bool.false_ne_true]
  cases halike with
  | text h =>
      simp only [List.mem_cons, List.not_mem_nil, or_false] at h
      rcases h with rfl | rfl | rfl | rfl
      · exact ofParameter_ofText (fun _ => rfl) hw
      · exact ofParameter_ofText (fun _ => rfl) hw
      · exact ofParameter_ofText (fun _ => rfl) hw
      · exact ofParameter_ofText (fun _ => rfl) hw
  | largeString h =>
      cases hw
      simp only [List.mem_cons, List.not_mem_nil, or_false] at h
      rcases h with rfl | rfl
      · exact ofParameter_ofLargeText _ _
      · exact ofParameter_ofLargeText _ _
  | largeBytes h =>
      simp only [List.mem_cons, List.not_mem_nil, or_false] at h
      rcases h with rfl | rfl
      · exact ofParameter_ofClob_bytes _ hw
      · exact ofParameter_ofClob_bytes _ hw
  | date h => exact ofParameter_ofDate h hw
  | time h => exact ofParameter_ofTime h hw
  | timestamp h => exact ofParameter_ofTimestamp h hleap hw

/-- **Binding under a type sends what fetching in the kind gives**, and a
timestamp with an offset that is bound without a type is sent as one that is
bound with it. -/
theorem typed_binding_agrees {v : Value} (hnull : v.isNull = false)
    (hleap : v.inLeapSecond = false) :
    (∀ type kind w, v.MeantAlike type kind → v.coerce kind = .ok w →
      ofParameter (.ofTyped type v) = ofValue w) ∧
    ∀ t, v = .dateTimeTz t → ofValue v = ofParameter (.ofTyped .timestamp v) := by
  refine ⟨?_, ?_⟩
  · intro type kind w halike hw
    exact ofParameter_ofTyped hnull hleap halike (Value.coerce?_of_coerce hnull hw)
  · rintro t rfl
    have hutc : (Value.dateTimeTz t).coerce? .dateTime = some (.dateTime t.utc) := rfl
    rw [ofParameter_ofTyped hnull hleap (.timestamp trivial) hutc]
    rfl

/-- Late on the last evening of a year, on a clock five hours behind UTC. -/
theorem typed_binding_new_year :
    let v := Value.dateTimeTz ⟨⟨⟨2024, 1, 1, by decide⟩,
      ⟨3, 15, 0, 0, by decide, by decide, by decide, by decide⟩⟩,
      ⟨-18000, by decide, by decide⟩, by decide⟩
    v.coerce .date = .ok (.date ⟨2023, 12, 31, by decide⟩) ∧
      ofParameter (.ofTyped .date v) = ofValue (.date ⟨2023, 12, 31, by decide⟩) ∧
      ofValue v = ofParameter (.ofTyped .timestamp v) ∧
      ofParameter (.ofTyped .timestamp v) = .date 2024 1 1 3 15 0 0 := by
  refine ⟨rfl, ?_, ?_, rfl⟩
  · exact (typed_binding_agrees rfl rfl).1 _ .date _ (.date trivial) rfl
  · exact (typed_binding_agrees rfl rfl).2 _ rfl

end MySql.Datum

end SqlAccess
