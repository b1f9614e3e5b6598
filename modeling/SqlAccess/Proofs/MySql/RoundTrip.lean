import SqlAccess.MySql.Datum
import SqlAccess.Proofs.Calendar.Shift
import SqlAccess.Proofs.Number.DecimalText
import SqlAccess.Proofs.Value.Fetch

/-!
# Storing a value and fetching it

A value that is sent to the server, comes back as it was sent from a column of
a suitable type, and is fetched in its own kind is the value again, apart from
what the protocol cannot hold: a time keeps whole microseconds, a timestamp
keeps its instant but not its clock, and a zero decimal loses its sign.

On the way the value may look quite different.  A truth value and every integer
come back as integers of 64 bits, numbers of 32 bits go through those of 64,
decimals and identifiers travel as text, and bytes that happen to be UTF-8 come
back as a string.

* `Value.HasKind` and `Value.Suits` — a value's own kind, and the columns that
  hold it;
* `Value.stored` — what is left of a value;
* `store_then_fetch` — **storing a value and fetching it gives what is left**.
-/

namespace SqlAccess

/-! ## What is stored -/

/-- The time in whole microseconds. -/
def Time.wholeMicros (t : Time) : Time :=
  { t with
    nanosecond := 1000 * (t.nanosecond / 1000)
    nanosecond_lt := by have := t.nanosecond_lt; omega }

/-- The date-time in whole microseconds. -/
def DateTime.wholeMicros (t : DateTime) : DateTime := ⟨t.date, t.time.wholeMicros⟩

/-- The instant at which a UTC clock shows the reading, seen from that clock. -/
def OffsetDateTime.atUtc (utc : DateTime) : OffsetDateTime :=
  ⟨utc, .utc, by rw [Offset.utc, DateTime.shift?_zero]; rfl⟩

/-- That instant can be had. -/
theorem OffsetDateTime.ofUtc?_utc (utc : DateTime) : ofUtc? utc .utc = some (.atUtc utc) :=
  dif_pos (atUtc utc).inRange

namespace Value

/-- The kind of a value's own variant.  NULL has every kind. -/
def HasKind : Value → Kind → Prop
  | null, _ => True
  | bool _, kind => kind = .bool
  | int8 _, kind => kind = .int8
  | int16 _, kind => kind = .int16
  | int32 _, kind => kind = .int32
  | int64 _, kind => kind = .int64
  | float32 _, kind => kind = .float32
  | float64 _, kind => kind = .float64
  | decimal _, kind => kind = .decimal
  | string _, kind => kind = .string
  | bytes _, kind => kind = .bytes
  | date _, kind => kind = .date
  | time _, kind => kind = .time
  | dateTime _, kind => kind = .dateTime
  | dateTimeTz _, kind => kind = .dateTimeTz
  | uuid _, kind => kind = .uuid

/-- The columns that hold a value: a decimal needs a column of decimals, a date
one of dates, and a date-time one that keeps the time.  What travels as a text
must stay away from columns of decimals.  The rest goes with every column. -/
def Suits : Value → MySql.ColumnType → Prop
  | decimal _, type => type.isDecimal = true
  | date _, type => type.isDate = true
  | dateTime _, type | dateTimeTz _, type => type.isDate = false
  | string _, type | bytes _, type | uuid _, type => type.isDecimal = false
  | _, _ => True

/-- Whether a value lies in a leap second. -/
def inLeapSecond : Value → Bool
  | time t => t.isLeapSecond
  | dateTime t => t.time.isLeapSecond
  | dateTimeTz t => t.utc.time.isLeapSecond
  | _ => false

/-- The year that a value is stored with, if it has one, has 16 bits. -/
def YearFits : Value → Prop
  | date d => 0 ≤ d.year ∧ d.year < 2 ^ 16
  | dateTime t => 0 ≤ t.date.year ∧ t.date.year < 2 ^ 16
  | dateTimeTz t => 0 ≤ t.utc.date.year ∧ t.utc.date.year < 2 ^ 16
  | _ => True

/-- What is left of a value. -/
def stored : Value → Value
  | decimal d => decimal d.dropZeroSign
  | time t => time t.wholeMicros
  | dateTime t => dateTime t.wholeMicros
  | dateTimeTz t => dateTimeTz (.atUtc t.utc.wholeMicros)
  | v => v

end Value

namespace MySql

namespace Datum

variable {type : ColumnType}

/-! ## What comes back -/

/-- An integer comes back with 64 bits, as the same number, and is fetched in its own kind
as it was. -/
theorem coerce_toValue_integer {v : Value} {kind : Kind} {width : Nat}
    (hk : kind.width? = some width) (h : v.HasShape kind) (type : Option ColumnType) :
    ((ofValue v).toValue type).coerce kind = .ok v := by
  obtain ⟨n, hn, -, hfetched⟩ := h.exists_number hk
  have hsame : ((ofValue v).toValue type).asInteger? = v.asInteger? ∧
      ((ofValue v).toValue type).isNull = false := by
    cases h with
    | int8 n | int16 n | int32 n => exact ⟨congrArg some n.toInt_toInt64, rfl⟩
    | int64 n => exact ⟨rfl, rfl⟩
    | _ => cases hk
  exact Value.coerce_of_coerce? hsame.2 (hfetched _ (hsame.1.trans hn))

/-- A text comes back as a string. -/
theorem toValue_ofText (h : type.isDecimal = false) (s : String) :
    (ofText s).toValue (some type) = .string s := by
  simp only [ofText, toValue, bytesToValue, Option.any_some, h, Bool.false_eq_true, if_false,
    String.fromUTF8?_toUTF8]

/-- Bytes come back as they are, or as the text that they are in UTF-8; the
text's bytes are the same. -/
theorem coerce_toValue_bytes (h : type.isDecimal = false) (b : ByteArray) :
    ((bytes b).toValue (some type)).coerce .bytes = .ok (.bytes b) := by
  simp only [toValue, bytesToValue, Option.any_some, h, Bool.false_eq_true, if_false]
  cases hread : String.fromUTF8? b with
  | none => rfl
  | some s =>
      apply Value.coerce_of_coerce? rfl
      simp only [Value.coerce?, Value.coerceBytes?, String.toUTF8_of_fromUTF8? hread]

/-- A decimal comes back from its text. -/
theorem toValue_ofDecimal (h : type.isDecimal = true) (d : Decimal) :
    (ofDecimal d).toValue (some type) = .decimal d.dropZeroSign := by
  simp only [ofDecimal, ofText, toValue, bytesToValue, Option.any_some, h, if_true,
    String.fromUTF8?_toUTF8, Option.bind_some, String.toList_ofList, Decimal.ofText?_text]

/-- A time that is in no leap second has whole microseconds. -/
theorem make?_wholeMicros {t : Time} (h : t.isLeapSecond = false) :
    Time.make? t.hour t.minute t.second (1000 * (t.nanosecond / 1000)) = some t.wholeMicros := by
  have hnano : t.nanosecond < nanosPerSecond := by
    have := of_decide_eq_false h
    omega
  have hparts : t.hour < 24 ∧ t.minute < 60 ∧ t.second < 60 ∧
      1000 * (t.nanosecond / 1000) < 2000000000 :=
    ⟨t.hour_lt, t.minute_lt, t.second_lt, t.wholeMicros.nanosecond_lt⟩
  unfold Time.make?
  rw [dif_pos hparts, if_pos (Or.inl (by omega))]
  rfl

theorem toNat_micros (t : Time) : (micros t).toNat = t.nanosecond / 1000 := by
  have hlt := t.nanosecond_lt
  exact UInt32.toNat_ofNat_of_lt' (by show _ < 2 ^ 32; omega)

/-- An hour, a minute or a second has 8 bits. -/
theorem toNat_ofNat_of_lt {n : Nat} (h : n < 60) : (UInt8.ofNat n).toNat = n :=
  UInt8.toNat_ofNat_of_lt' (by show _ < 2 ^ 8; omega)

/-- A time of day comes back as one. -/
theorem toValue_ofTime {t : Time} (h : t.isLeapSecond = false) (type : Option ColumnType) :
    (ofTime t).toValue type = .time t.wholeMicros := by
  have hhour := t.hour_lt
  have hhours : ((0 : UInt32) * 24 + (UInt8.ofNat t.hour).toUInt32).toNat = t.hour := by
    rw [UInt32.zero_mul, UInt32.zero_add, UInt8.toNat_toUInt32, toNat_ofNat_of_lt (by omega)]
  simp only [ofTime, toValue, spanToValue, hhours, toNat_ofNat_of_lt t.minute_lt,
    toNat_ofNat_of_lt t.second_lt, toNat_micros, Bool.false_eq_true, if_false,
    make?_wholeMicros h]

theorem toNat_ofInt {year : Int} (h : 0 ≤ year ∧ year < 2 ^ 16) :
    ((UInt16.ofInt year).toNat : Int) = year := by
  have hmod : year % 2 ^ 16 = year := Int.emod_eq_of_lt h.1 h.2
  have hlt : year.toNat < 2 ^ 16 := by omega
  unfold UInt16.ofInt
  rw [hmod, UInt16.toNat_ofNat_of_lt' hlt, Int.toNat_of_nonneg h.1]

/-- Months and days fit into 8 bits. -/
theorem toNat_month (d : Date) : (UInt8.ofNat d.month).toNat = d.month :=
  toNat_ofNat_of_lt (Nat.lt_of_le_of_lt d.month_le (by decide))

theorem toNat_day (d : Date) : (UInt8.ofNat d.day).toNat = d.day :=
  toNat_ofNat_of_lt (Nat.lt_of_le_of_lt d.day_le (by decide))

/-- The date of a date-time comes back. -/
theorem make?_date {d : Date} (h : 0 ≤ d.year ∧ d.year < 2 ^ 16) :
    Date.make? (UInt16.ofInt d.year).toNat (UInt8.ofNat d.month).toNat (UInt8.ofNat d.day).toNat =
      some d := by
  rw [toNat_ofInt h, toNat_month, toNat_day, Date.make?_self]

/-- A date comes back from a column of dates. -/
theorem toValue_ofDate (htype : type.isDate = true) {d : Date}
    (hyear : 0 ≤ d.year ∧ d.year < 2 ^ 16) : (ofDate d).toValue (some type) = .date d := by
  simp only [ofDate, ofDateTime, DateTime.ofDate, toValue, dateToValue, make?_date hyear,
    Option.any_some, htype, if_true]

/-- A date-time comes back from a column that keeps the time. -/
theorem toValue_ofDateTime (htype : type.isDate = false) {t : DateTime}
    (hyear : 0 ≤ t.date.year ∧ t.date.year < 2 ^ 16) (hleap : t.time.isLeapSecond = false) :
    (ofDateTime t).toValue (some type) = .dateTime t.wholeMicros := by
  have hhour : t.time.hour < 60 := by have := t.time.hour_lt; omega
  simp only [ofDateTime, toValue, dateToValue, make?_date hyear, Option.any_some, htype,
    Bool.false_eq_true, if_false, toNat_ofNat_of_lt hhour, toNat_ofNat_of_lt t.time.minute_lt,
    toNat_ofNat_of_lt t.time.second_lt, toNat_micros, make?_wholeMicros hleap]
  rfl

/-- **Storing a value and fetching it gives what is left.** -/
theorem store_then_fetch {v : Value} {kind : Kind} {type : ColumnType} (hkind : v.HasKind kind)
    (hsuits : v.Suits type) (hleap : v.inLeapSecond = false) (hyear : v.YearFits) :
    ((ofValue v).toValue (some type)).coerce kind = .ok v.stored := by
  cases v with
  | null => rfl
  | bool b =>
      cases hkind
      cases b <;> rfl
  | int8 n | int16 n | int32 n | int64 n =>
      cases hkind
      exact coerce_toValue_integer rfl (by constructor) (some type)
  | float32 x =>
      cases hkind
      apply Value.coerce_of_coerce? rfl
      simp only [ofValue, toValue, Value.coerce?, Value.asDouble?, Option.map_some,
        Binary.toFormat_toFormat Format.single_widens_double, Value.stored]
  | float64 x =>
      cases hkind
      rfl
  | decimal d =>
      cases hkind
      rw [ofValue, toValue_ofDecimal hsuits]
      rfl
  | string s =>
      cases hkind
      rw [ofValue, toValue_ofText hsuits]
      rfl
  | bytes b =>
      cases hkind
      exact coerce_toValue_bytes hsuits b
  | date d =>
      cases hkind
      rw [ofValue, toValue_ofDate hsuits hyear]
      rfl
  | time t =>
      cases hkind
      rw [ofValue, toValue_ofTime hleap]
      rfl
  | dateTime t =>
      cases hkind
      rw [ofValue, toValue_ofDateTime hsuits hyear hleap]
      rfl
  | dateTimeTz t =>
      cases hkind
      rw [ofValue, toValue_ofDateTime hsuits hyear hleap]
      apply Value.coerce_of_coerce? rfl
      simp only [Value.coerce?, Value.coerceDateTimeTz?, OffsetDateTime.ofUtc?_utc,
        Option.map_some, Value.stored]
  | uuid u =>
      cases hkind
      rw [ofValue, toValue_ofText hsuits]
      apply Value.coerce_of_coerce? rfl
      simp only [Value.coerce?, Value.coerceUuid?, String.toList_ofList, Uuid.trim_text,
        Uuid.ofText?_text, Option.map_some, Value.stored]

/-- Half an hour before midnight UTC at the end of a year, read from a clock
that shows the next year already; and a negative zero with two places. -/
theorem fetch_new_year_and_negative_zero :
    let v := Value.dateTimeTz ⟨⟨⟨2023, 12, 31, by decide⟩,
      ⟨23, 30, 0, 123456789, by decide, by decide, by decide, by decide⟩⟩,
      ⟨3600, by decide, by decide⟩, by decide⟩
    let zero := Value.decimal ⟨true, 0, 2, by decide, by decide⟩
    ((ofValue v).toValue (some ⟨12⟩)).coerce .dateTimeTz = .ok v.stored ∧
      ((ofValue zero).toValue (some ⟨246⟩)).coerce .decimal =
        .ok (.decimal ⟨false, 0, 2, by decide, by decide⟩) :=
  ⟨store_then_fetch rfl rfl rfl ⟨by decide, by decide⟩,
    store_then_fetch (v := .decimal ⟨true, 0, 2, by decide, by decide⟩) rfl rfl rfl trivial⟩

end Datum

end MySql

end SqlAccess
