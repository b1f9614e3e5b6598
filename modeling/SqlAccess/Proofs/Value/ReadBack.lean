import SqlAccess.Proofs.Calendar.ReadBack
import SqlAccess.Proofs.Number.Integers
import SqlAccess.Proofs.Value.Fetch

/-!
# Values are read back from their text

A truth value, an integer, a decimal, a date, a time, a date-time or an
identifier that is fetched as text is told by this text: fetched in the value's
own kind, it is the value again, and blanks around it do not matter.  Only the
sign of a zero decimal is lost.  A leap second must be where there can be one, at
the end of a minute; elsewhere its text is that of another time.

* `Value.Legible` — these values, each with its kind;
* `Value.dropZeroSign` — what is read back;
* `Legible.trim_text`, `Legible.coerce?_text` — the text without its blanks, and
  what it is in the value's kind;
* `Value.read_back_from_text` — **values are read back from their text**.
-/

namespace SqlAccess

open Text

namespace Value

/-- The values that their text tells, each with its own kind. -/
inductive Legible : Value → Kind → Prop
  | bool (b : Bool) : Legible (.bool b) .bool
  | int8 (n : Int8) : Legible (.int8 n) .int8
  | int16 (n : Int16) : Legible (.int16 n) .int16
  | int32 (n : Int32) : Legible (.int32 n) .int32
  | int64 (n : Int64) : Legible (.int64 n) .int64
  | decimal (d : Decimal) : Legible (.decimal d) .decimal
  | date (d : Date) : Legible (.date d) .date
  | time {t : Time} (h : t.LeapsAtEnd) : Legible (.time t) .time
  | dateTime {t : DateTime} (h : t.time.LeapsAtEnd) : Legible (.dateTime t) .dateTime
  | uuid (u : Uuid) : Legible (.uuid u) .uuid

/-- The value, a decimal zero without its sign. -/
def dropZeroSign : Value → Value
  | decimal d => decimal d.dropZeroSign
  | v => v

variable {v : Value} {kind : Kind}

/-- A legible value is fetched as its text. -/
theorem Legible.coerce_string (h : v.Legible kind) : v.coerce .string = .ok (.string v.text) := by
  cases h <;> rfl

/-- There are no blanks at the ends of its text. -/
theorem Legible.trim_text (h : v.Legible kind) : trim v.text.toList = v.text.toList := by
  cases h with
  | bool b => cases b <;> decide
  | int8 n | int16 n | int32 n | int64 n =>
      rw [text, String.toList_ofList]
      exact trim_integerText _
  | decimal d =>
      rw [text, String.toList_ofList]
      exact d.trim_text
  | date d =>
      rw [text, String.toList_ofList]
      exact trim_of_no_blanks fun c hc => Date.isBlank_of_mem_text hc
  | @time t _ =>
      rw [text, String.toList_ofList]
      exact trim_of_no_blanks fun c hc => Time.isBlank_of_mem_text hc
  | @dateTime t _ =>
      rw [text, String.toList_ofList]
      exact t.trim_text
  | uuid u =>
      rw [text, String.toList_ofList]
      exact u.trim_text

/-- The text of an integer, but for blanks at its ends, is fetched as this integer. -/
theorem coerce?_of_integerText {width : Nat} {n : Int} {s : String} (h : v.HasShape kind)
    (hk : kind.width? = some width) (hn : v.asInteger? = some n)
    (htrim : trim s.toList = integerText n) : (string s).coerce? kind = some v := by
  obtain ⟨m, hm, hfits, hfetched⟩ := h.exists_number hk
  cases hn.symm.trans hm
  apply hfetched
  rw [asInteger?, htrim, readInteger?_integerText, Option.bind_some]
  exact fitBits?_of_fits (hfits.mono (Kind.width_le hk))

/-- **A text that is a legible value's, but for blanks at its ends, is fetched as
the value.** -/
theorem Legible.coerce?_text (h : v.Legible kind) {s : String}
    (htrim : trim s.toList = v.text.toList) : (string s).coerce? kind = some v.dropZeroSign := by
  cases h with
  | bool b =>
      rw [coerce?, coerceBool?, htrim]
      cases b <;> decide
  | int8 n | int16 n | int32 n | int64 n =>
      rw [text, String.toList_ofList] at htrim
      exact coerce?_of_integerText (by constructor) rfl rfl htrim
  | decimal d =>
      rw [text, String.toList_ofList] at htrim
      simp only [coerce?, coerceDecimal?, htrim, Decimal.ofText?_text, Option.map_some,
        dropZeroSign]
  | date d =>
      rw [text, String.toList_ofList] at htrim
      simp only [coerce?, coerceDate?, htrim, Date.ofText?_text, Option.map_some, dropZeroSign]
  | time hleap =>
      rw [text, String.toList_ofList] at htrim
      simp only [coerce?, coerceTime?, htrim, Time.ofText?_text hleap, Option.map_some,
        dropZeroSign]
  | dateTime hleap =>
      rw [text, String.toList_ofList] at htrim
      simp only [coerce?, coerceDateTime?, readDateTime?, htrim, DateTime.ofText?_text hleap,
        Option.some_or, Option.map_some, dropZeroSign]
  | uuid u =>
      rw [text, String.toList_ofList] at htrim
      simp only [coerce?, coerceUuid?, htrim, Uuid.ofText?_text, Option.map_some, dropZeroSign]

/-- **Values are read back from their text**, whatever blanks are around it. -/
theorem read_back_from_text (h : v.Legible kind) {before after : String}
    (hbefore : IsBlankText before) (hafter : IsBlankText after) :
    ∃ s, v.coerce .string = .ok (.string s) ∧
      (Value.string (before ++ s ++ after)).coerce kind = .ok v.dropZeroSign := by
  refine ⟨v.text, h.coerce_string, ?_⟩
  apply coerce_of_coerce? rfl
  apply h.coerce?_text
  rw [String.toList_append, String.toList_append,
    trim_append_blanks (isBlank_of_mem_of_isBlankText hbefore)
      (isBlank_of_mem_of_isBlankText hafter), h.trim_text]

/-- A leap second of the year -12344 between a line break and an ideographic space,
and a negative zero with all its places. -/
theorem read_back_from_text_at_leap_second :
    let t : DateTime := ⟨⟨-12344, 12, 31, by decide⟩,
      ⟨23, 59, 59, 1000000500, by decide, by decide, by decide, by decide⟩⟩
    let zero : Decimal := ⟨true, 0, 28, by decide, by decide⟩
    (∃ s, (Value.dateTime t).coerce .string = .ok (.string s) ∧
      (Value.string ("\n" ++ s ++ "\u3000")).coerce .dateTime = .ok (.dateTime t)) ∧
    ∃ s, (Value.decimal zero).coerce .string = .ok (.string s) ∧
      (Value.string ("" ++ s ++ " ")).coerce .decimal =
        .ok (.decimal ⟨false, 0, 28, by decide, by decide⟩) := by
  intro t zero
  have hleap : t.time.LeapsAtEnd := fun _ => rfl
  exact ⟨read_back_from_text (.dateTime hleap) (by decide) (by decide),
    read_back_from_text (.decimal zero) (by decide) (by decide)⟩

end Value

end SqlAccess
