import SqlAccess.MySql.Datum
import SqlAccess.Proofs.Number.Numerals

/-!
# Columns of decimals

The server writes the numbers of a decimal column as numerals, with up to 65 digits and
up to 30 of them behind the point.  A decimal has room for fewer.  A numeral that is too
large for a decimal is passed on as the bytes it came in, and no digit is lost.  One that
has too many places is not: it is rounded to the places there are, and nothing in the
value tells.

* `Datum.ofNumeral` — a numeral on the wire;
* `Datum.KeepsDigits` — what decoding is to preserve;
* `numerals_rounded` — **what a decimal column gives for a numeral**: its bytes, or a
  decimal within half a unit of the last place; and the numerals that are kept;
* `digits_lost` — one that is not.
-/

namespace SqlAccess.MySql

open Text

namespace Datum

/-- A numeral, as the server sends it. -/
def ofNumeral (x : Numeral) : Datum := ofText (String.ofList x.text)

/-- Whether a value has all digits of a numeral: it is a decimal with just its number,
or else the numeral's own bytes. -/
def KeepsDigits (x : Numeral) (v : Value) : Prop :=
  (∃ d, v = .decimal d ∧ d.value = x.value) ∨ v = .bytes (String.ofList x.text).toUTF8

@[simp] theorem keepsDigits_bytes (x : Numeral) :
    KeepsDigits x (.bytes (String.ofList x.text).toUTF8) := .inr rfl

@[simp] theorem keepsDigits_decimal {x : Numeral} {d : Decimal} :
    KeepsDigits x (.decimal d) ↔ d.value = x.value := by
  constructor
  · rintro (⟨_, ⟨⟩, hvalue⟩ | hbytes)
    · exact hvalue
    · cases hbytes
  · intro hvalue
    exact .inl ⟨d, rfl, hvalue⟩

variable {type : Option ColumnType}

/-- In a decimal column, a numeral is the decimal that can be read from it, or its bytes. -/
theorem toValue_ofNumeral (htype : type.any ColumnType.isDecimal = true) (x : Numeral) :
    (ofNumeral x).toValue type =
      ((Decimal.ofText? x.text).map Value.decimal).getD
        (.bytes (String.ofList x.text).toUTF8) := by
  simp only [ofNumeral, ofText, toValue, bytesToValue, htype, if_true, String.fromUTF8?_toUTF8,
    Option.bind_some, String.toList_ofList]
  cases Decimal.ofText? x.text with
  | none => rfl
  | some d => rfl

end Datum

open Datum

/-- **What a decimal column gives for a numeral.**  If it rounds to `2 ^ 96` or more, its
bytes; else a decimal that is no more than half a unit of its last place away, with as many
places as there is room for.  So all digits are kept if there is a decimal with the same
number, or if the numeral is as large as that; any other loses some. -/
theorem numerals_rounded {type : Option ColumnType} (htype : type.any ColumnType.isDecimal = true)
    (x : Numeral) :
    let v := (ofNumeral x).toValue type
    (2 ^ 96 - 1 / 2 ≤ |x.value| → v = .bytes (String.ofList x.text).toUTF8) ∧
      (|x.value| < 2 ^ 96 - 1 / 2 →
        ∃ d, v = .decimal d ∧ d.Rounds x.value) ∧
      (KeepsDigits x v ↔
        2 ^ 96 - 1 / 2 ≤ |x.value| ∨ ∃ e : Decimal, e.value = x.value) := by
  intro v
  have hv : v = _ := toValue_ofNumeral htype x
  rcases Decimal.ofText?_numeral x with ⟨hlarge, hnone⟩ | ⟨hsmall, d, hread, hrounds, hexact⟩
  · have hbytes : v = .bytes (String.ofList x.text).toUTF8 := by rw [hv, hnone]; rfl
    refine ⟨fun _ => hbytes, fun hsmall => absurd hlarge (not_le_of_gt hsmall), ?_⟩
    rw [hbytes]
    exact iff_of_true (keepsDigits_bytes x) (.inl hlarge)
  · have hdecimal : v = .decimal d := by rw [hv, hread]; rfl
    refine ⟨fun hlarge => absurd hlarge (not_le_of_gt hsmall), fun _ => ⟨d, hdecimal, hrounds⟩, ?_⟩
    rw [hdecimal, keepsDigits_decimal]
    constructor
    · intro hvalue
      exact .inr ⟨d, hvalue⟩
    · rintro (hlarge | hsame)
      · exact absurd hlarge (not_le_of_gt hsmall)
      · exact hexact hsame

/-- The least numeral with one place that is too large for a decimal. -/
def roundsToBound : Numeral where
  negative := false
  whole := "79228162514264337593543950335".toList
  places := some ['5']
  whole_ne := by decide
  isDigit_whole := List.all_eq_true.mp rfl
  isDigit_places
    | _, rfl => List.all_eq_true.mp rfl

/-- It is passed on in its bytes. -/
theorem numerals_rounded_bytes :
    let type : Option ColumnType := some ⟨246⟩
    type.any ColumnType.isDecimal = true ∧ 2 ^ 96 - 1 / 2 ≤ |roundsToBound.value| ∧
      (ofNumeral roundsToBound).toValue type =
        .bytes "79228162514264337593543950335.5".toUTF8 := by
  intro type
  have htype : type.any ColumnType.isDecimal = true := rfl
  have hlarge : 2 ^ 96 - 1 / 2 ≤ |roundsToBound.value| := by decide +kernel
  exact ⟨htype, hlarge, (numerals_rounded htype roundsToBound).1 hlarge⟩

/-- The smallest number of a column with thirty places. -/
def smallest : Numeral where
  negative := false
  whole := ['0']
  places := some "000000000000000000000000000001".toList
  whole_ne := by decide
  isDigit_whole := List.all_eq_true.mp rfl
  isDigit_places
    | _, rfl => List.all_eq_true.mp rfl

/-- It is decoded as zero. -/
theorem digits_lost :
    (ofNumeral smallest).toValue (some ⟨246⟩) =
        .decimal ⟨false, 0, 28, by decide, by decide⟩ ∧
      ¬ KeepsDigits smallest ((ofNumeral smallest).toValue (some ⟨246⟩)) := by
  have hzero : (ofNumeral smallest).toValue (some ⟨246⟩) =
      .decimal ⟨false, 0, 28, by decide, by decide⟩ := by
    rw [toValue_ofNumeral rfl]
    decide +kernel
  refine ⟨hzero, ?_⟩
  rw [hzero, keepsDigits_decimal]
  decide +kernel

end SqlAccess.MySql
