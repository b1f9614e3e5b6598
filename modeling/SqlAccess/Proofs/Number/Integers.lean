import Mathlib.Data.List.TakeWhile
import SqlAccess.Number.BinaryText
import SqlAccess.Proofs.Number.DecimalText
import SqlAccess.Proofs.Number.Exact

/-!
# Integers in other forms

An integer can be written in digits, and it can be held as a decimal without
places or as the floating-point number nearest to it.  Its text is read as the
integer itself, as that decimal and as that floating-point number; and the
decimal is turned into the integer and into the floating-point number, too.  So
it does not matter in which form an integer arrives.

* `Text.readInteger?_integerText` — the text as an integer;
* `Decimal.ofInt` and `Decimal.ofText?_integerText` — the text as a decimal;
* `Binary.ofText?_integerText` — the text as a floating-point number;
* `Decimal.toDouble_ofInt` — the decimal as a floating-point number.
-/

namespace SqlAccess

namespace Text

theorem isDigit_of_mem_digits {n : Nat} {c : Char} (h : c ∈ digits n) : c.isDigit = true :=
  Nat.isDigit_of_mem_toDigits (by decide) (by decide) h

theorem digits_ne_nil (n : Nat) : digits n ≠ [] := Nat.toDigits_ne_nil

theorem digitsValue_digits (n : Nat) : digitsValue (digits n) = n := Nat.ofDigitChars_ten_toDigits

theorem toLower_of_isDigit {c : Char} (h : c.isDigit = true) : c.toLower = c := by
  have hdigit := toNat_of_isDigit h
  have hupper : ¬ (c.val ≥ 65 ∧ c.val ≤ 90) := by
    simp only [ge_iff_le, UInt32.le_iff_toNat_le]
    change ¬ (65 ≤ c.toNat ∧ c.toNat ≤ 90)
    omega
  exact dif_neg hupper

theorem takeDigits_digits (n : Nat) : takeDigits (digits n) = (digits n, []) := by
  have hread : takeDigits (digits n ++ []) = (digits n, []) :=
    takeDigits_append (fun c hc => isDigit_of_mem_digits hc) nofun
  rwa [List.append_nil] at hread

/-- The sign of an integer's text is its own. -/
theorem takeSign_integerText (n : Int) :
    takeSign (integerText n) = (decide (n < 0), digits n.natAbs) := by
  unfold integerText
  split
  · next h =>
      rw [decide_eq_true h]
      rfl
  · next h =>
      obtain ⟨c, rest, hdigits⟩ := List.exists_cons_of_ne_nil (digits_ne_nil n.natAbs)
      have hc : c.isDigit = true := isDigit_of_mem_digits (hdigits ▸ List.mem_cons_self)
      rw [decide_eq_false h, hdigits, takeSign_of_isDigit hc]

/-- **An integer is read back from its text.** -/
theorem readInteger?_integerText (n : Int) : readInteger? (integerText n) = some n := by
  have hall : (digits n.natAbs).all Char.isDigit = true :=
    List.all_eq_true.mpr fun c hc => isDigit_of_mem_digits hc
  simp only [readInteger?, takeSign_integerText, digitsValue_digits, signed]
  rw [if_pos ⟨digits_ne_nil _, hall⟩]
  by_cases h : n < 0
  · rw [decide_eq_true h, if_pos rfl]
    congr 1
    omega
  · rw [decide_eq_false h, if_neg Bool.false_ne_true]
    congr 1
    omega

/-- A text among some words is the number of one of them. -/
theorem mem_of_integerText {n : Int} {words : List String}
    (h : String.ofList (integerText n) ∈ words) :
    n ∈ words.filterMap fun word => readInteger? word.toList := by
  apply List.mem_filterMap.mpr
  exact ⟨_, h, by rw [String.toList_ofList, readInteger?_integerText]⟩

theorem integerText_natCast (n : Nat) : integerText n = digits n := by
  rw [integerText, if_neg (by omega), Int.natAbs_natCast]

theorem toLower_digits (n : Nat) : (digits n).map Char.toLower = digits n := by
  apply (List.map_congr_left fun c hc => toLower_of_isDigit (isDigit_of_mem_digits hc)).trans
  exact List.map_id' _

theorem toLower_integerText (n : Int) : (integerText n).map Char.toLower = integerText n := by
  unfold integerText
  split
  · rw [List.map_cons, toLower_digits]
    rfl
  · exact toLower_digits _

/-- The text of an integer holds no blanks. -/
theorem trim_integerText (n : Int) : trim (integerText n) = integerText n := by
  apply trim_of_no_blanks
  intro c hc
  unfold integerText at hc
  split at hc
  · rcases List.mem_cons.mp hc with rfl | hdigit
    · decide
    · exact isBlank_of_isDigit (isDigit_of_mem_digits hdigit)
  · exact isBlank_of_isDigit (isDigit_of_mem_digits hc)

end Text

open Text

namespace Decimal

/-- An integer as a decimal, which has no places. -/
def ofInt (n : Int) (h : n.natAbs < 2 ^ 96) : Decimal :=
  ⟨decide (n < 0), n.natAbs, 0, h, (ofNat n.natAbs h).scale_le⟩

variable {n : Int}

theorem ofNat_eq_ofInt (n : Nat) (h : n < 2 ^ 96) : ofNat n h = ofInt n h := by
  have hsign : decide ((n : Int) < 0) = false := decide_eq_false (by omega)
  simp only [ofNat, ofInt, hsign, Int.natAbs_natCast]

theorem text_ofInt (h : n.natAbs < 2 ^ 96) : (ofInt n h).text = integerText n := by
  have hdigits : padded 1 n.natAbs = digits n.natAbs := by
    have hpos : 0 < (digits n.natAbs).length := List.length_pos_iff.mpr (digits_ne_nil _)
    rw [padded, Nat.sub_eq_zero_of_le hpos]
    rfl
  simp only [text, ofInt, if_pos, Nat.zero_add, hdigits, integerText, decide_eq_true_eq]

/-- An integer's text is read as the decimal; zero has no sign to lose. -/
theorem ofText?_integerText (h : n.natAbs < 2 ^ 96) :
    ofText? (integerText n) = some (ofInt n h) := by
  rw [← text_ofInt h, ofText?_text]
  congr 1
  simp only [dropZeroSign, ofInt]
  congr 1
  by_cases hn : n < 0
  · have hne : n.natAbs ≠ 0 := by omega
    simp [hn, hne]
  · simp [hn]

theorem truncate_ofInt (h : n.natAbs < 2 ^ 96) : (ofInt n h).truncate = n := by
  simp only [truncate, ofInt, Nat.pow_zero, Nat.div_one, decide_eq_true_eq]
  split <;> omega

/-- The decimal of an integer and the integer itself are rounded alike. -/
theorem toDouble_ofInt (h : n.natAbs < 2 ^ 96) : (ofInt n h).toDouble = Binary.ofInt n := by
  have hsign : (decide (n < 0) && (n.natAbs != 0 || (0 : Nat) != 0)) = decide (n < 0) := by
    by_cases hn : n < 0
    · have hne : n.natAbs ≠ 0 := by omega
      simp [hn, hne]
    · simp [hn]
  simp only [toDouble, toMagnitude, ofInt, hsign, Nat.pow_zero, Nat.div_one, Nat.mod_one, if_pos,
    Binary.ofInt]

end Decimal

namespace Format

theorem nearest_zero (F : Format) : F.nearest 0 1 = F.zero := by
  apply nearest_of_units Nat.one_pos
  simp [units, significand, zero]

end Format

/-- A whole number of a moderate size is rounded as it is. -/
theorem Scientific.nearest_whole (F : Format) {n : Nat} (h : n < 10 ^ 400) :
    (Scientific.mk n 0).nearest F = F.ofNat n := by
  have hlength : (digits n).length ≤ 400 :=
    (Nat.length_toDigits_le_iff (by decide) (by decide)).mpr h
  unfold nearest
  by_cases hn : n = 0
  · subst hn
    rw [if_pos (Or.inl rfl)]
    exact F.nearest_zero.symm
  · have hsmall : ¬ (n = 0 ∨ (0 : Int) + (digits n).length < -400) := by omega
    have hlarge : ¬ 400 < (0 : Int) + (digits n).length := by omega
    simp only [if_neg hsmall, if_neg hlarge]
    simp [numerator, denominator, Format.ofNat]

namespace Binary

/-- Digits alone are a number without a fraction and without an exponent. -/
theorem readScientific?_digits (n : Nat) : readScientific? (digits n) = some ⟨n, 0⟩ := by
  have htake : takeDigits (digits n) = (digits n, []) := takeDigits_digits n
  simp only [readScientific?, htake]
  simp [digits_ne_nil, readExponent?, digitsValue_digits]

/-- **The text of an integer is read as the number nearest to it.** -/
theorem ofText?_integerText (F : Format) {n : Int} (h : n.natAbs < 10 ^ 400) :
    ofText? F (integerText n) = some (ofInt n) := by
  have hword : String.ofList ((digits n.natAbs).map Char.toLower) ∉ ["inf", "infinity", "nan"] := by
    -- None of the words is a number.
    rw [toLower_digits, ← integerText_natCast]
    exact fun h => nomatch mem_of_integerText h
  simp only [List.mem_cons, List.not_mem_nil, or_false, not_or] at hword
  obtain ⟨hinf, hinfinity, hnan⟩ := hword
  simp only [ofText?, takeSign_integerText, hinf, hinfinity, hnan, or_self, if_false,
    readScientific?_digits, Option.map_some, Scientific.nearest_whole F h, ofInt]

end Binary

end SqlAccess
