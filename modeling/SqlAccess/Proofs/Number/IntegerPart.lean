import Mathlib.Data.Rat.Floor
import SqlAccess.Number.Decimal.Basic
import SqlAccess.Proofs.Text.ReadBack

/-!
# Integer parts

A number that is fetched as an integer loses its fraction.  Decimals and
floating-point numbers cut it off in their own ways, by dividing magnitudes; both
ways are the same one, toward zero, on the rational number that is meant.

* `towardZero` — a rational number without its fraction;
* `Decimal.value`, `Binary.value?` — the rational numbers behind the two forms;
* `Decimal.towardZero_value`, `Binary.truncate?_eq` — **their integer parts are
  cut toward zero**;
* `Text.SpellsInteger` — the texts that are integers.
-/

namespace SqlAccess

/-- A number without its fraction: the nearest integer on the side of zero. -/
def towardZero (q : ℚ) : ℤ := if 0 ≤ q then ⌊q⌋ else ⌈q⌉

theorem towardZero_natCast_div (m d : ℕ) : towardZero (m / d) = (m / d : ℕ) := by
  have hpos : (0 : ℚ) ≤ m / d := div_nonneg (Nat.cast_nonneg m) (Nat.cast_nonneg d)
  rw [towardZero, if_pos hpos, Rat.floor_natCast_div_natCast, Int.natCast_div]

/-- The two sides of zero are cut alike. -/
theorem towardZero_neg (q : ℚ) : towardZero (-q) = -towardZero q := by
  unfold towardZero
  rcases lt_trichotomy q 0 with hneg | rfl | hpos
  · rw [if_pos (neg_nonneg.mpr hneg.le), if_neg (not_le.mpr hneg), Int.floor_neg]
  · simp
  · rw [if_neg (not_le.mpr (neg_neg_of_pos hpos)), if_pos hpos.le, Int.ceil_neg]

/-- An integer has nothing to cut off. -/
theorem towardZero_intCast (n : ℤ) : towardZero n = n := by
  unfold towardZero
  split
  · exact Int.floor_intCast n
  · exact Int.ceil_intCast n

/-- A fraction with its sign apart is cut by dividing the magnitudes. -/
theorem towardZero_signed (negative : Bool) (m d : ℕ) :
    towardZero (if negative then -(m / d : ℚ) else m / d) =
      if negative then -((m / d : ℕ) : ℤ) else (m / d : ℕ) := by
  cases negative with
  | false => exact towardZero_natCast_div m d
  | true =>
      have hneg := towardZero_neg (m / d)
      rw [towardZero_natCast_div] at hneg
      exact hneg

namespace Decimal

/-- The number that a decimal is. -/
def value (d : Decimal) : ℚ := d.signedMantissa / 10 ^ d.scale

theorem value_eq (d : Decimal) :
    d.value = if d.negative then -(d.mantissa / (10 ^ d.scale : ℕ) : ℚ)
      else d.mantissa / (10 ^ d.scale : ℕ) := by
  unfold value signedMantissa
  split
  · push_cast
    rw [neg_div]
  · push_cast
    rfl

/-- **The integer part of a decimal is cut toward zero.** -/
theorem towardZero_value (d : Decimal) : towardZero d.value = d.truncate := by
  rw [value_eq, towardZero_signed]
  rfl

end Decimal

namespace Binary

variable {F : Format}

/-- The number that a floating-point number is, if it is a finite one. -/
def value? : Binary F → Option ℚ
  | .nan => none
  | .number negative rank =>
    if rank = F.infinity then none
    else
      let magnitude : ℚ := F.units rank / (2 ^ F.stepExponent : ℕ)
      some (if negative then -magnitude else magnitude)

/-- **The integer part of a floating-point number is cut toward zero**, if there is
one. -/
theorem truncate?_eq (x : Binary F) : x.truncate? = x.value?.map towardZero := by
  cases x with
  | nan => rfl
  | number negative rank =>
      simp only [truncate?, value?]
      split
      · rfl
      · exact congrArg some (towardZero_signed negative _ _).symm

end Binary

namespace Text

/-- The texts that are integers: digits, with a sign in front or without. -/
inductive SpellsInteger : List Char → Int → Prop
  | plain {ds : List Char} (hne : ds ≠ []) (hds : ∀ c ∈ ds, c.isDigit = true) :
    SpellsInteger ds (digitsValue ds)
  | plus {ds : List Char} (hne : ds ≠ []) (hds : ∀ c ∈ ds, c.isDigit = true) :
    SpellsInteger ('+' :: ds) (digitsValue ds)
  | minus {ds : List Char} (hne : ds ≠ []) (hds : ∀ c ∈ ds, c.isDigit = true) :
    SpellsInteger ('-' :: ds) (-(digitsValue ds : Int))

theorem takeSign_cases (cs : List Char) :
    (∃ ds, cs = '-' :: ds ∧ takeSign cs = (true, ds)) ∨
      (∃ ds, cs = '+' :: ds ∧ takeSign cs = (false, ds)) ∨ takeSign cs = (false, cs) := by
  unfold takeSign
  split
  · exact .inl ⟨_, rfl, rfl⟩
  · exact .inr (.inl ⟨_, rfl, rfl⟩)
  · exact .inr (.inr rfl)

/-- **Reading integers takes just the texts that are integers.** -/
theorem readInteger?_eq_some_iff {cs : List Char} {n : Int} :
    readInteger? cs = some n ↔ SpellsInteger cs n := by
  constructor
  · intro h
    rcases takeSign_cases cs with ⟨ds, rfl, hsign⟩ | ⟨ds, rfl, hsign⟩ | hsign
    all_goals
      simp only [readInteger?, hsign, Option.ite_none_right_eq_some, List.all_eq_true,
        Option.some.injEq] at h
      obtain ⟨⟨hne, hds⟩, rfl⟩ := h
    · exact .minus hne hds
    · exact .plus hne hds
    · exact .plain hne hds
  · intro h
    cases h with
    | plus hne hds => exact if_pos ⟨hne, List.all_eq_true.mpr hds⟩
    | minus hne hds => exact if_pos ⟨hne, List.all_eq_true.mpr hds⟩
    | @plain ds hne hds =>
        obtain ⟨c, rest, rfl⟩ := List.exists_cons_of_ne_nil hne
        have hsign := takeSign_of_isDigit (hds c List.mem_cons_self) rest
        simp only [readInteger?, hsign]
        exact if_pos ⟨hne, List.all_eq_true.mpr hds⟩

end Text

end SqlAccess
