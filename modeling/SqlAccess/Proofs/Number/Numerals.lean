import Mathlib.Tactic.FieldSimp
import Mathlib.Tactic.Linarith
import Mathlib.Tactic.Positivity
import SqlAccess.Proofs.Number.DecimalText
import SqlAccess.Proofs.Number.IntegerPart

/-!
# Numerals as decimals

A numeral may have more digits than a decimal has room for.  Reading takes places as
long as they fit.  The first digit behind them rounds what was read, and the others
are passed over.  So the decimal is no more than half a unit of its last place away
from the numeral; and it is the numeral itself whenever a decimal can be, since places
that are kept out are either behind the last one there is or would make the mantissa
too long.

* `Text.Numeral` — numerals, and the numbers that they are;
* `Decimal.readFrom?_stops` — what is read before there is no room any more;
* `Decimal.Reading.Stops.finish?_cases` — the end of a reading;
* `Decimal.Rounds` — decimals that are near enough to a number;
* `Decimal.ofText?_numeral` — **numerals are read to half a unit of the last place**,
  and exactly where there is a decimal.
-/

namespace SqlAccess

open Text

namespace Text

/-- The number that digits behind a point are. -/
def fraction (ds : List Char) : ℚ := digitsValue ds / 10 ^ ds.length

@[simp] theorem fraction_nil : fraction [] = 0 := by simp [fraction, digitsValue]

/-- The first place counts tenths. -/
theorem fraction_cons (c : Char) (ds : List Char) :
    fraction (c :: ds) = ((c.toNat - '0'.toNat : ℕ) + fraction ds) / 10 := by
  have hdigits : digitsValue (c :: ds) =
      10 ^ ds.length * (c.toNat - '0'.toNat) + digitsValue ds := by
    rw [digitsValue, Nat.ofDigitChars_cons, Nat.ofDigitChars_eq_ofDigitChars_zero, Nat.mul_zero,
      Nat.zero_add]
    rfl
  simp only [fraction, hdigits, List.length_cons]
  push_cast
  field_simp
  ring

theorem fraction_nonneg (ds : List Char) : 0 ≤ fraction ds := by
  unfold fraction
  positivity

theorem digit_le {c : Char} (h : c.isDigit = true) : c.toNat - '0'.toNat ≤ 9 := by
  have hdigit := toNat_of_isDigit h
  change c.toNat - 48 ≤ 9
  omega

theorem fraction_lt_one {ds : List Char} (h : ∀ c ∈ ds, c.isDigit = true) : fraction ds < 1 := by
  induction ds with
  | nil => simp
  | cons c ds ih =>
      have hrest := ih fun x hx => h x (List.mem_cons_of_mem c hx)
      have hdigit : ((c.toNat - '0'.toNat : ℕ) : ℚ) ≤ 9 :=
        mod_cast digit_le (h c List.mem_cons_self)
      rw [fraction_cons]
      linarith

/-- The first place tells which half a fraction is in. -/
theorem half_le_fraction_cons {c : Char} {ds : List Char}
    (h : ∀ x ∈ c :: ds, x.isDigit = true) : 1 / 2 ≤ fraction (c :: ds) ↔ '5' ≤ c := by
  have hlt : fraction ds < 1 := fraction_lt_one fun x hx => h x (List.mem_cons_of_mem c hx)
  have hnonneg := fraction_nonneg ds
  have hfive : '5' ≤ c ↔ 5 ≤ c.toNat - '0'.toNat := by
    have hdigit := toNat_of_isDigit (h c List.mem_cons_self)
    change '5'.toNat ≤ c.toNat ↔ 5 ≤ c.toNat - 48
    change 53 ≤ c.toNat ↔ _
    omega
  rw [fraction_cons, hfive]
  generalize c.toNat - '0'.toNat = digit
  constructor
  · intro hhalf
    have hlt : (4 : ℚ) < digit := by linarith
    exact mod_cast hlt
  · intro hdigit
    have hle : (5 : ℚ) ≤ digit := mod_cast hdigit
    linarith

/-- A number in decimal digits: an optional minus, digits, and optionally a point with
digits behind it. -/
structure Numeral where
  negative : Bool
  whole : List Char
  places : Option (List Char)
  whole_ne : whole ≠ []
  isDigit_whole : ∀ c ∈ whole, c.isDigit = true
  isDigit_places : ∀ ds ∈ places, ∀ c ∈ ds, c.isDigit = true

namespace Numeral

/-- The point and what is behind it. -/
def tail (x : Numeral) : List Char :=
  match x.places with
  | none => []
  | some ds => '.' :: ds

/-- A numeral as a text. -/
def text (x : Numeral) : List Char :=
  (if x.negative then ['-'] else []) ++ x.whole ++ x.tail

/-- The number that a numeral is, but for its sign. -/
def magnitude (x : Numeral) : ℚ := digitsValue x.whole + fraction (x.places.getD [])

/-- The number that a numeral is. -/
def value (x : Numeral) : ℚ := if x.negative then -x.magnitude else x.magnitude

theorem magnitude_nonneg (x : Numeral) : 0 ≤ x.magnitude :=
  add_nonneg (Nat.cast_nonneg _) (fraction_nonneg _)

theorem abs_value (x : Numeral) : |x.value| = x.magnitude := by
  unfold value
  split
  · rw [abs_neg, abs_of_nonneg x.magnitude_nonneg]
  · exact abs_of_nonneg x.magnitude_nonneg

/-- A numeral is written in digits, a minus and a point. -/
theorem mem_text {x : Numeral} {c : Char} (h : c ∈ x.text) :
    c = '-' ∨ c = '.' ∨ c.isDigit = true := by
  simp only [text, List.mem_append] at h
  rcases h with (hsign | hwhole) | htail
  · split at hsign
    · exact .inl (List.mem_singleton.mp hsign)
    · cases hsign
  · exact .inr (.inr (x.isDigit_whole c hwhole))
  · unfold tail at htail
    split at htail
    · cases htail
    · rename_i ds hplaces
      rcases List.mem_cons.mp htail with rfl | hc
      · exact .inr (.inl rfl)
      · exact .inr (.inr (x.isDigit_places ds hplaces c hc))

/-- The sign of a numeral is its own. -/
theorem takeSign_text (x : Numeral) : takeSign x.text = (x.negative, x.whole ++ x.tail) := by
  obtain ⟨c, rest, hwhole⟩ := List.exists_cons_of_ne_nil x.whole_ne
  have hc : c.isDigit = true := x.isDigit_whole c (hwhole ▸ List.mem_cons_self)
  unfold text
  cases x.negative with
  | true => rfl
  | false => simp only [hwhole, Bool.false_eq_true, if_false, List.nil_append, List.cons_append,
      takeSign_of_isDigit hc]

end Numeral

end Text

namespace Decimal

/-! ## Digits that do not fit -/

/-- With more digits before the point than fit, nothing is read. -/
theorem readFrom?_before_of_long {ds : List Char} (hds : ∀ c ∈ ds, c.isDigit = true) {m : Nat}
    (hm : m < mantissaBound) (hlong : mantissaBound ≤ Nat.ofDigitChars 10 ds m) (seen : Bool)
    (rest : List Char) : readFrom? ⟨m, 0⟩ false seen (ds ++ rest) = none := by
  induction ds generalizing m seen with
  | nil => exact absurd hlong (Nat.not_le_of_lt hm)
  | cons c ds ih =>
      have hc := hds c List.mem_cons_self
      rw [Nat.ofDigitChars_cons] at hlong
      by_cases hnext : 10 * m + (c.toNat - '0'.toNat) < mantissaBound
      · rw [List.cons_append, readFrom?_digit_before hc hnext]
        exact ih (fun x hx => hds x (List.mem_cons_of_mem c hx)) hnext hlong true
      · rw [List.cons_append, readFrom?, if_pos hc]
        simp only [if_pos (Nat.le_of_not_lt hnext), Bool.false_eq_true, if_false]

namespace Reading

/-- The number that a reading is. -/
def value (r : Reading) : ℚ := r.mantissa / 10 ^ r.scale

/-- What was read of the number `q` when there was no room for more: `rest` are the
digits that are left. -/
structure Stops (q : ℚ) (r : Reading) (rest : List Char) : Prop where
  isDigit : ∀ c ∈ rest, c.isDigit = true
  mantissa_lt : r.mantissa < 2 ^ 96
  scale_le : r.scale ≤ 28
  value_eq : q = (r.mantissa + fraction rest) / 10 ^ r.scale
  /-- One digit more would be a place too many, or too large a mantissa. -/
  full : fraction rest ≠ 0 → r.scale = 28 ∨ 2 ^ 96 ≤ 10 * (r.mantissa + fraction rest)

/-- The first digit that is left rounds the reading, half up. -/
theorem finish?_of_isDigit {r : Reading} {rest : List Char} (h : ∀ c ∈ rest, c.isDigit = true) :
    r.finish? rest = if 1 / 2 ≤ fraction rest then r.roundUp? else some r := by
  have hall : (rest.all fun c => c.isDigit || c == '_') = true :=
    List.all_eq_true.mpr fun c hc => by rw [h c hc, Bool.true_or]
  cases rest with
  | nil =>
      have hzero : ¬ 1 / 2 ≤ fraction [] := by norm_num
      rw [finish?, if_pos hall, if_neg hzero]
      split <;> rfl
  | cons c ds =>
      have hc := h c List.mem_cons_self
      have hplain : ¬ (c == '_') = true := by
        intro heq
        rw [eq_of_beq heq] at hc
        exact absurd hc (by decide)
      have hdrop : (c :: ds).dropWhile (· == '_') = c :: ds := List.dropWhile_cons_of_neg hplain
      simp only [finish?, if_pos hall, hdrop, ite_self, List.head?_cons, Option.any_some, hc,
        Bool.true_and, decide_eq_true_eq, half_le_fraction_cons h]

theorem finish?_nil (r : Reading) : r.finish? [] = some r := by
  have hdigits : ∀ c ∈ ([] : List Char), c.isDigit = true := nofun
  have hzero : ¬ 1 / 2 ≤ fraction [] := by norm_num
  rw [finish?_of_isDigit hdigits, if_neg hzero]

end Reading

/-- A digit that makes the mantissa too long ends the places. -/
theorem readFrom?_digit_long {m s : Nat} {c : Char} (hc : c.isDigit = true)
    (hlong : mantissaBound ≤ 10 * m + (c.toNat - '0'.toNat)) (rest : List Char) :
    readFrom? ⟨m, s⟩ true true (c :: rest) = Reading.finish? ⟨m, s⟩ (c :: rest) := by
  rw [readFrom?, if_pos hc]
  simp only [if_pos hlong, if_true]

/-- So does the digit that fills the last place. -/
theorem readFrom?_digit_filling {m s : Nat} {c : Char} (hc : c.isDigit = true)
    (hfits : 10 * m + (c.toNat - '0'.toNat) < mantissaBound) (hscale : maxScale ≤ s + 1)
    (rest : List Char) :
    readFrom? ⟨m, s⟩ true true (c :: rest) =
      Reading.finish? ⟨10 * m + (c.toNat - '0'.toNat), s + 1⟩ rest := by
  rw [readFrom?, if_pos hc]
  simp only [if_neg (Nat.not_le_of_lt hfits), if_true, if_pos hscale, true_and]

/-- Reading places stops at the end, or where there is no room for more. -/
theorem readFrom?_stops {ds : List Char} (hds : ∀ c ∈ ds, c.isDigit = true) {m s : Nat}
    (hm : m < 2 ^ 96) (hs : s < 28) :
    ∃ (r : Reading) (rest : List Char), readFrom? ⟨m, s⟩ true true ds = r.finish? rest ∧
      r.Stops ((m + fraction ds) / 10 ^ s) rest := by
  induction ds generalizing m s with
  | nil =>
      refine ⟨⟨m, s⟩, [], (Reading.finish?_nil _).symm, ?_⟩
      exact ⟨nofun, hm, hs.le, rfl, fun h => absurd fraction_nil h⟩
  | cons c ds ih =>
      have hc := hds c List.mem_cons_self
      have hrest : ∀ x ∈ ds, x.isDigit = true := fun x hx => hds x (List.mem_cons_of_mem c hx)
      have hcons := fraction_cons c ds
      have hvalue : ((m : ℚ) + fraction (c :: ds)) / 10 ^ s =
          ((10 * m + (c.toNat - '0'.toNat) : ℕ) + fraction ds) / 10 ^ (s + 1) := by
        rw [hcons]
        push_cast
        field_simp
        ring
      by_cases hnext : 10 * m + (c.toNat - '0'.toNat) < 2 ^ 96
      · by_cases hplace : s + 1 < 28
        · obtain ⟨r, rest, hread, hstops⟩ := ih hrest hnext hplace
          exact ⟨r, rest, (readFrom?_digit_after hc hnext hplace ds).trans hread, hvalue ▸ hstops⟩
        · have hlast : s + 1 = 28 := by omega
          refine ⟨_, ds, readFrom?_digit_filling hc hnext hlast.ge ds, ?_⟩
          exact ⟨hrest, hnext, hlast.le, hvalue, fun _ => .inl hlast⟩
      · have hlong : 2 ^ 96 ≤ 10 * m + (c.toNat - '0'.toNat) := Nat.le_of_not_lt hnext
        refine ⟨_, c :: ds, readFrom?_digit_long hc hlong ds, ?_⟩
        refine ⟨hds, hm, hs.le, rfl, fun _ => .inr ?_⟩
        have hcast : (2 ^ 96 : ℚ) ≤ 10 * m + (c.toNat - '0'.toNat : ℕ) := mod_cast hlong
        have hnonneg := fraction_nonneg ds
        change (2 ^ 96 : ℚ) ≤ 10 * (m + fraction (c :: ds))
        rw [hcons]
        linarith

namespace Reading

variable {q : ℚ} {r : Reading} {rest : List Char}

/-- A number that a mantissa and a scale of a decimal make. -/
def Representable (q : ℚ) : Prop := ∃ m s : ℕ, m < 2 ^ 96 ∧ s ≤ 28 ∧ q = m / 10 ^ s

/-- If digits are left that are not all zeros, the number is not one of those. -/
theorem Stops.fraction_eq_zero (h : r.Stops q rest) (hq : Representable q) :
    fraction rest = 0 := by
  obtain ⟨m, s, hm, hs, hvalue⟩ := hq
  have hlt := fraction_lt_one h.isDigit
  by_contra hne
  have hpos : 0 < fraction rest := lt_of_le_of_ne (fraction_nonneg rest) (Ne.symm hne)
  have hunits : r.mantissa + fraction rest = q * 10 ^ r.scale := by
    rw [h.value_eq]
    field_simp
  by_cases hle : s ≤ r.scale
  · -- In units of the last place it is a whole number, and there is no fraction.
    have hpow : (10 : ℚ) ^ r.scale = 10 ^ (r.scale - s) * 10 ^ s := by
      rw [← pow_add, Nat.sub_add_cancel hle]
    have hwhole : r.mantissa + fraction rest = (m * 10 ^ (r.scale - s) : ℕ) := by
      rw [hunits, hvalue, hpow]
      push_cast
      field_simp
    have hlow : r.mantissa < m * 10 ^ (r.scale - s) := by
      have hcast : (r.mantissa : ℚ) < (m * 10 ^ (r.scale - s) : ℕ) := by linarith
      exact mod_cast hcast
    have hhigh : m * 10 ^ (r.scale - s) < r.mantissa + 1 := by
      have hcast : ((m * 10 ^ (r.scale - s) : ℕ) : ℚ) < (r.mantissa + 1 : ℕ) := by
        push_cast at hwhole ⊢
        linarith
      exact mod_cast hcast
    omega
  · -- With a place more its mantissa would be too long.
    have hlong : (2 ^ 96 : ℚ) ≤ 10 * (r.mantissa + fraction rest) := by
      rcases h.full hne with hlast | hlong
      · omega
      · exact hlong
    have hnonneg : 0 ≤ q := by
      rw [hvalue]
      positivity
    have hmore : q * 10 ^ (r.scale + 1) ≤ q * 10 ^ s :=
      mul_le_mul_of_nonneg_left (pow_le_pow_right₀ (by norm_num) (by omega)) hnonneg
    have hmantissa : q * 10 ^ s = m := by
      rw [hvalue]
      field_simp
    have hcast : (m : ℚ) < 2 ^ 96 := mod_cast hm
    rw [pow_succ, ← mul_assoc, ← hunits, hmantissa] at hmore
    linarith

/-- A reading that is the number `q`, as far as decimals go. -/
structure Rounds (r : Reading) (q : ℚ) : Prop where
  mantissa_lt : r.mantissa < 2 ^ 96
  scale_le : r.scale ≤ 28
  near : |r.value - q| ≤ 1 / 2 / 10 ^ r.scale
  /-- It has as many places as there is room for, unless it needs fewer. -/
  full : r.value ≠ q → r.scale = 28 ∨ 2 ^ 96 - 1 / 2 ≤ q * 10 ^ (r.scale + 1)
  exact : Representable q → r.value = q

/-- It is told from the number in units of the last place. -/
theorem Rounds.of_units {n s : ℕ} {u : ℚ} (hn : n < 2 ^ 96) (hs : s ≤ 28)
    (hq : q = u / 10 ^ s) (hnear : |n - u| ≤ 1 / 2)
    (hfull : (n : ℚ) ≠ u → s = 28 ∨ 2 ^ 96 - 1 / 2 ≤ 10 * u)
    (hexact : Representable q → (n : ℚ) = u) : Rounds ⟨n, s⟩ q where
  mantissa_lt := hn
  scale_le := hs
  near := by
    have hpos : (0 : ℚ) < 10 ^ s := by positivity
    rw [value, hq, ← sub_div, abs_div, abs_of_pos hpos]
    exact div_le_div_of_nonneg_right hnear hpos.le
  full h := by
    have hunits : q * 10 ^ (s + 1) = 10 * u := by
      rw [hq, pow_succ]
      field_simp
    rw [hunits]
    apply hfull
    rintro rfl
    exact h hq.symm
  exact h := by rw [value, hq, hexact h]

/-- A mantissa that fits is one below the bound at least. -/
theorem cast_mantissa_le {m : ℕ} (h : m < 2 ^ 96) : (m : ℚ) ≤ 2 ^ 96 - 1 := by
  have hle : m + 1 ≤ 2 ^ 96 := h
  have hcast : ((m + 1 : ℕ) : ℚ) ≤ (2 ^ 96 : ℕ) := mod_cast hle
  push_cast at hcast
  linarith

/-- Places do not make a number larger than its units. -/
theorem Stops.le_units (h : r.Stops q rest) : q ≤ r.mantissa + fraction rest := by
  have hnonneg := fraction_nonneg rest
  rw [h.value_eq]
  exact div_le_self (by positivity) (one_le_pow₀ (by norm_num))

/-- If less than half a unit is left, the reading is near enough. -/
theorem Stops.rounds (h : r.Stops q rest) (hless : fraction rest < 1 / 2) :
    q < 2 ^ 96 - 1 / 2 ∧ r.Rounds q := by
  have hnonneg := fraction_nonneg rest
  have hmantissa := cast_mantissa_le h.mantissa_lt
  have hunits := h.le_units
  refine ⟨by linarith, ?_⟩
  apply Rounds.of_units h.mantissa_lt h.scale_le h.value_eq
  case hnear =>
    rw [abs_le]
    constructor <;> linarith
  case hfull =>
    intro hne
    have hpart : fraction rest ≠ 0 := by
      intro hzero
      exact hne (by rw [hzero, add_zero])
    exact (h.full hpart).imp_right fun hlong => by linarith
  case hexact =>
    intro hrepresentable
    rw [h.fraction_eq_zero hrepresentable, add_zero]

section

variable (h : r.Stops q rest) (hhalf : 1 / 2 ≤ fraction rest)

include h hhalf

/-- A number with half a unit or more left is no decimal. -/
theorem Stops.not_representable : ¬ Representable q := by
  intro hrepresentable
  rw [h.fraction_eq_zero hrepresentable] at hhalf
  linarith

/-- If there is a next mantissa, it is near enough. -/
theorem Stops.rounds_next (hfits : r.mantissa + 1 < 2 ^ 96) :
    q < 2 ^ 96 - 1 / 2 ∧ Rounds ⟨r.mantissa + 1, r.scale⟩ q := by
  have hlt := fraction_lt_one h.isDigit
  have hmantissa := cast_mantissa_le hfits
  have hunits := h.le_units
  push_cast at hmantissa
  refine ⟨by linarith, ?_⟩
  apply Rounds.of_units hfits h.scale_le h.value_eq
  case hnear =>
    rw [abs_le]
    push_cast
    constructor <;> linarith
  case hfull =>
    intro _
    exact (h.full (by linarith)).imp_right fun hlong => by linarith
  case hexact => exact fun hrepresentable => absurd hrepresentable (h.not_representable hhalf)

/-- Behind the greatest mantissa a place is given up, if there is one. -/
theorem Stops.roundUp?_of_greatest (hlast : r.mantissa = 2 ^ 96 - 1) :
    (2 ^ 96 - 1 / 2 ≤ q ∧ r.roundUp? = none) ∨
      q < 2 ^ 96 - 1 / 2 ∧ ∃ r', r.roundUp? = some r' ∧ r'.Rounds q := by
  have hlt := fraction_lt_one h.isDigit
  have hq : q = ((2 ^ 96 - 1 : ℕ) + fraction rest) / 10 ^ r.scale := hlast ▸ h.value_eq
  rw [roundUp?, hlast, if_neg (by decide)]
  by_cases hscale : r.scale = 0
  · rw [if_pos hscale]
    refine .inl ⟨?_, rfl⟩
    rw [hq, hscale]
    push_cast
    linarith
  rw [if_neg hscale]
  have hsucc : (10 : ℚ) ^ r.scale = 10 * 10 ^ (r.scale - 1) := by
    rw [← pow_succ', Nat.sub_add_cancel (Nat.one_le_iff_ne_zero.mpr hscale)]
  have hten : q = ((2 ^ 96 - 1 : ℕ) + fraction rest) / 10 / 10 ^ (r.scale - 1) := by
    rw [hq, hsucc, div_div]
  have hsmall : q ≤ ((2 ^ 96 - 1 : ℕ) + fraction rest) / 10 := by
    rw [hten]
    exact div_le_self (by positivity) (one_le_pow₀ (by norm_num))
  push_cast at hsmall
  refine .inr ⟨by linarith, _, rfl, ?_⟩
  apply Rounds.of_units (by decide) (by have := h.scale_le; omega) hten
  case hnear =>
    rw [abs_le]
    norm_num
    constructor <;> linarith
  case hfull =>
    intro _
    right
    push_cast
    linarith
  case hexact => exact fun hrepresentable => absurd hrepresentable (h.not_representable hhalf)

end

/-- A reading that stopped is rounded; only a number that rounds to the bound of
mantissas is refused. -/
theorem Stops.finish?_cases (h : r.Stops q rest) :
    (2 ^ 96 - 1 / 2 ≤ q ∧ r.finish? rest = none) ∨
      q < 2 ^ 96 - 1 / 2 ∧ ∃ r', r.finish? rest = some r' ∧ r'.Rounds q := by
  rw [finish?_of_isDigit h.isDigit]
  by_cases hhalf : 1 / 2 ≤ fraction rest
  · rw [if_pos hhalf]
    by_cases hfits : r.mantissa + 1 < 2 ^ 96
    · obtain ⟨hsmall, hrounds⟩ := h.rounds_next hhalf hfits
      exact .inr ⟨hsmall, _, if_pos hfits, hrounds⟩
    · have hlt := h.mantissa_lt
      exact h.roundUp?_of_greatest hhalf (by omega)
  · rw [if_neg hhalf]
    obtain ⟨hsmall, hrounds⟩ := h.rounds (not_le.mp hhalf)
    exact .inr ⟨hsmall, r, rfl, hrounds⟩

end Reading

/-! ## Numerals -/

/-- The digits of a numeral are read as its magnitude, as far as decimals go. -/
theorem readFrom?_numeral (x : Numeral) :
    (2 ^ 96 - 1 / 2 ≤ x.magnitude ∧
        readFrom? ⟨0, 0⟩ false false (x.whole ++ x.tail) = none) ∨
      x.magnitude < 2 ^ 96 - 1 / 2 ∧
        ∃ r, readFrom? ⟨0, 0⟩ false false (x.whole ++ x.tail) = some r ∧ r.Rounds x.magnitude := by
  by_cases hwhole : digitsValue x.whole < 2 ^ 96
  · obtain ⟨r, rest, hread, hstops⟩ : ∃ (r : Reading) (rest : List Char),
        readFrom? ⟨digitsValue x.whole, 0⟩ false true x.tail = r.finish? rest ∧
          r.Stops x.magnitude rest := by
      unfold Numeral.tail Numeral.magnitude
      cases hplaces : x.places with
      | none =>
          refine ⟨⟨digitsValue x.whole, 0⟩, [], (Reading.finish?_nil _).symm, ?_⟩
          exact ⟨nofun, hwhole, Nat.zero_le 28, by simp, fun h => absurd fraction_nil h⟩
      | some ds =>
          have hstops := readFrom?_stops (x.isDigit_places ds hplaces) hwhole (by decide : 0 < 28)
          rw [pow_zero, div_one] at hstops
          exact hstops
    have hbefore : readFrom? ⟨0, 0⟩ false false (x.whole ++ x.tail) =
        readFrom? ⟨digitsValue x.whole, 0⟩ false true x.tail :=
      readFrom?_before x.isDigit_whole x.whole_ne hwhole x.tail
    rw [hbefore, hread]
    exact hstops.finish?_cases
  · have hlong : 2 ^ 96 ≤ digitsValue x.whole := Nat.le_of_not_lt hwhole
    refine .inl ⟨?_, readFrom?_before_of_long x.isDigit_whole (by decide) hlong false x.tail⟩
    have hcast : (2 ^ 96 : ℚ) ≤ digitsValue x.whole := mod_cast hlong
    have hnonneg := fraction_nonneg (x.places.getD [])
    unfold Numeral.magnitude
    linarith

/-- A reading becomes the decimal with its number; a zero has no sign to keep. -/
theorem exists_ofReading? {r : Reading} (hm : r.mantissa < 2 ^ 96) (hs : r.scale ≤ 28)
    (negative : Bool) :
    ∃ d, ofReading? negative r = some d ∧ d.scale = r.scale ∧
      d.value = if negative then -r.value else r.value := by
  refine ⟨_, dif_pos ⟨hm, hs⟩, rfl, ?_⟩
  unfold value signedMantissa Reading.value
  by_cases hzero : r.mantissa = 0
  · simp [hzero]
  · cases negative with
    | true => simp [hzero, neg_div]
    | false => simp

/-- There is no exponent in a numeral. -/
theorem readWithExponent?_numeral (x : Numeral) : readWithExponent? x.text = none := by
  have hnone : x.text.dropWhile (fun c => !(c == 'e' || c == 'E')) = [] := by
    apply List.dropWhile_eq_nil_iff.mpr
    intro c hc
    rcases Numeral.mem_text hc with rfl | rfl | hdigit
    · rfl
    · rfl
    · have hrange := toNat_of_isDigit hdigit
      have hne : ∀ e : Char, 57 < e.toNat → (c == e) = false := by
        intro e he
        apply beq_false_of_ne
        rintro rfl
        omega
      rw [hne 'e' (by decide), hne 'E' (by decide)]
      rfl
  have hsplit : splitExponent? x.text = none := by
    simp only [splitExponent?, hnone]
  rw [readWithExponent?, hsplit]
  rfl

/-- If a decimal is a numeral, its mantissa and its scale make the magnitude. -/
theorem representable_of_value {x : Numeral} {e : Decimal} (h : e.value = x.value) :
    Reading.Representable x.magnitude := by
  refine ⟨e.mantissa, e.scale, e.mantissa_lt, e.scale_le, ?_⟩
  have hpos : (0 : ℚ) < 10 ^ e.scale := by positivity
  rw [← x.abs_value, ← h, value, signedMantissa, abs_div, abs_of_pos hpos]
  split <;> simp

/-- The decimal `d` is the number `q` to half a unit of its last place.  If it is not just
the number, it has all places there are, or would be too long with one more. -/
structure Rounds (d : Decimal) (q : ℚ) : Prop where
  near : |d.value - q| ≤ 1 / 2 / 10 ^ d.scale
  full : d.value ≠ q → d.scale = 28 ∨ 2 ^ 96 - 1 / 2 ≤ |q| * 10 ^ (d.scale + 1)

/-- **A numeral is read to half a unit of the last place**, and exactly if there is a
decimal that is the same number.  One that rounds to `2 ^ 96` or more is not read. -/
theorem ofText?_numeral (x : Numeral) :
    (2 ^ 96 - 1 / 2 ≤ |x.value| ∧ ofText? x.text = none) ∨
      |x.value| < 2 ^ 96 - 1 / 2 ∧
        ∃ d, ofText? x.text = some d ∧ d.Rounds x.value ∧
          ((∃ e : Decimal, e.value = x.value) → d.value = x.value) := by
  rw [x.abs_value]
  have hplain : readPlain? x.text =
      (readFrom? ⟨0, 0⟩ false false (x.whole ++ x.tail)).bind (ofReading? x.negative) := by
    simp only [readPlain?, x.takeSign_text]
  rcases readFrom?_numeral x with ⟨hlarge, hread⟩ | ⟨hsmall, r, hread, hrounds⟩
  · refine .inl ⟨hlarge, ?_⟩
    rw [ofText?, hplain, hread]
    exact readWithExponent?_numeral x
  · obtain ⟨d, hd, hscale, hvalue⟩ :=
      exists_ofReading? hrounds.mantissa_lt hrounds.scale_le x.negative
    -- Both have the sign of the numeral, and differ as without it.
    have hdistance : |d.value - x.value| = |r.value - x.magnitude| := by
      rw [hvalue, Numeral.value]
      cases x.negative with
      | true => simp only [if_true, ← neg_sub', abs_neg]
      | false => rfl
    have hsame : r.value = x.magnitude → d.value = x.value := by
      intro heq
      rw [hvalue, heq]
      rfl
    refine .inr ⟨hsmall, d, ?_, ⟨?_, ?_⟩, ?_⟩
    · rw [ofText?, hplain, hread, Option.bind_some, hd]
    · rw [hdistance, hscale]
      exact hrounds.near
    · intro hne
      rw [hscale, x.abs_value]
      exact hrounds.full fun heq => hne (hsame heq)
    · rintro ⟨e, he⟩
      exact hsame (hrounds.exact (representable_of_value he))

end Decimal

end SqlAccess
