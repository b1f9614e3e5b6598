import SqlAccess.Proofs.Value.IntegerKinds

/-!
# Fetching floating-point numbers as integers

A floating-point number is made an integer of 64 bits before the width that is
asked for is looked at, and this always gives an integer: the nearest end of the
range for what lies outside of it, and zero for `nan`.  The ends are out of range
for the narrower widths, which so refuse what they should.  Nothing is left to
refuse with 64 bits, and a zero fits everywhere.

* `Binary.saturate_of_fits`, `Binary.saturate_of_not_inRange` — the integer of
  64 bits;
* `Value.FloatFetch` — what comes of it in each width;
* `Value.floats_as_integers` — **where floating-point numbers are fetched as their
  integer parts, and what they are fetched as elsewhere**.
-/

namespace SqlAccess

namespace Binary

variable {F : Format} {x : Binary F} {negative : Bool} {rank : F.Rank} {n : Int}

/-- Whether a floating-point number has an integer part of 64 bits. -/
def InRange (x : Binary F) : Prop := ∃ q, x.value? = some q ∧ FitsBits 64 (towardZero q)

theorem inRange_iff : x.InRange ↔ ∃ n, x.truncate? = some n ∧ FitsBits 64 n := by
  simp only [InRange, truncate?_eq, Option.map_eq_some_iff]
  constructor
  · rintro ⟨q, hq, hfits⟩
    exact ⟨towardZero q, ⟨q, hq, rfl⟩, hfits⟩
  · rintro ⟨_, ⟨q, hq, rfl⟩, hfits⟩
    exact ⟨q, hq, hfits⟩

/-- An integer part has the sign of its number. -/
theorem sign_of_truncate? (h : (number negative rank).truncate? = some n) :
    if negative then n ≤ 0 else 0 ≤ n := by
  simp only [truncate?, Option.ite_none_left_eq_some, Option.some.injEq] at h
  obtain ⟨-, rfl⟩ := h
  cases negative with
  | true => exact Int.neg_nonpos_of_nonneg (Int.natCast_nonneg _)
  | false => exact Int.natCast_nonneg _

/-- In range, the integer of 64 bits is the integer part. -/
theorem saturate_of_fits (h : x.truncate? = some n) (hfits : FitsBits 64 n) : x.saturate = n := by
  cases x with
  | nan => cases h
  | number negative rank =>
      obtain ⟨hlow, hhigh⟩ := hfits
      simp only [saturate, h]
      omega

/-- Out of range, it is the end on the number's side. -/
theorem saturate_of_not_inRange (h : ¬ (number negative rank).InRange) :
    (number negative rank).saturate = if negative then -2 ^ 63 else 2 ^ 63 - 1 := by
  rw [inRange_iff] at h
  cases htruncate : (number negative rank).truncate? with
  | none => simp only [saturate, htruncate]
  | some n =>
      have hsign := sign_of_truncate? htruncate
      have hout : ¬ FitsBits 64 n := fun hfits => h ⟨n, htruncate, hfits⟩
      simp only [FitsBits] at hout
      simp only [saturate, htruncate]
      cases negative <;> simp only [if_true, if_false, Bool.false_eq_true] at hsign ⊢ <;> omega

end Binary

namespace Value

variable {F : Format} {x : Binary F} {v : Value} {kind : Kind} {width : Nat}

/-- What a floating-point number `x` is fetched as in a kind of integers, when it
comes as the value `v`. -/
structure FloatFetch (x : Binary F) (v : Value) (kind : Kind) (width : Nat) : Prop where
  /-- Where its integer part is fetched, or it is refused. -/
  truncated_iff : v.TruncatedIn kind width ↔ x ≠ .nan ∧ (width < 64 ∨ x.InRange)
  /-- What is no number is zero in every width. -/
  nan : x = .nan → ∃ w, v.coerce kind = .ok w ∧ w.HasShape kind ∧ w.integer? = some 0
  /-- Outside of the range, 64 bits give one of its ends. -/
  ends : ∀ negative rank, x = .number negative rank → ¬ x.InRange → width = 64 →
    ∃ w, v.coerce kind = .ok w ∧ w.HasShape kind ∧
      w.integer? = some (if negative then -2 ^ 63 else 2 ^ 63 - 1)

/-- Fetching is right where the integer of 64 bits and the integer part are the same,
as far as the width goes. -/
theorem truncatedIn_iff_saturate (hv : v.isNull = false) (hk : kind.width? = some width)
    (hsaturate : v.asInteger? = some x.saturate)
    (hdenotes : ∀ q, v.Denotes q ↔ x.value? = some q) :
    v.TruncatedIn kind width ↔
      ∀ n, FitsBits width n → (x.saturate = n ↔ x.truncate? = some n) := by
  rw [truncatedIn_iff hv hk]
  apply forall_congr'
  intro n
  have hpart : (∃ q, v.Denotes q ∧ towardZero q = n) ↔ x.truncate? = some n := by
    simp only [hdenotes, Binary.truncate?_eq, Option.map_eq_some_iff]
  rw [hsaturate, Option.bind_some, fitBits?_eq_some_iff, hpart]
  exact and_congr_right_iff

/-- Every width holds zero. -/
theorem fitsBits_zero (width : Nat) : FitsBits width 0 := by
  have hpos : (0 : Int) < 2 ^ (width - 1) := Int.pow_pos (by decide)
  exact ⟨by omega, hpos⟩

/-- The ends of 64 bits are held by no narrower width. -/
theorem not_fitsBits_end (hwidth : width ≤ 32) (negative : Bool) :
    ¬ FitsBits width (if negative then -2 ^ 63 else 2 ^ 63 - 1) := by
  intro h
  have hwide := h.mono hwidth
  cases negative with
  | true => exact absurd hwide (by decide)
  | false => exact absurd hwide (by decide)

theorem floatFetch (hv : v.isNull = false) (hk : kind.width? = some width)
    (hsaturate : v.asInteger? = some x.saturate)
    (hdenotes : ∀ q, v.Denotes q ↔ x.value? = some q) : FloatFetch x v kind width := by
  have hbounds := Kind.width_bounds hk
  have hfetch : ∀ {n}, x.saturate = n → FitsBits width n →
      ∃ w, v.coerce kind = .ok w ∧ w.HasShape kind ∧ w.integer? = some n := by
    intro n hn hfits
    apply coerce_of_integer hv hk
    rw [hsaturate, hn, Option.bind_some, fitBits?_of_fits hfits]
  constructor
  case nan =>
    rintro rfl
    exact hfetch rfl (fitsBits_zero width)
  case ends =>
    rintro negative rank rfl hout rfl
    exact hfetch (Binary.saturate_of_not_inRange hout) (by cases negative <;> decide)
  case truncated_iff =>
    rw [truncatedIn_iff_saturate hv hk hsaturate hdenotes]
    cases x with
    | nan =>
        apply iff_of_false
        · intro h
          cases (h 0 (fitsBits_zero width)).mp rfl
        · exact fun h => h.1 rfl
    | number negative rank =>
        by_cases hin : (Binary.number negative rank).InRange
        · apply iff_of_true
          · obtain ⟨m, hm, hfits⟩ := Binary.inRange_iff.mp hin
            intro n _
            rw [Binary.saturate_of_fits hm hfits, hm, Option.some.injEq]
          · exact ⟨nofun, .inr hin⟩
        have hend := Binary.saturate_of_not_inRange hin
        have hno : ∀ n, (Binary.number negative rank).truncate? = some n → ¬ FitsBits 64 n :=
          fun n hn hfits => hin (Binary.inRange_iff.mpr ⟨n, hn, hfits⟩)
        rcases hbounds with rfl | ⟨-, hnarrow⟩
        · -- The end itself is held, but is not the integer part.
          apply iff_of_false
          · intro h
            have hfits : FitsBits 64 (if negative then -2 ^ 63 else 2 ^ 63 - 1) := by
              cases negative <;> decide
            exact hno _ ((h _ hfits).mp hend) hfits
          · rintro ⟨-, hlt | hin'⟩
            · exact absurd hlt (Nat.lt_irrefl 64)
            · exact hin hin'
        · apply iff_of_true
          · intro n hfits
            apply iff_of_false
            · intro hn
              rw [← hn, hend] at hfits
              exact not_fitsBits_end hnarrow negative hfits
            · intro hn
              exact hno n hn (hfits.mono (by omega))
          · exact ⟨nofun, .inl (by omega)⟩

theorem floatFetch_float32 (hk : kind.width? = some width) (x : Single) :
    FloatFetch x (.float32 x) kind width := by
  apply floatFetch rfl hk rfl
  intro q
  constructor
  · rintro ⟨⟩
    assumption
  · exact .float32

theorem floatFetch_float64 (hk : kind.width? = some width) (x : Double) :
    FloatFetch x (.float64 x) kind width := by
  apply floatFetch rfl hk rfl
  intro q
  constructor
  · rintro ⟨⟩
    assumption
  · exact .float64

/-- **Floating-point numbers as integers.**  In the narrower widths a number is fetched
as its integer part, or is refused; in 64 bits this is so for the numbers in range, and
the others are fetched as an end of the range.  What is no number is fetched as zero. -/
theorem floats_as_integers (hk : kind.width? = some width) :
    (∀ x : Single, FloatFetch x (.float32 x) kind width) ∧
      ∀ x : Double, FloatFetch x (.float64 x) kind width :=
  ⟨floatFetch_float32 hk, floatFetch_float64 hk⟩

/-- The greatest number of 64 bits below `2 ^ 63` is in range, and is fetched as it is;
the next one, `2 ^ 63` itself, as an integer that it is not. -/
theorem floats_as_integers_at_end :
    let below : Double := .ofBits .double 64 0x43dfffffffffffff
    let above : Double := .ofBits .double 64 0x43e0000000000000
    Kind.int64.width? = some 64 ∧
      FloatFetch below (.float64 below) .int64 64 ∧ FloatFetch above (.float64 above) .int64 64 ∧
      (Value.float64 below).coerce .int64 = .ok (.int64 9223372036854774784) ∧
      (Value.float64 above).coerce .int64 = .ok (.int64 9223372036854775807) :=
  ⟨rfl, (floats_as_integers rfl).2 _, (floats_as_integers rfl).2 _, by decide +kernel,
    by decide +kernel⟩

/-- Integers are made up for what is no number, for an infinity, and for `10 ^ 19`. -/
theorem float_integers_made_up :
    let infinite : Double := .number false Format.double.infinity
    let large : Double := .ofBits .double 64 0x43e158e460913d00
    ((Value.float64 .nan).coerce .int8 = .ok (.int8 0) ∧
        ¬ (Value.float64 .nan).TruncatedIn .int8 8) ∧
      ((Value.float64 infinite).coerce .int64 = .ok (.int64 9223372036854775807) ∧
        ¬ (Value.float64 infinite).TruncatedIn .int64 64) ∧
      large.truncate? = some (10 ^ 19) ∧
        (Value.float64 large).coerce .int64 = .ok (.int64 9223372036854775807) ∧
        ¬ (Value.float64 large).TruncatedIn .int64 64 := by
  intro infinite large
  have hlarge : large.truncate? = some (10 ^ 19) := by decide +kernel
  have hout : ∀ x : Double, (∀ n, x.truncate? = some n → ¬ FitsBits 64 n) →
      ¬ (Value.float64 x).TruncatedIn .int64 64 := by
    intro x hno htruncated
    obtain ⟨-, hlt | hin⟩ := (floatFetch_float64 rfl x).truncated_iff.mp htruncated
    · exact Nat.lt_irrefl 64 hlt
    · obtain ⟨n, hn, hfits⟩ := Binary.inRange_iff.mp hin
      exact hno n hn hfits
  refine ⟨⟨rfl, ?_⟩, ⟨rfl, hout _ ?_⟩, hlarge, ?_, hout _ ?_⟩
  · intro htruncated
    exact ((floatFetch_float64 rfl _).truncated_iff.mp htruncated).1 rfl
  · intro n hn
    cases hn
  · decide +kernel
  · intro n hn
    cases hlarge.symm.trans hn
    decide

end Value

end SqlAccess
