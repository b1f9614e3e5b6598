import SqlAccess.Proofs.Number.IntegerPart
import SqlAccess.Proofs.Value.Fetch

/-!
# Fetching integers

There are integers of four widths.  Fetched as one of them, a value should give the
number that it denotes, without its fraction, and be refused where it denotes none
or where the width does not hold it.  All widths go through the integers of 64
bits; this file says what must hold there, and that it does for every value that is
not a floating-point number.

* `Value.Denotes` — the number that a value denotes;
* `Value.TruncatedIn` — fetched as this number's integer part, or refused;
* `Value.truncatedIn_iff` — the same, said of the integer of 64 bits;
* `Value.exact_numbers_truncated` — **truth values, integers, decimals and texts are
  fetched as their integer parts**.
-/

namespace SqlAccess

open Text

namespace Value

/-- The integer that a value is, in any of the four widths. -/
def integer? : Value → Option Int
  | int8 n => some n.toInt
  | int16 n => some n.toInt
  | int32 n => some n.toInt
  | int64 n => some n.toInt
  | _ => none

/-- Whether a value is a floating-point number. -/
def isFloating : Value → Bool
  | float32 _ | float64 _ => true
  | _ => false

/-- The number that a value denotes.  A truth value counts as 0 or 1.  A text denotes
an integer of 64 bits, which may have blanks around it. -/
inductive Denotes : Value → ℚ → Prop
  | bool (b : Bool) : Denotes (.bool b) ((if b then 1 else 0 : Int) : ℚ)
  | int8 (n : Int8) : Denotes (.int8 n) n.toInt
  | int16 (n : Int16) : Denotes (.int16 n) n.toInt
  | int32 (n : Int32) : Denotes (.int32 n) n.toInt
  | int64 (n : Int64) : Denotes (.int64 n) n.toInt
  | float32 {x : Single} {q : ℚ} (h : x.value? = some q) : Denotes (.float32 x) q
  | float64 {x : Double} {q : ℚ} (h : x.value? = some q) : Denotes (.float64 x) q
  | decimal (d : Decimal) : Denotes (.decimal d) d.value
  | string {s : String} {n : Int} (h : SpellsInteger (trim s.toList) n) (hfits : FitsBits 64 n) :
    Denotes (.string s) n

/-- The refusal of a value that does not have the shape of a kind. -/
def mismatch (v : Value) (kind : Kind) : Error :=
  .typeMismatch s!"cannot read {v.typeName} value as {kind.name}"

/-- A value is fetched as an integer of some width if the number it denotes has an
integer part that the width holds.  It is then fetched as this integer part, and is
refused otherwise. -/
structure TruncatedIn (v : Value) (kind : Kind) (width : Nat) : Prop where
  fetched_iff : (∃ w, v.coerce kind = .ok w) ↔ ∃ q, v.Denotes q ∧ FitsBits width (towardZero q)
  integer : ∀ w, v.coerce kind = .ok w →
    ∃ q, v.Denotes q ∧ w.HasShape kind ∧ w.integer? = some (towardZero q)
  refused : (¬ ∃ q, v.Denotes q ∧ FitsBits width (towardZero q)) →
    v.coerce kind = .error (v.mismatch kind)

variable {v w : Value} {kind : Kind} {width : Nat} {n : Int} {q : ℚ}

/-- A value denotes one number at most. -/
theorem Denotes.unique {q' : ℚ} (h : v.Denotes q) (h' : v.Denotes q') : q = q' := by
  cases h with
  | float32 h =>
      cases h' with
      | float32 h' => exact Option.some.inj (h.symm.trans h')
  | float64 h =>
      cases h' with
      | float64 h' => exact Option.some.inj (h.symm.trans h')
  | string h =>
      cases h' with
      | string h' =>
          have hread := readInteger?_eq_some_iff.mpr h
          rw [readInteger?_eq_some_iff.mpr h'] at hread
          rw [Option.some.inj hread]
  | _ =>
      cases h'
      rfl

/-! ## The way through 64 bits -/

theorem fitBits?_eq_some_iff {m : Int} : fitBits? width m = some n ↔ FitsBits width n ∧ m = n := by
  unfold fitBits?
  split
  · rename_i h
    constructor
    · rintro ⟨⟩
      exact ⟨h, rfl⟩
    · rintro ⟨-, rfl⟩
      rfl
  · rename_i h
    constructor
    · rintro ⟨⟩
    · rintro ⟨h', rfl⟩
      exact absurd h' h

/-- A kind of integers takes what its width holds, in a form of its own. -/
theorem exists_coerce?_eq (hk : kind.width? = some width) :
    ∃ make : Int → Value, (∀ v, coerce? v kind = (v.asInteger?.bind (fitBits? width)).map make) ∧
      ∀ n, FitsBits width n → (make n).HasShape kind ∧ (make n).integer? = some n := by
  cases kind with
  | int8 =>
      cases hk
      refine ⟨fun n => int8 (.ofInt n), fun v => rfl, fun n h => ⟨.int8 _, ?_⟩⟩
      rw [integer?, Int8.toInt_ofInt_of_le h.1 h.2]
  | int16 =>
      cases hk
      refine ⟨fun n => int16 (.ofInt n), fun v => rfl, fun n h => ⟨.int16 _, ?_⟩⟩
      rw [integer?, Int16.toInt_ofInt_of_le h.1 h.2]
  | int32 =>
      cases hk
      refine ⟨fun n => int32 (.ofInt n), fun v => rfl, fun n h => ⟨.int32 _, ?_⟩⟩
      rw [integer?, Int32.toInt_ofInt_of_le h.1 h.2]
  | int64 =>
      cases hk
      refine ⟨fun n => int64 (.ofInt n), fun v => rfl, fun n h => ⟨.int64 _, ?_⟩⟩
      rw [integer?, Int64.toInt_ofInt_of_le h.1 h.2]
  | _ => cases hk

theorem coerce_of_integer (hv : v.isNull = false) (hk : kind.width? = some width)
    (h : v.asInteger?.bind (fitBits? width) = some n) :
    ∃ w, v.coerce kind = .ok w ∧ w.HasShape kind ∧ w.integer? = some n := by
  obtain ⟨make, hmake, hshape⟩ := exists_coerce?_eq hk
  obtain ⟨m, -, hm⟩ := Option.bind_eq_some_iff.mp h
  have hread : v.coerce? kind = some (make n) := by
    rw [hmake, h, Option.map_some]
  exact ⟨make n, coerce_of_coerce? hv hread, hshape n (fitBits?_eq_some_iff.mp hm).1⟩

theorem coerce_of_none (hv : v.isNull = false) (hk : kind.width? = some width)
    (h : v.asInteger?.bind (fitBits? width) = none) : v.coerce kind = .error (v.mismatch kind) := by
  obtain ⟨make, hmake, -⟩ := exists_coerce?_eq hk
  have hread : v.coerce? kind = none := by
    rw [hmake, h, Option.map_none]
  rw [coerce, hv, if_neg Bool.false_ne_true, hread]
  rfl

/-- Fetching an integer is right just if the integer of 64 bits is, as far as the width
goes. -/
theorem truncatedIn_iff (hv : v.isNull = false) (hk : kind.width? = some width) :
    v.TruncatedIn kind width ↔ ∀ n, v.asInteger?.bind (fitBits? width) = some n ↔
      FitsBits width n ∧ ∃ q, v.Denotes q ∧ towardZero q = n := by
  constructor
  · intro h n
    constructor
    · intro hn
      obtain ⟨m, -, hm⟩ := Option.bind_eq_some_iff.mp hn
      obtain ⟨w, hw, -, hint⟩ := coerce_of_integer hv hk hn
      obtain ⟨q, hq, -, hint'⟩ := h.integer w hw
      exact ⟨(fitBits?_eq_some_iff.mp hm).1, q, hq, Option.some.inj (hint'.symm.trans hint)⟩
    · rintro ⟨hfits, q, hq, rfl⟩
      obtain ⟨w, hw⟩ := h.fetched_iff.mpr ⟨q, hq, hfits⟩
      cases hn : v.asInteger?.bind (fitBits? width) with
      | none =>
          rw [coerce_of_none hv hk hn] at hw
          cases hw
      | some m =>
          obtain ⟨w', hw', -, hint⟩ := coerce_of_integer hv hk hn
          obtain ⟨q', hq', -, hint'⟩ := h.integer w' hw'
          rw [hq.unique hq', ← Option.some.inj (hint.symm.trans hint')]
  · intro h
    have hsome : ∀ w, v.coerce kind = .ok w → ∃ n, v.asInteger?.bind (fitBits? width) = some n := by
      intro w hw
      rw [← Option.isSome_iff_exists, ← Option.ne_none_iff_isSome]
      intro hnone
      rw [coerce_of_none hv hk hnone] at hw
      cases hw
    constructor
    case fetched_iff =>
      constructor
      · rintro ⟨w, hw⟩
        obtain ⟨n, hn⟩ := hsome w hw
        obtain ⟨hfits, q, hq, rfl⟩ := (h n).mp hn
        exact ⟨q, hq, hfits⟩
      · rintro ⟨q, hq, hfits⟩
        obtain ⟨w, hw, -⟩ := coerce_of_integer hv hk ((h _).mpr ⟨hfits, q, hq, rfl⟩)
        exact ⟨w, hw⟩
    case integer =>
      intro w hw
      obtain ⟨n, hn⟩ := hsome w hw
      obtain ⟨hfits, q, hq, rfl⟩ := (h n).mp hn
      obtain ⟨w', hw', hshape, hint⟩ := coerce_of_integer hv hk hn
      cases hw.symm.trans hw'
      exact ⟨q, hq, hshape, hint⟩
    case refused =>
      intro hno
      apply coerce_of_none hv hk
      by_contra hne
      obtain ⟨n, hn⟩ := Option.ne_none_iff_exists'.mp hne
      obtain ⟨hfits, q, hq, rfl⟩ := (h n).mp hn
      exact hno ⟨q, hq, hfits⟩

/-! ## Exact numbers -/

/-- The integer of 64 bits behind a value is the integer part of the number it
denotes. -/
theorem asInteger?_eq_some_iff (hfloat : v.isFloating = false) :
    v.asInteger? = some n ↔ FitsBits 64 n ∧ ∃ q, v.Denotes q ∧ towardZero q = n := by
  -- What is an integer itself is its own integer part, and fits.
  have hown : ∀ {v : Value} {m : Int}, v.Denotes m → FitsBits 64 m →
      (some m = some n ↔ FitsBits 64 n ∧ ∃ q, v.Denotes q ∧ towardZero q = n) := by
    intro v m hm hfits
    constructor
    · rintro ⟨⟩
      exact ⟨hfits, n, hm, towardZero_intCast n⟩
    · rintro ⟨-, q, hq, rfl⟩
      rw [hq.unique hm, towardZero_intCast]
  cases v with
  | bool b => exact hown (.bool b) (by cases b <;> decide)
  | int8 m =>
      have hfits : FitsBits 8 m.toInt := ⟨m.le_toInt, m.toInt_lt⟩
      exact hown (.int8 m) (hfits.mono (by decide))
  | int16 m =>
      have hfits : FitsBits 16 m.toInt := ⟨m.le_toInt, m.toInt_lt⟩
      exact hown (.int16 m) (hfits.mono (by decide))
  | int32 m =>
      have hfits : FitsBits 32 m.toInt := ⟨m.le_toInt, m.toInt_lt⟩
      exact hown (.int32 m) (hfits.mono (by decide))
  | int64 m => exact hown (.int64 m) ⟨m.le_toInt, m.toInt_lt⟩
  | decimal d =>
      rw [asInteger?, fitBits?_eq_some_iff, ← d.towardZero_value]
      constructor
      · rintro ⟨hfits, rfl⟩
        exact ⟨hfits, d.value, .decimal d, rfl⟩
      · rintro ⟨hfits, q, hq, rfl⟩
        cases hq
        exact ⟨hfits, rfl⟩
  | string s =>
      rw [asInteger?, Option.bind_eq_some_iff]
      constructor
      · rintro ⟨m, hread, hfit⟩
        obtain ⟨hfits, rfl⟩ := fitBits?_eq_some_iff.mp hfit
        exact ⟨hfits, m, .string (readInteger?_eq_some_iff.mp hread) hfits, towardZero_intCast m⟩
      · rintro ⟨-, q, hq, rfl⟩
        cases hq with
        | @string _ m h hfits =>
            rw [towardZero_intCast]
            exact ⟨m, readInteger?_eq_some_iff.mpr h, fitBits?_of_fits hfits⟩
  | float32 | float64 => cases hfloat
  | _ =>
      constructor
      · rintro ⟨⟩
      · rintro ⟨-, q, ⟨⟩, -⟩

theorem truncatedIn_of_not_floating (hv : v.isNull = false) (hfloat : v.isFloating = false)
    (hk : kind.width? = some width) : v.TruncatedIn kind width := by
  have hle := Kind.width_le hk
  apply (truncatedIn_iff hv hk).mpr
  intro n
  rw [Option.bind_eq_some_iff]
  constructor
  · rintro ⟨m, hm, hfit⟩
    obtain ⟨hfits, rfl⟩ := fitBits?_eq_some_iff.mp hfit
    exact ⟨hfits, ((asInteger?_eq_some_iff hfloat).mp hm).2⟩
  · rintro ⟨hfits, hdenoted⟩
    exact ⟨n, (asInteger?_eq_some_iff hfloat).mpr ⟨hfits.mono hle, hdenoted⟩, fitBits?_of_fits hfits⟩

/-- **Truth values, integers, decimals and texts are fetched as their integer parts**,
in every width that holds them, and are refused in the others.  So all widths that do
not refuse a value agree on it. -/
theorem exact_numbers_truncated (hv : v.isNull = false) (hfloat : v.isFloating = false) :
    (∀ kind width, kind.width? = some width → v.TruncatedIn kind width) ∧
      ∀ kind kind' width width' w w', kind.width? = some width → kind'.width? = some width' →
        v.coerce kind = .ok w → v.coerce kind' = .ok w' →
        ∃ n, w.integer? = some n ∧ w'.integer? = some n := by
  refine ⟨fun kind width hk => truncatedIn_of_not_floating hv hfloat hk, ?_⟩
  intro kind kind' width width' w w' hk hk' hw hw'
  obtain ⟨q, hq, -, hint⟩ := (truncatedIn_of_not_floating hv hfloat hk).integer w hw
  obtain ⟨q', hq', -, hint'⟩ := (truncatedIn_of_not_floating hv hfloat hk').integer w' hw'
  rw [hq'.unique hq] at hint'
  exact ⟨towardZero q, hint, hint'⟩

/-- The least integer of 64 bits is what is left of a decimal that is nearly one less.
The narrower widths refuse it. -/
theorem exact_numbers_truncated_at_end :
    let d : Decimal := ⟨true, 9223372036854775808999999999, 9, by decide, by decide⟩
    ((decimal d).isNull = false ∧ (decimal d).isFloating = false) ∧
      (decimal d).TruncatedIn .int64 64 ∧
      (decimal d).coerce .int64 = .ok (.int64 (-9223372036854775808)) ∧
      (decimal d).coerce .int32 =
        .error (.typeMismatch "cannot read Decimal value as Int32") := by
  exact ⟨⟨rfl, rfl⟩, (exact_numbers_truncated rfl rfl).1 .int64 64 rfl, rfl, rfl⟩

end Value

end SqlAccess
