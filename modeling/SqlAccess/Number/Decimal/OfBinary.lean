import SqlAccess.Number.Decimal.Basic

/-!
# Decimals of floating-point numbers

A number `m * 2 ^ e` with `0 ≤ e` is kept as it is, or refused where no mantissa
holds it.  Of any other the conversion keeps about as many digits as the
floating-point format guarantees: it is turned into a mantissa and a power of
ten one factor of two at a time, with digits lost only where the mantissa is
full, and is then rounded to a mantissa below the format's digit bound.

* `Tens` — a mantissa and a power of ten on the way;
* `Decimal.ofBinary?` — the decimal of a number.
-/

namespace SqlAccess.Decimal

/-- The number `mantissa * 10 ^ exponent` during a conversion. -/
structure Tens where
  mantissa : Nat
  exponent : Int

namespace Tens

/-- Divides by two `count` times.  A half is five tenths, so an odd mantissa
is multiplied by five as long as it fits. -/
def halve (t : Tens) : Nat → Tens
  | 0 => t
  | count + 1 =>
    if t.mantissa % 2 = 0 ∨ mantissaBound ≤ t.mantissa * 5 then
      halve ⟨t.mantissa / 2, t.exponent + 1⟩ count
    else halve ⟨t.mantissa * 5, t.exponent⟩ count

/-- The mantissa without its last digit, rounded half up. -/
def dropDigit (mantissa : Nat) : Nat :=
  if 5 ≤ mantissa % 10 then mantissa / 10 + 1 else mantissa / 10

/-- Drops the digits beyond the greatest scale; a number that vanishes is
zero without places. -/
def limitPlaces (t : Tens) : Nat → Tens
  | 0 => t
  | fuel + 1 =>
    if t.exponent < -(maxScale : Int) then
      if t.mantissa / 10 = 0 then ⟨0, 0⟩
      else limitPlaces ⟨dropDigit t.mantissa, t.exponent + 1⟩ fuel
    else t

/-- Drops places until the mantissa is below `bound`. -/
def limitDigits (bound : Nat) (t : Tens) : Nat → Tens
  | 0 => t
  | fuel + 1 =>
    if t.exponent < 0 ∧ bound ≤ t.mantissa then
      limitDigits bound ⟨dropDigit t.mantissa, t.exponent + 1⟩ fuel
    else t

/-- Drops places that are zero. -/
def stripPlaces (t : Tens) : Nat → Tens
  | 0 => t
  | fuel + 1 =>
    if t.exponent < 0 ∧ t.mantissa % 10 = 0 then
      stripPlaces ⟨t.mantissa / 10, t.exponent + 1⟩ fuel
    else t

end Tens

/-- The number `significand * 2 ^ exponent` in tens.  It is exact, or refused
where no mantissa holds it, unless `exponent` is negative; then it is rounded to
a mantissa below `bound` where places allow it. -/
def tensOf? (bound significand : Nat) (exponent : Int) : Option Tens :=
  if 0 ≤ exponent then
    let mantissa := significand * 2 ^ exponent.toNat
    if mantissa < mantissaBound then some ⟨mantissa, 0⟩ else none
  else
    let t := Tens.halve ⟨significand, exponent⟩ exponent.natAbs
    let t := t.limitPlaces t.exponent.natAbs
    let t := t.limitDigits bound t.exponent.natAbs
    some (t.stripPlaces t.exponent.natAbs)

/-- The decimal near a finite number, if there is one; its mantissa is kept
below `digitBound` where it has places to drop. -/
def ofBinary? {F : Format} (digitBound : Nat) : Binary F → Option Decimal
  | .nan => none
  | .number negative rank =>
    if rank = F.infinity then none
    else if rank = F.zero then make? negative 0 0
    else do
      let t ← tensOf? digitBound (F.significand rank) (F.doublings rank - F.stepExponent)
      make? negative t.mantissa (-t.exponent).toNat

/-- The decimal near a number of 64 bits. -/
def ofDouble? (x : Double) : Option Decimal := ofBinary? (2 ^ 52) x

/-- The decimal near a number of 32 bits. -/
def ofSingle? (x : Single) : Option Decimal := ofBinary? (2 ^ 24) x

end SqlAccess.Decimal
