import SqlAccess.Number.Binary

/-!
# Decimals

Fixed-point decimal numbers: a sign, a mantissa below `2 ^ 96` and a scale of
at most 28 places.  The scale is part of a decimal: `1.0` and `1.00` are two
decimals of one numeric value, and there is a negative zero.

* `Decimal` — the type;
* `Decimal.make?` — the decimal of a mantissa and a scale, if they fit;
* `Decimal.truncate` — the integer part;
* `Decimal.numericEq` — whether two decimals have one value;
* `Decimal.toDouble` — a floating-point number near a decimal.
-/

namespace SqlAccess

/-- The number `± mantissa / 10 ^ scale`. -/
structure Decimal where
  negative : Bool
  mantissa : Nat
  scale : Nat
  mantissa_lt : mantissa < 2 ^ 96
  scale_le : scale ≤ 28
  deriving DecidableEq

namespace Decimal

/-- The greatest number of places. -/
def maxScale : Nat := 28

/-- Mantissas are below this bound. -/
def mantissaBound : Nat := 2 ^ 96

/-- The decimal with the given parts, if mantissa and scale fit. -/
def make? (negative : Bool) (mantissa scale : Nat) : Option Decimal :=
  if h : mantissa < 2 ^ 96 ∧ scale ≤ 28 then some ⟨negative, mantissa, scale, h.1, h.2⟩
  else none

/-- The whole number `n`, which has no places. -/
def ofNat (n : Nat) (h : n < 2 ^ 96) : Decimal := ⟨false, n, 0, h, by decide⟩

/-- An integer of 64 bits as a decimal. -/
def ofInt64 (n : Int64) : Decimal :=
  ⟨decide (n.toInt < 0), n.toInt.natAbs, 0, by
    have h1 := n.toInt_lt
    have h2 := n.le_toInt
    omega, by decide⟩

/-- The mantissa with its sign. -/
def signedMantissa (d : Decimal) : Int := if d.negative then -(d.mantissa : Int) else d.mantissa

/-- The integer part: the decimal without its places. -/
def truncate (d : Decimal) : Int :=
  let whole := d.mantissa / 10 ^ d.scale
  if d.negative then -(whole : Int) else whole

/-- Whether two decimals have one value: scales and the sign of zero do not
count. -/
def numericEq (a b : Decimal) : Bool :=
  a.signedMantissa * 10 ^ b.scale == b.signedMantissa * 10 ^ a.scale

/-- The magnitude of a decimal as a floating-point number.  The integer part
and the fraction are converted apart and added; the sum is then rounded to the
decimal's own places, which takes most of the error of the addition away. -/
def toMagnitude (F : Format) (d : Decimal) : F.Rank :=
  let whole := F.ofNat (d.mantissa / 10 ^ d.scale)
  let rest := d.mantissa % 10 ^ d.scale
  if rest = 0 then whole
  else
    let sum := F.add whole (F.div (F.ofNat rest) (F.ofNat (10 ^ d.scale)))
    let places := F.pow (F.ofNat 10) d.scale
    F.div (F.roundHalfUp (F.mul sum places)) places

/-- A floating-point number near a decimal.  A negative zero keeps its sign
only if it has places. -/
def toDouble (d : Decimal) : Double :=
  .number (d.negative && (d.mantissa != 0 || d.scale != 0)) (d.toMagnitude .double)

end Decimal

end SqlAccess
