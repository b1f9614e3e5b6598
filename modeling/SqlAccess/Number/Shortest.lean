import SqlAccess.Number.Binary
import SqlAccess.Text.Digits

/-!
# Shortest decimal digits

The fewest decimal digits that read back as a given floating-point number, and
of those the ones nearest to it.  A decimal of `k` digits is a point of a
grid, and if any point of the grid reads back, so does one of the two around
the number; so it is enough to try those two, for one digit, then two, and so
on.

* `Scientific` — digits and a power of ten;
* `decimalExponent` — the exponent of the leading digit;
* `shortest` — the digits.
-/

namespace SqlAccess

/-- The number `coefficient * 10 ^ exponent`. -/
structure Scientific where
  coefficient : Nat
  exponent : Int
  deriving DecidableEq

namespace Scientific

/-- The numerator of the number as a fraction. -/
def numerator (s : Scientific) : Nat := s.coefficient * 10 ^ s.exponent.toNat

/-- The denominator of the number as a fraction. -/
def denominator (s : Scientific) : Nat := 10 ^ (-s.exponent).toNat

/-- Drops the zeros at the end of the coefficient, at most `fuel` of them. -/
def stripZeros (s : Scientific) : Nat → Scientific
  | 0 => s
  | fuel + 1 =>
    if s.coefficient ≠ 0 ∧ s.coefficient % 10 = 0 then
      stripZeros ⟨s.coefficient / 10, s.exponent + 1⟩ fuel
    else s

/-- The magnitude nearest to the number.  Numbers far outside the range of
every format are answered without their digits. -/
def nearest (F : Format) (s : Scientific) : F.Rank :=
  let top := s.exponent + (Text.digits s.coefficient).length
  if s.coefficient = 0 ∨ top < -400 then F.zero
  else if 400 < top then F.infinity
  else F.nearest s.numerator s.denominator

end Scientific

/-- The power of ten just below or at the positive fraction `n / d`. -/
def decimalExponent (n d : Nat) : Int :=
  let guess : Int := (Text.digits n).length - (Text.digits d).length
  if d * 10 ^ guess.toNat ≤ n * 10 ^ (-guess).toNat then guess else guess - 1

namespace Format

variable (F : Format)

/-- The point of the grid of multiples of `10 ^ exponent` that stands for a
magnitude, if it reads back as that magnitude: of the two points around it
the nearer one that does, the upper one when both are equally near. -/
def gridPoint? (rank : F.Rank) (exponent : Int) : Option Scientific :=
  let n := F.units rank * 10 ^ (-exponent).toNat
  let d := 2 ^ F.stepExponent * 10 ^ exponent.toNat
  let below : Scientific := ⟨n / d, exponent⟩
  let above : Scientific := ⟨n / d + 1, exponent⟩
  let candidates := if 2 * (n % d) < d then [below, above] else [above, below]
  candidates.find? fun s => F.nearest s.numerator s.denominator == rank

/-- Tries grids of more and more digits, from the leading digit's exponent
`top` down. -/
def shortestFrom (rank : F.Rank) (top : Int) (digitCount : Nat) : Nat → Option Scientific
  | 0 => none
  | fuel + 1 =>
    match F.gridPoint? rank (top - (digitCount - 1 : Nat)) with
    | some s => some s
    | none => shortestFrom rank top (digitCount + 1) fuel

/-- The fewest digits that read back as a finite positive magnitude, the
nearest such; 17 digits always suffice. -/
def shortest (rank : F.Rank) : Scientific :=
  let top := decimalExponent (F.units rank) (2 ^ F.stepExponent)
  let found := (F.shortestFrom rank top 1 17).getD ⟨0, 0⟩
  found.stripZeros 17

end Format

end SqlAccess
