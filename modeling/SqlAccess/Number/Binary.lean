import SqlAccess.Number.Power

/-!
# Binary floating point

The floating-point numbers of one format, as exact numbers.  The finite
magnitudes of a format are ordered, so each is known by its **rank**, the
number of smaller ones; the rank after the largest finite one stands for
infinity.  A number is then a sign and a rank, or the one `nan`, and two
spellings of one number do not occur.

A magnitude is a whole number of the format's smallest step; `units` counts
the steps.  All arithmetic is exact on fractions of natural numbers and is
rounded once, by `Format.nearest`: to the nearest magnitude, a tie to the
even one.

* `Format.units` — the magnitude of a rank, in smallest steps;
* `Format.nearest` — the rank nearest to a fraction;
* `Binary.toFormat` — the same number in another format;
* `Binary.truncate?` — the integer part.
-/

namespace SqlAccess

/-- The natural number nearest to `n / d`, a tie going to the even one. -/
def roundHalfEven (n d : Nat) : Nat :=
  if 2 * (n % d) < d then n / d
  else if d < 2 * (n % d) then n / d + 1
  else n / d + n / d % 2

/-- A binary floating-point format: significands of `precision + 1` bits, the
first of them implied, and magnitudes that are multiples of
`2 ^ -stepExponent`. -/
structure Format where
  precision : Nat
  stepExponent : Nat
  /-- The rank that stands for infinity. -/
  infinityRank : Nat
  deriving DecidableEq

namespace Format

/-- The format of 32 bits. -/
def single : Format := ⟨23, 149, 255 * 2 ^ 23⟩

/-- The format of 64 bits. -/
def double : Format := ⟨52, 1074, 2047 * 2 ^ 52⟩

/-- How often the step between neighbours has doubled at a rank. -/
def doublings (F : Format) (rank : Nat) : Nat := rank / 2 ^ F.precision - 1

/-- The significand of a rank: the magnitude in steps of its own size. -/
def significand (F : Format) (rank : Nat) : Nat :=
  rank - F.doublings rank * 2 ^ F.precision

/-- The magnitude of a rank, counted in smallest steps. -/
def units (F : Format) (rank : Nat) : Nat := F.significand rank * 2 ^ F.doublings rank

/-- The rank nearest to `n / d`, with no upper end. -/
def nearestRank (F : Format) (n d : Nat) : Nat :=
  let scaled := n * 2 ^ F.stepExponent
  let doublings := (scaled / d).log2 - F.precision
  doublings * 2 ^ F.precision + roundHalfEven scaled (d * 2 ^ doublings)

/-- The ranks of a format, infinity's included. -/
abbrev Rank (F : Format) : Type := Fin (F.infinityRank + 1)

/-- The rank nearest to `n / d`; from half a step above the largest finite
magnitude on, this is infinity. -/
def nearest (F : Format) (n d : Nat) : F.Rank :=
  ⟨min (F.nearestRank n d) F.infinityRank, by omega⟩

/-- Infinity. -/
def infinity (F : Format) : F.Rank := ⟨F.infinityRank, by omega⟩

/-- Zero. -/
def zero (F : Format) : F.Rank := ⟨0, by omega⟩

/-- The sum of two finite magnitudes. -/
def add (F : Format) (a b : F.Rank) : F.Rank :=
  F.nearest (F.units a + F.units b) (2 ^ F.stepExponent)

/-- The product of two finite magnitudes. -/
def mul (F : Format) (a b : F.Rank) : F.Rank :=
  F.nearest (F.units a * F.units b) (2 ^ (2 * F.stepExponent))

/-- The quotient of two finite magnitudes. -/
def div (F : Format) (a b : F.Rank) : F.Rank := F.nearest (F.units a) (F.units b)

/-- A natural number as a magnitude. -/
def ofNat (F : Format) (n : Nat) : F.Rank := F.nearest n 1

/-- The whole number nearest to a finite magnitude, a tie going up. -/
def roundHalfUp (F : Format) (a : F.Rank) : F.Rank :=
  F.ofNat ((2 * F.units a + 2 ^ F.stepExponent) / 2 ^ (F.stepExponent + 1))

/-- The power with a natural exponent, by repeated squaring: each square and
each product is rounded. -/
def pow (F : Format) (base : F.Rank) (exponent : Nat) : F.Rank :=
  go base exponent (F.ofNat 1) exponent
where
  /-- Squares on while digits of the exponent are left; `fuel` bounds them. -/
  go (square : F.Rank) (rest : Nat) (acc : F.Rank) : Nat → F.Rank
    | 0 => acc
    | fuel + 1 =>
      let acc := if rest % 2 = 1 then F.mul acc square else acc
      if rest / 2 = 0 then acc else go (F.mul square square) (rest / 2) acc fuel

end Format

/-- A floating-point number of format `F`: `nan`, or a sign and the rank of
the magnitude. -/
inductive Binary (F : Format) where
  | nan
  | number (negative : Bool) (rank : F.Rank)
  deriving DecidableEq

/-- The numbers of 32 bits. -/
abbrev Single : Type := Binary .single

/-- The numbers of 64 bits. -/
abbrev Double : Type := Binary .double

namespace Binary

variable {F G : Format}

/-- Positive zero. -/
def zero : Binary F := .number false F.zero

instance : Inhabited (Binary F) := ⟨zero⟩

/-- The number nearest to an integer. -/
def ofInt (n : Int) : Binary F := .number (decide (n < 0)) (F.ofNat n.natAbs)

/-- The same number in another format, or the nearest one there is. -/
def toFormat (G : Format) : Binary F → Binary G
  | .nan => .nan
  | .number negative rank =>
    if rank = F.infinity then .number negative G.infinity
    else .number negative (G.nearest (F.units rank) (2 ^ F.stepExponent))

/-- The integer part of a finite number. -/
def truncate? : Binary F → Option Int
  | .nan => none
  | .number negative rank =>
    if rank = F.infinity then none
    else
      let whole : Int := (F.units rank / 2 ^ F.stepExponent : Nat)
      some (if negative then -whole else whole)

/-- Whether a comparison calls two numbers equal: `nan` equals nothing and the
two zeros are one. -/
def numericEq : Binary F → Binary F → Bool
  | .number n a, .number m b => a == b && (n == m || a == F.zero)
  | _, _ => false

/-- The bit pattern of a number, for a format whose sign is the top one of
`width` bits. -/
def toBits (width : Nat) : Binary F → Nat
  | .nan => F.infinityRank + 2 ^ (F.precision - 1)
  | .number negative rank => (if negative then 2 ^ (width - 1) else 0) + rank

/-- The number of a bit pattern of `width` bits. -/
def ofBits (F : Format) (width bits : Nat) : Binary F :=
  let rank := bits % 2 ^ (width - 1)
  if h : rank < F.infinityRank + 1 then .number (bits / 2 ^ (width - 1) % 2 == 1) ⟨rank, h⟩
  else .nan

end Binary

end SqlAccess
