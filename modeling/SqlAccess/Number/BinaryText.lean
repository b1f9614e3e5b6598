import SqlAccess.Number.Shortest

/-!
# Floating-point numbers as text

Numbers are written with the fewest digits that read back.  There are two
layouts: the plain one is positional throughout and writes whole numbers
without a point; the typed one, used inside descriptions of values, always
shows that the number is a floating-point one, and writes very large and very
small numbers with an exponent.

* `Binary.text` — the plain layout;
* `Binary.describe` — the typed layout;
* `Binary.ofText?` — reads a sign, digits with at most one point and an
  optional exponent, or `inf`, `infinity` or `nan` in any letter case.
-/

namespace SqlAccess

open Text

namespace Scientific

/-- The number in positional digits, with a point only if it has a fraction. -/
def positional (s : Scientific) : List Char :=
  let ds := digits s.coefficient
  if 0 ≤ s.exponent then ds ++ List.replicate s.exponent.toNat '0'
  else
    let places := (-s.exponent).toNat
    let ds := List.replicate (places + 1 - ds.length) '0' ++ ds
    ds.take (ds.length - places) ++ '.' :: ds.drop (ds.length - places)

/-- The number with a single digit before the point and a power of ten. -/
def withExponent (s : Scientific) : List Char :=
  let ds := digits s.coefficient
  let power := integerText (s.exponent + (ds.length - 1 : Nat))
  match ds with
  | [] => []
  | [d] => d :: 'e' :: power
  | d :: rest => d :: '.' :: rest ++ 'e' :: power

end Scientific

namespace Binary

variable {F : Format}

/-- Writes a number, its positive finite magnitudes by `magnitude` and zero as
`zeroText`. -/
def textWith (magnitude : Scientific → List Char) (zeroText : List Char) : Binary F → List Char
  | .nan => ['N', 'a', 'N']
  | .number negative rank =>
    let body :=
      if rank = F.infinity then ['i', 'n', 'f']
      else if rank = F.zero then zeroText
      else magnitude (F.shortest rank)
    if negative then '-' :: body else body

/-- The plain layout. -/
def text : Binary F → List Char := textWith Scientific.positional ['0']

/-- The typed layout: an exponent from `10 ^ 16` on and below `10 ^ -4`, and
`.0` after other whole numbers. -/
def describe : Binary F → List Char :=
  textWith (fun s =>
    let top := s.exponent + ((digits s.coefficient).length - 1 : Nat)
    if 16 ≤ top ∨ top < -4 then s.withExponent
    else if 0 ≤ s.exponent then s.positional ++ ['.', '0']
    else s.positional) ['0', '.', '0']

/-- Reads an exponent part, which may be missing altogether. -/
def readExponent? : List Char → Option Int
  | [] => some 0
  | c :: rest => if c = 'e' ∨ c = 'E' then readInteger? rest else none

/-- Reads digits with at most one point among them, one digit at least, and an
optional exponent. -/
def readScientific? (cs : List Char) : Option Scientific := do
  let (whole, rest) := takeDigits cs
  let (fraction, rest) := match rest with
    | '.' :: rest => takeDigits rest
    | rest => ([], rest)
  if whole = [] ∧ fraction = [] then none
  else
    let exponent ← readExponent? rest
    return ⟨digitsValue (whole ++ fraction), exponent - fraction.length⟩

/-- Reads a whole text as a number. -/
def ofText? (F : Format) (cs : List Char) : Option (Binary F) :=
  let (negative, body) := takeSign cs
  let word := String.ofList (body.map Char.toLower)
  if word = "inf" ∨ word = "infinity" then some (.number negative F.infinity)
  else if word = "nan" then some .nan
  else (readScientific? body).map fun s => .number negative (s.nearest F)

end Binary

end SqlAccess
