import SqlAccess.Number.Decimal.Basic
import SqlAccess.Text.Digits

/-!
# Decimals as text

A decimal is written with exactly as many places as its scale says.  Reading
takes an optional sign and digits with at most one point among them; `_` may
stand anywhere after the first digit.  The digits of a text become the digits
of the decimal, trailing zeros included, as long as they fit: the first one
that does not decides the rounding, half up, and those behind it have no say.
A text that cannot be read this way may still have an exponent.

* `Decimal.text` — writing;
* `Decimal.readPlain?` — reading without an exponent;
* `Decimal.ofText?` — reading.
-/

namespace SqlAccess.Decimal

open Text

/-- A decimal in digits, with `scale` of them after the point. -/
def text (d : Decimal) : List Char :=
  let ds := padded (d.scale + 1) d.mantissa
  let body :=
    if d.scale = 0 then ds
    else ds.take (ds.length - d.scale) ++ '.' :: ds.drop (ds.length - d.scale)
  if d.negative then '-' :: body else body

/-- A mantissa and a scale read from a text. -/
structure Reading where
  mantissa : Nat
  scale : Nat

/-- Rounds a full mantissa up by one.  Where that makes it too long, a place
is given up for it. -/
def Reading.roundUp? (r : Reading) : Option Reading :=
  if r.mantissa + 1 < mantissaBound then some ⟨r.mantissa + 1, r.scale⟩
  else if r.scale = 0 then none
  else some ⟨(r.mantissa + 5) / 10, r.scale - 1⟩

/-- Whether a mantissa without its last digit is far enough from filling 64
bits. -/
def Reading.isShort (r : Reading) : Bool := r.mantissa / 10 < (2 ^ 64 - 1) / 10 - 255

/-- Ends a reading at the text that has no room any more, which may only be
digits and separators.  The first digit of it rounds half up; a separator in
front of that digit hides it behind a short mantissa. -/
def Reading.finish? (r : Reading) (rest : List Char) : Option Reading :=
  if rest.all fun c => c.isDigit || c == '_' then
    let deciding := if r.isShort then rest else rest.dropWhile (· == '_')
    if deciding.head?.any fun c => c.isDigit && '5' ≤ c then r.roundUp? else some r
  else none

/-- Reads on, after `point` or before, with at least one digit `seen` or
not. -/
def readFrom? (r : Reading) (point seen : Bool) : List Char → Option Reading
  | [] => if seen then some r else none
  | c :: rest =>
    if c.isDigit then
      let mantissa := 10 * r.mantissa + (c.toNat - '0'.toNat)
      if mantissaBound ≤ mantissa then if point then r.finish? (c :: rest) else none
      else
        let next : Reading := ⟨mantissa, if point then r.scale + 1 else 0⟩
        if point ∧ maxScale ≤ next.scale then next.finish? rest
        else readFrom? next point true rest
    else if c = '.' ∧ !point then readFrom? r true seen rest
    else if c = '_' ∧ seen then readFrom? r point seen rest
    else none

/-- The decimal of a reading.  A zero read from text has no sign. -/
def ofReading? (negative : Bool) (r : Reading) : Option Decimal :=
  make? (negative && r.mantissa != 0) r.mantissa r.scale

/-- Reads a text without an exponent. -/
def readPlain? (cs : List Char) : Option Decimal :=
  let (negative, body) := takeSign cs
  (readFrom? ⟨0, 0⟩ false false body).bind (ofReading? negative)

/-- Reads an exponent's digits as a number of 32 bits, with an optional plus
in front. -/
def readExponent? (cs : List Char) : Option Nat :=
  let ds := match cs with
    | '+' :: rest => rest
    | rest => rest
  if ds ≠ [] ∧ ds.all Char.isDigit ∧ digitsValue ds < 2 ^ 32 then some (digitsValue ds) else none

/-- The decimal rounded half up to fewer places. -/
def roundPlaces? (d : Decimal) (scale : Nat) : Option Decimal :=
  let dropped := d.scale - scale
  if dropped = 0 then some d
  else
    let kept := d.mantissa / 10 ^ (dropped - 1)
    make? d.negative ((kept + 5) / 10) scale

/-- The decimal divided by a power of ten, by moving the point; the places
that no longer fit are rounded away. -/
def movePointLeft? (d : Decimal) (count : Nat) : Option Decimal :=
  if maxScale < count then none
  else if d.scale + count ≤ maxScale then make? d.negative d.mantissa (d.scale + count)
  else do
    let rounded ← d.roundPlaces? (maxScale - count)
    make? rounded.negative rounded.mantissa maxScale

/-- The decimal multiplied by a power of ten, by moving the point, with zeros
written behind where there are no places left. -/
def movePointRight? (d : Decimal) (count : Nat) : Option Decimal :=
  if count ≤ d.scale then make? d.negative d.mantissa (d.scale - count)
  else if maxScale < count then none
  else make? d.negative (d.mantissa * 10 ^ (count - d.scale)) 0

/-- Splits a text at its first exponent mark. -/
def splitExponent? (cs : List Char) : Option (List Char × List Char) :=
  let isMark : Char → Bool := fun c => c == 'e' || c == 'E'
  match cs.dropWhile (!isMark ·) with
  | [] => none
  | _ :: exponent => some (cs.takeWhile (!isMark ·), exponent)

/-- Reads a text with an exponent. -/
def readWithExponent? (cs : List Char) : Option Decimal := do
  let (base, exponent) ← splitExponent? cs
  let d ← readPlain? base
  match exponent with
  | '-' :: rest => d.movePointLeft? (← readExponent? rest)
  | rest => d.movePointRight? (← readExponent? rest)

/-- Reads a whole text as a decimal. -/
def ofText? (cs : List Char) : Option Decimal :=
  match readPlain? cs with
  | some d => some d
  | none => readWithExponent? cs

end SqlAccess.Decimal
