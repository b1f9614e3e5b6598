/-!
# Runs of decimal digits

Reading and writing numbers in decimal digits.  Only `0` to `9` are digits
here, as in every text format this library reads.

* `takeDigits` — splits a text after its leading digits;
* `digitsValue` — the number a run of digits denotes;
* `padded` — a number in at least so many digits;
* `readInteger?` — a whole text as an optionally signed integer.
-/

namespace SqlAccess.Text

/-- The leading digits of a text, and the rest. -/
def takeDigits (cs : List Char) : List Char × List Char :=
  (cs.takeWhile Char.isDigit, cs.dropWhile Char.isDigit)

/-- The leading digits of a text, at most `limit` of them, and the rest. -/
def takeDigitsUpTo (limit : Nat) (cs : List Char) : List Char × List Char :=
  let ds := (cs.take limit).takeWhile Char.isDigit
  (ds, cs.drop ds.length)

/-- The number a run of digits denotes; none denotes zero. -/
def digitsValue (ds : List Char) : Nat := Nat.ofDigitChars 10 ds 0

/-- The digits of a number, without leading zeros. -/
def digits (n : Nat) : List Char := Nat.toDigits 10 n

/-- The digits of a number, with zeros in front up to the given width. -/
def padded (width n : Nat) : List Char :=
  List.replicate (width - (digits n).length) '0' ++ digits n

/-- An integer in digits, with a minus when it is negative. -/
def integerText (n : Int) : List Char :=
  if n < 0 then '-' :: digits n.natAbs else digits n.natAbs

/-- Splits a sign off a text: whether it is a minus, and the rest. -/
def takeSign : List Char → Bool × List Char
  | '-' :: rest => (true, rest)
  | '+' :: rest => (false, rest)
  | rest => (false, rest)

/-- Applies a sign to a magnitude. -/
def signed (negative : Bool) (n : Nat) : Int := if negative then -(n : Int) else n

/-- Reads a whole text as an optional sign followed by one or more digits. -/
def readInteger? (cs : List Char) : Option Int :=
  let (negative, ds) := takeSign cs
  if ds ≠ [] ∧ ds.all Char.isDigit then some (signed negative (digitsValue ds)) else none

end SqlAccess.Text
