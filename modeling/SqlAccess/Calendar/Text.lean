import SqlAccess.Calendar.DateTime
import SqlAccess.Number.Power
import SqlAccess.Text.Blank
import SqlAccess.Text.Digits

/-!
# Dates and times as text

Dates are written `2024-02-29`, times `12:30:00.5`, date-times as both with a
blank between, and instants in the internet format `2024-02-29T12:30:00+01:00`.
Years outside 0 to 9999 carry a sign.  A fraction of a second is written in
three, six or nine digits, the fewest that hold it, or not at all; a leap
second is written as second 60.

Reading takes the same layouts.  Numbers may have blanks in front and fewer
digits than are written, except in the internet format, which is read
strictly.

* `Date.text`, `Time.text`, `DateTime.text`, `OffsetDateTime.text`;
* `Date.ofText?`, `Time.ofText?`, `DateTime.ofText?`, `OffsetDateTime.ofText?`.
-/

namespace SqlAccess

open Text

/-- A year in four digits, with a sign when four digits do not tell it. -/
def yearText (year : Int) : List Char :=
  if 0 ≤ year ∧ year ≤ 9999 then padded 4 year.toNat
  else (if year < 0 then '-' else '+') :: padded 4 year.natAbs

/-- A fraction of a second below `10 ^ 9` nanoseconds with its point, in the
fewest of three, six and nine digits. -/
def fractionText (nanos : Nat) : List Char :=
  if nanos = 0 then []
  else if nanos % 1000000 = 0 then '.' :: padded 3 (nanos / 1000000)
  else if nanos % 1000 = 0 then '.' :: padded 6 (nanos / 1000)
  else '.' :: padded 9 nanos

/-- An offset as hours and minutes, rounded to the nearest minute. -/
def Offset.text (o : Offset) : List Char :=
  let minutes := (o.seconds.natAbs + 30) / 60
  (if o.seconds < 0 then '-' else '+') :: padded 2 (minutes / 60) ++ ':' :: padded 2 (minutes % 60)

/-- An offset as hours and minutes, and seconds if there are any. -/
def Offset.describe (o : Offset) : List Char :=
  let n := o.seconds.natAbs
  (if o.seconds < 0 then '-' else '+') :: padded 2 (n / 3600) ++ ':' :: padded 2 (n / 60 % 60) ++
    (if n % 60 = 0 then [] else ':' :: padded 2 (n % 60))

/-- A date as year, month and day. -/
def Date.text (d : Date) : List Char :=
  yearText d.year ++ '-' :: padded 2 d.month ++ '-' :: padded 2 d.day

/-- A time as hour, minute, second and fraction. -/
def Time.text (t : Time) : List Char :=
  padded 2 t.hour ++ ':' :: padded 2 t.minute ++
    ':' :: padded 2 (t.second + t.nanosecond / nanosPerSecond) ++
    fractionText (t.nanosecond % nanosPerSecond)

/-- A date and a time with `between` between them. -/
def DateTime.textWith (between : Char) (dt : DateTime) : List Char :=
  dt.date.text ++ between :: dt.time.text

/-- A date and a time with a blank between them. -/
def DateTime.text (dt : DateTime) : List Char := dt.textWith ' '

/-- A wall clock's reading with its offset, in the internet format. -/
def OffsetDateTime.text (t : OffsetDateTime) : List Char :=
  t.wallClock.textWith 'T' ++ t.offset.text

namespace Calendar

/-- Reads a given character. -/
def expect? (c : Char) : List Char → Option (List Char)
  | d :: rest => if d = c then some rest else none
  | [] => none

/-- Reads one to `limit` digits, after blanks. -/
def readNumber? (limit : Nat) (cs : List Char) : Option (Nat × List Char) :=
  let (ds, rest) := takeDigitsUpTo limit (trimStart cs)
  if ds = [] then none else some (digitsValue ds, rest)

/-- Reads exactly `count` digits. -/
def readExactly? (count : Nat) (cs : List Char) : Option (Nat × List Char) :=
  let (ds, rest) := takeDigitsUpTo count cs
  if ds.length = count then some (digitsValue ds, rest) else none

/-- Reads a year, after blanks: up to four digits, or a sign and any number of
them. -/
def readYear? (cs : List Char) : Option (Int × List Char) :=
  let withSign (negative : Bool) (rest : List Char) :=
    let (ds, rest) := takeDigits rest
    if ds = [] then none else some (signed negative (digitsValue ds), rest)
  match trimStart cs with
  | '-' :: rest => withSign true rest
  | '+' :: rest => withSign false rest
  | rest => (readNumber? 4 rest).map fun (n, rest) => ((n : Int), rest)

/-- Reads a fraction of a second, if one follows, as nanoseconds.  Digits
beyond the ninth are passed over. -/
def readFraction? : List Char → Option (Nat × List Char)
  | '.' :: rest =>
    let (ds, rest) := takeDigits rest
    if ds = [] then none
    else
      let kept := ds.take 9
      some (digitsValue kept * 10 ^ (9 - kept.length), rest)
  | rest => some (0, rest)

/-- The time with the given parts, second 60 being a leap second. -/
def timeOf? (hour minute second nanos : Nat) : Option Time :=
  if second = 60 then Time.make? hour minute 59 (nanosPerSecond + nanos)
  else Time.make? hour minute second nanos

/-- Reads a date. -/
def readDate? (cs : List Char) : Option (Date × List Char) := do
  let (year, rest) ← readYear? cs
  let (month, rest) ← readNumber? 2 (← expect? '-' rest)
  let (day, rest) ← readNumber? 2 (← expect? '-' rest)
  return (← Date.make? year month day, rest)

/-- Reads a time. -/
def readTime? (cs : List Char) : Option (Time × List Char) := do
  let (hour, rest) ← readNumber? 2 cs
  let (minute, rest) ← readNumber? 2 (← expect? ':' rest)
  let (second, rest) ← readNumber? 2 (← expect? ':' rest)
  let (nanos, rest) ← readFraction? rest
  return (← timeOf? hour minute second nanos, rest)

/-- Accepts what was read if it was all there was. -/
def whole? {α : Type} : Option (α × List Char) → Option α
  | some (a, []) => some a
  | _ => none

/-- Reads an offset: `Z`, or a sign, two digits, a colon and two digits. -/
def readOffset? : List Char → Option (Offset × List Char)
  | [] => none
  | c :: rest =>
    if c = 'Z' ∨ c = 'z' then some (.utc, rest)
    else if c = '+' ∨ c = '-' ∨ c = '−' then do
      let (hours, rest) ← readExactly? 2 rest
      let (minutes, rest) ← readExactly? 2 (← expect? ':' rest)
      if 59 < minutes then none
      else return (← Offset.make? (signed (c != '+') (3600 * hours + 60 * minutes)), rest)
    else none

/-- Reads the character between date and time of the internet format. -/
def readBetween? : List Char → Option (List Char)
  | c :: rest => if c = 'T' ∨ c = 't' ∨ c = ' ' then some rest else none
  | [] => none

/-- Reads an instant in the internet format. -/
def readInstant? (cs : List Char) : Option (OffsetDateTime × List Char) := do
  let (year, rest) ← readExactly? 4 cs
  let (month, rest) ← readExactly? 2 (← expect? '-' rest)
  let (day, rest) ← readExactly? 2 (← expect? '-' rest)
  let (hour, rest) ← readExactly? 2 (← readBetween? rest)
  let (minute, rest) ← readExactly? 2 (← expect? ':' rest)
  let (second, rest) ← readExactly? 2 (← expect? ':' rest)
  let (nanos, rest) ← readFraction? rest
  let (offset, rest) ← readOffset? rest
  let date ← Date.make? year month day
  let time ← timeOf? hour minute second nanos
  return (← OffsetDateTime.ofWallClock? ⟨date, time⟩ offset, rest)

end Calendar

open Calendar

/-- Reads a whole text as a date. -/
def Date.ofText? (cs : List Char) : Option Date := whole? (readDate? cs)

/-- Reads a whole text as a time. -/
def Time.ofText? (cs : List Char) : Option Time := whole? (readTime? cs)

/-- Reads a whole text as a date and a time, with any blanks between them. -/
def DateTime.ofText? (cs : List Char) : Option DateTime := do
  let (date, rest) ← readDate? cs
  let time ← whole? (readTime? (trimStart rest))
  return ⟨date, time⟩

/-- Reads a whole text as an instant in the internet format. -/
def OffsetDateTime.ofText? (cs : List Char) : Option OffsetDateTime := whole? (readInstant? cs)

end SqlAccess
