/-!
# Bytes as text

Every sequence of bytes is some text: what is not UTF-8 in it stands for the
replacement character, once for each longest beginning of a character that has
no continuation, and once for each byte that begins none.

* `OpenChar` — a character of which bytes are still lacking;
* `decodeFrom` — the characters of the bytes that follow;
* `decodeUtf8` — the text of bytes.
-/

namespace SqlAccess.Text

/-- What stands for bytes that are no character. -/
def replacement : Char := '\uFFFD'

/-- A character whose first bytes were read: its bits so far, the number of
bytes it lacks after the next one, and the bounds of the next one. -/
structure OpenChar where
  bits : Nat
  lacking : Nat
  low : Nat
  high : Nat

/-- The characters that are complete with a byte that begins one, and the one
it leaves open. -/
def beginWith (b : Nat) : List Char × Option OpenChar :=
  if b ≤ 0x7F then ([Char.ofNat b], none)
  else if 0xC2 ≤ b ∧ b ≤ 0xDF then ([], some ⟨b - 0xC0, 0, 0x80, 0xBF⟩)
  else if 0xE0 ≤ b ∧ b ≤ 0xEF then
    ([], some ⟨b - 0xE0, 1, if b = 0xE0 then 0xA0 else 0x80, if b = 0xED then 0x9F else 0xBF⟩)
  else if 0xF0 ≤ b ∧ b ≤ 0xF4 then
    ([], some ⟨b - 0xF0, 2, if b = 0xF0 then 0x90 else 0x80, if b = 0xF4 then 0x8F else 0xBF⟩)
  else ([replacement], none)

/-- The characters that are complete with one more byte, and the one it leaves
open. -/
def continueWith (open? : Option OpenChar) (b : Nat) : List Char × Option OpenChar :=
  match open? with
  | none => beginWith b
  | some p =>
    if p.low ≤ b ∧ b ≤ p.high then
      let bits := 64 * p.bits + (b - 0x80)
      if p.lacking = 0 then ([Char.ofNat bits], none)
      else ([], some ⟨bits, p.lacking - 1, 0x80, 0xBF⟩)
    else (replacement :: (beginWith b).1, (beginWith b).2)

/-- The characters of the bytes that follow an open character, if there is
one. -/
def decodeFrom : Option OpenChar → List UInt8 → List Char
  | none, [] => []
  | some _, [] => [replacement]
  | open?, b :: rest =>
    let (complete, open?) := continueWith open? b.toNat
    complete ++ decodeFrom open? rest

/-- The text of bytes. -/
def decodeUtf8 (bytes : List UInt8) : String := String.ofList (decodeFrom none bytes)

end SqlAccess.Text
