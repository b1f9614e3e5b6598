import SqlAccess.Text.Hex

/-!
# Universally unique identifiers

An identifier is sixteen bytes.  It is written as 32 hexadecimal digits in
groups of 8, 4, 4, 4 and 12 with hyphens between; reading also takes the plain
digits, the grouped form in braces, and the grouped form as a URN.

* `Uuid.ofBytes?` — the identifier of sixteen bytes;
* `Uuid.text` and `Uuid.ofText?` — writing and reading.
-/

namespace SqlAccess

open Text

/-- Sixteen bytes that name something. -/
structure Uuid where
  bytes : List UInt8
  length_eq : bytes.length = 16
  deriving DecidableEq

namespace Uuid

/-- The identifier of sixteen bytes. -/
def ofBytes? (bytes : List UInt8) : Option Uuid :=
  if h : bytes.length = 16 then some ⟨bytes, h⟩ else none

/-- Puts hyphens between the groups of 32 digits. -/
def group (ds : List Char) : List Char :=
  ds.take 8 ++ '-' :: (ds.drop 8).take 4 ++ '-' :: (ds.drop 12).take 4 ++
    '-' :: (ds.drop 16).take 4 ++ '-' :: ds.drop 20

/-- The grouped form in lower case. -/
def text (u : Uuid) : List Char := group (hexText u.bytes)

/-- The digits of a grouped form; refuses hyphens in other places. -/
def ungroup? (cs : List Char) : Option (List Char) :=
  if [8, 13, 18, 23].all fun i => cs[i]? == some '-' then
    some (cs.take 8 ++ (cs.drop 9).take 4 ++ (cs.drop 14).take 4 ++ (cs.drop 19).take 4 ++
      cs.drop 24)
  else none

/-- Reads 32 digits. -/
def ofPlain? (cs : List Char) : Option Uuid := (readHex? cs).bind ofBytes?

/-- Reads the grouped form. -/
def ofGrouped? (cs : List Char) : Option Uuid := (ungroup? cs).bind ofPlain?

/-- Reads an identifier in any of its forms, which differ in length. -/
def ofText? (cs : List Char) : Option Uuid :=
  match cs.length with
  | 32 => ofPlain? cs
  | 36 => ofGrouped? cs
  | 38 =>
    if cs.head? = some '\x7b' ∧ cs.getLast? = some '\x7d' then
      ofGrouped? (cs.drop 1).dropLast
    else none
  | 45 =>
    if (cs.take 9).map Char.toLower = "urn:uuid:".toList then ofGrouped? (cs.drop 9) else none
  | _ => none

end Uuid

end SqlAccess
