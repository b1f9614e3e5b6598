import SqlAccess.Text.Printable

/-!
# Descriptions

The parts of which descriptions of values are made: text in double quotes,
lists in brackets, options, and records with named fields.  In quoted text,
quotes and backslashes are escaped by a backslash, the usual control
characters by a letter, and other unprintable characters by their code point
in braces.
-/

namespace SqlAccess.Text

/-- A character as it stands in quoted text. -/
def quoteChar (c : Char) : List Char :=
  if c = '"' ∨ c = '\\' then ['\\', c]
  else if c = '\t' then ['\\', 't']
  else if c = '\n' then ['\\', 'n']
  else if c = '\r' then ['\\', 'r']
  else if c = '\x00' then ['\\', '0']
  else if isPrintable c then [c]
  else '\\' :: 'u' :: '\x7b' :: Nat.toDigits 16 c.toNat ++ ['\x7d']

/-- A text in double quotes. -/
def quoted (s : String) : String := String.ofList ('"' :: s.toList.flatMap quoteChar ++ ['"'])

/-- Items in brackets. -/
def bracketed (items : List String) : String := "[" ++ ", ".intercalate items ++ "]"

/-- An item that may be missing. -/
def optionally (item : Option String) : String :=
  match item with
  | some s => s!"Some({s})"
  | none => "None"

/-- A record with its fields' names and described values. -/
def fields (name : String) (items : List (String × String)) : String :=
  name ++ " \x7b " ++ ", ".intercalate (items.map fun (field, s) => s!"{field}: {s}") ++ " \x7d"

end SqlAccess.Text
