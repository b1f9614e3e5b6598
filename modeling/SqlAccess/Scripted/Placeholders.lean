/-!
# Placeholders

The question marks of a SQL text that stand for parameters: those outside of
literals.  A literal begins with a single quote, a double quote or a backquote
and ends with the next character of the same kind; a doubled quote inside a
literal ends it and begins the next one at once.

* `placeholdersFrom` — the count, from inside a literal or outside of one;
* `placeholders` — the count for a whole text.
-/

namespace SqlAccess

/-- The characters that begin and end a literal. -/
def isQuote (c : Char) : Bool := c == '\'' || c == '"' || c == '\x60'

/-- The number of placeholders in the rest of a text; `quote` is the quote of
the literal it begins in, if it does. -/
def placeholdersFrom : (quote : Option Char) → List Char → Nat
  | _, [] => 0
  | some q, c :: rest => placeholdersFrom (if c = q then none else some q) rest
  | none, c :: rest =>
    if isQuote c then placeholdersFrom (some c) rest
    else if c = '?' then placeholdersFrom none rest + 1
    else placeholdersFrom none rest

/-- The number of placeholders of a SQL text. -/
def placeholders (sql : String) : Nat := placeholdersFrom none sql.toList

end SqlAccess
