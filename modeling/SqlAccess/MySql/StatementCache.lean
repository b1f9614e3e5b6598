import SqlAccess.MySql.Datum

/-!
# Statement caches

Each connection keeps the statements it prepared, up to a number, so that a
SQL text that is prepared again needs no preparation.  When there are too many,
the one whose last preparation is the longest ago goes.

* `StatementCache.find?` — the statement of a SQL text, which is the latest
  then;
* `StatementCache.insert` — one more statement, and the one that goes.
-/

namespace SqlAccess.MySql

/-- A statement that a server has prepared. -/
structure ServerStatement where
  /-- Its number on the connection. -/
  id : Nat
  sql : String
  columns : List ColumnInfo
  deriving DecidableEq

/-- The number of parameters of a statement: every question mark is one, in a
literal too. -/
def ServerStatement.parameterCount (s : ServerStatement) : Nat := s.sql.toList.count '?'

/-- The statements a connection keeps, the latest first. -/
structure StatementCache where
  entries : List ServerStatement := []

namespace StatementCache

/-- The statement of a SQL text, which becomes the latest. -/
def find? (c : StatementCache) (sql : String) : Option (ServerStatement × StatementCache) :=
  (c.entries.find? (·.sql == sql)).map fun s => (s, ⟨s :: c.entries.filter (· != s)⟩)

/-- Keeps a statement, up to a number of them; gives the one that has to
go. -/
def insert (capacity : Nat) (c : StatementCache) (s : ServerStatement) :
    Option ServerStatement × StatementCache :=
  if capacity = 0 then (none, c)
  else
    let entries := s :: c.entries
    if capacity < entries.length then (entries.getLast?, ⟨entries.dropLast⟩) else (none, ⟨entries⟩)

/-- The cache without the statement of a number. -/
def remove (c : StatementCache) (id : Nat) : StatementCache := ⟨c.entries.filter (·.id != id)⟩

end StatementCache

end SqlAccess.MySql
