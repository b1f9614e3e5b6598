import SqlAccess.Database.Query

/-!
# Operations as data

The operations of a database with their arguments.  Whoever takes an operation
can do it at once, or hand it to somebody who does it later.

* `Operation` and `Operation.run` — the operations, and doing one.
-/

namespace SqlAccess

variable {D : Driver} {β : Type}

/-- An operation of a database with its arguments; `β` is what it gives. -/
inductive Operation (D : Driver) : Type → Type 1 where
  | execute {α : Type} (action : StatementAction α) : Operation D (Option α)
  | executePrepared {α : Type} (preparer : Preparer D) (action : PreparedAction α) :
      Operation D (Option α)
  | executeSql {α : Type} (sql : String) (action : PreparedAction α) : Operation D (Option α)
  | update (sql : String) (returnsKeys : Bool) : Operation D (Option Int64)
  | updatePrepared (preparer : Preparer D) (setter : Option Setter) (returnsKeys : Bool) :
      Operation D (Option Int64)
  | updateWith (sql : String) (setter : Option Setter) (returnsKeys : Bool) :
      Operation D (Option Int64)
  | updateTyped (sql : String) (values : List Value) (types : List SqlType)
      (returnsKeys : Bool) : Operation D (Option Int64)
  | batchUpdate (sql : String) (setter : BatchSetter) : Operation D (Option (List UInt64))
  | batchUpdateTyped (sql : String) (rows : List (List Value)) (types : List SqlType) :
      Operation D (Option (List UInt64))
  | batchUpdateWith {ι : Type} (sql : String) (items : List ι) (setter : ι → Setter) :
      Operation D (Option (List UInt64))
  | queryPrepared {α : Type} (preparer : Preparer D) (setter : Option Setter)
      (x : Extractor α) : Operation D (Option α)
  | queryWith {α : Type} (sql : String) (setter : Option Setter) (x : Extractor α) :
      Operation D (Option α)
  | query {α : Type} (sql : String) (args : Arguments) (x : Extractor α) :
      Operation D (Option α)
  | queryOrElse {α : Type} (sql : String) (args : Arguments) (x : Extractor α)
      (fallback : α) : Operation D α
  | queryList {α : Type} (sql : String) (args : Arguments) (mapper : RowMapper α) :
      Operation D (Option (List α))
  | queryListOrElse {α : Type} (sql : String) (args : Arguments) (mapper : RowMapper α)
      (fallback : List α) : Operation D (List α)
  | queryObject {α : Type} (sql : String) (args : Arguments) (mapper : RowMapper α) :
      Operation D (Option α)
  | queryObjectOrElse {α : Type} (sql : String) (args : Arguments) (mapper : RowMapper α)
      (fallback : α) : Operation D α

namespace Operation

/-- Does an operation. -/
def run : Operation D β → Session D (Except Error β)
  | execute action => Database.execute action
  | executePrepared preparer action => Database.executePrepared preparer action
  | executeSql sql action => Database.executeSql sql action
  | update sql returnsKeys => Database.update sql returnsKeys
  | updatePrepared preparer setter returnsKeys =>
    Database.updatePrepared preparer setter returnsKeys
  | updateWith sql setter returnsKeys => Database.updateWith sql setter returnsKeys
  | updateTyped sql values types returnsKeys =>
    Database.updateTyped sql values types returnsKeys
  | batchUpdate sql setter => Database.batchUpdate sql setter
  | batchUpdateTyped sql rows types => Database.batchUpdateTyped sql rows types
  | batchUpdateWith sql items setter => Database.batchUpdateWith sql items setter
  | queryPrepared preparer setter x => Database.queryPrepared preparer setter x
  | queryWith sql setter x => Database.queryWith sql setter x
  | query sql args x => Database.query sql args x
  | queryOrElse sql args x fallback => Database.queryOrElse sql args x fallback
  | queryList sql args mapper => Database.queryList sql args mapper
  | queryListOrElse sql args mapper fallback =>
    Database.queryListOrElse sql args mapper fallback
  | queryObject sql args mapper => Database.queryObject sql args mapper
  | queryObjectOrElse sql args mapper fallback =>
    Database.queryObjectOrElse sql args mapper fallback

end Operation

end SqlAccess
