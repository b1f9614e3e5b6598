import SqlAccess.Database.Lifecycle
import SqlAccess.Result.Cursor
import SqlAccess.Statement.Setter

/-!
# Updates and batches

Operations that change data.  An update gives the number of affected rows or,
if asked for, the first key it generated.  A batch runs one statement with
many sets of parameters and gives one count per set.

* `Database.update`, `updatePrepared`, `updateWith`, `updateTyped`;
* `Database.batchUpdate`, `batchUpdateTyped`, `batchUpdateWith`.
-/

namespace SqlAccess.Database

variable {D : Driver}

/-- The first column of the first row of generated keys; 0 when there is
none. -/
def firstKey (keys : ResultSet) : Except Error Int64 :=
  match keys.cursor.next? with
  | none => .ok 0
  | some (row, _) =>
    if row.columns.isEmpty then .ok 0
    else do
      match ← row.getAs 1 .int64 with
      | .int64 n => .ok n
      | _ => .ok 0

/-- A count of rows as a signed number, the greatest one if it is too large. -/
def countOf (affected : UInt64) : Int64 := .ofNat (min affected.toNat (2 ^ 63 - 1))

/-- What an update gives: the first key if keys were asked for, else the
count. -/
def updateResult {Call : Type} {Response : Call → Type} (returnsKeys : Bool)
    (keys : Program Call Response (Except SqlError ResultSet)) (affected : UInt64) :
    Program Call Response (Except Error Int64) :=
  if returnsKeys then keys.orFail.andThen fun r => .done (firstKey r)
  else .done (.ok (countOf affected))

/-- The action of an update with a plain statement. -/
def updateAction (sql : String) (returnsKeys : Bool) : StatementAction Int64 where
  program :=
    (StatementCall.update sql returnsKeys).perform.orFail.andThen
      (updateResult returnsKeys StatementCall.generatedKeys.perform)
  sql := some sql

/-- Binds parameters by a setter, if there is one. -/
def applySetter : Option Setter → PreparedProgram (Except Error Unit)
  | some setter => setter.onPrepared
  | none => .done (.ok ())

/-- The action of an update with a prepared statement. -/
def preparedUpdateAction (setter : Option Setter) (returnsKeys : Bool) : PreparedAction Int64 where
  program :=
    (applySetter setter).andThen fun () =>
      PreparedCall.update.perform.orFail.andThen
        (updateResult returnsKeys PreparedCall.generatedKeys.perform)

/-- An update with a newly prepared statement. -/
def updatePrepared (preparer : Preparer D) (setter : Option Setter) (returnsKeys : Bool) :
    Session D (Except Error (Option Int64)) :=
  executePrepared preparer (preparedUpdateAction setter returnsKeys)

/-- An update with parameters bound by a setter. -/
def updateWith (sql : String) (setter : Option Setter) (returnsKeys : Bool) :
    Session D (Except Error (Option Int64)) :=
  match Creator.ofSql sql returnsKeys with
  | .error e => return .error e
  | .ok creator => updatePrepared creator setter returnsKeys

/-- An update without parameters.  Generated keys need a prepared statement. -/
def update (sql : String) (returnsKeys : Bool) : Session D (Except Error (Option Int64)) :=
  if returnsKeys then updateWith sql none true else execute (updateAction sql false)

/-- An update with values bound by position under their declared types. -/
def updateTyped (sql : String) (values : List Value) (types : List SqlType) (returnsKeys : Bool) :
    Session D (Except Error (Option Int64)) :=
  updateWith sql (some (.typed values types)) returnsKeys

/-- The error that a connection runs no batches. -/
def batchUnsupported : Error := .unsupported "This driver doesn't support batch updates."

/-- Adds one entry to the batch for each setter, up to the first failure. -/
def addEntries : List Setter → PreparedProgram (Except Error Unit)
  | [] => .done (.ok ())
  | setter :: rest =>
    setter.onPrepared.andThen fun () =>
      (PreparedCall.binding .addBatch).perform.orFail.andThen fun () => addEntries rest

/-- Adds one entry to the batch for each item, up to the first failure. -/
def addItems {ι : Type} (setter : ι → Setter) : List ι → PreparedProgram (Except Error Unit)
  | [] => .done (.ok ())
  | item :: rest =>
    (setter item).onPrepared.andThen fun () =>
      (PreparedCall.binding .addBatch).perform.orFail.andThen fun () => addItems setter rest

/-- The action of a batch that work adds the entries to: nothing is bound unless
batches are supported. -/
def batchOf (entries : PreparedProgram (Except Error Unit)) : PreparedAction (List UInt64) where
  program :=
    .call (.binding .supportsBatch) fun
      | false => .done (.error batchUnsupported)
      | true => entries.andThen fun () => PreparedCall.batch.perform.orFail

/-- The action of a batch with an entry for each setter. -/
def batchAction (setters : List Setter) : PreparedAction (List UInt64) :=
  batchOf (addEntries setters)

/-- The action of a batch with an entry for each item. -/
def itemsAction {ι : Type} (items : List ι) (setter : ι → Setter) : PreparedAction (List UInt64) :=
  batchOf (addItems setter items)

/-- Runs the entries of a batch setter as one batch, also when there are
none. -/
def batchUpdate (sql : String) (setter : BatchSetter) :
    Session D (Except Error (Option (List UInt64))) :=
  executeSql sql (batchAction setter.entries)

/-- Runs one row of values per entry; without rows nothing is done. -/
def batchUpdateTyped (sql : String) (rows : List (List Value)) (types : List SqlType) :
    Session D (Except Error (Option (List UInt64))) :=
  if rows.isEmpty then return .ok (some []) else batchUpdate sql (.typed rows types)

/-- Runs one entry per item, bound by a setter for the item; without items
only the SQL text is checked. -/
def batchUpdateWith {ι : Type} (sql : String) (items : List ι) (setter : ι → Setter) :
    Session D (Except Error (Option (List UInt64))) :=
  match Creator.ofSql sql false with
  | .error e => return .error e
  | .ok creator =>
    if items.isEmpty then return .ok (some [])
    else executePrepared creator (itemsAction items setter)

end SqlAccess.Database
