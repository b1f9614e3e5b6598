import SqlAccess.Database.Operation
import SqlAccess.Task

/-!
# Deferred operations

Every operation of a database can be handed to an executor instead of being
done at once.  Handing it over gives a handle and does nothing else; even the
arguments are looked at only when the task is carried out.  The handles show
results of one type, so each operation comes with the form that its result
takes there.

* `Desk` — what tasks work on;
* `Deferred` — tasks that work with a driver;
* `Deferred.schedule` — hands work over;
* `Deferred.execute`, `Deferred.update`, `Deferred.query`, … — the operations;
* `Operation.defer` — handing over whichever operation.
-/

namespace SqlAccess

/-- What tasks work on: the driver, and the results that were put aside. -/
structure Desk (D : Driver) (α : Type) where
  world : World D
  slots : List (String × Except Error α) := []

variable {D : Driver} {α β ι : Type}

namespace Desk

/-- Does work with the driver. -/
def perform (work : Session D β) (desk : Desk D α) : β × Desk D α :=
  let (b, world) := work desk.world
  (b, { desk with world })

/-- The result does not depend on what was put aside. -/
@[simp] theorem perform_fst (work : Session D β) (desk : Desk D α) :
    (desk.perform work).1 = (work desk.world).1 := rfl

/-- What was put aside stays. -/
@[simp] theorem perform_snd (work : Session D β) (desk : Desk D α) :
    (desk.perform work).2 = { desk with world := (work desk.world).2 } := rfl

end Desk

/-- Tasks that work with a driver. -/
abbrev Deferred (D : Driver) (α : Type) : Type := Tasks (Desk D α) α

namespace Deferred

/-- Hands work over.  Its handle will show the result in the given form. -/
def schedule (t : Deferred D α) (form : β → α) (work : Session D (Except Error β)) :
    Nat × Deferred D α :=
  t.submit (Desk.perform (Except.map form <$> work))

/-! ## With an action -/

def execute (t : Deferred D α) (form : Option β → α) (action : StatementAction β) :
    Nat × Deferred D α :=
  t.schedule form (Database.execute action)

def executePrepared (t : Deferred D α) (form : Option β → α) (preparer : Preparer D)
    (action : PreparedAction β) : Nat × Deferred D α :=
  t.schedule form (Database.executePrepared preparer action)

def executeSql (t : Deferred D α) (form : Option β → α) (sql : String)
    (action : PreparedAction β) : Nat × Deferred D α :=
  t.schedule form (Database.executeSql sql action)

/-! ## Updates and batches -/

def update (t : Deferred D α) (form : Option Int64 → α) (sql : String) (returnsKeys : Bool) :
    Nat × Deferred D α :=
  t.schedule form (Database.update sql returnsKeys)

def updatePrepared (t : Deferred D α) (form : Option Int64 → α) (preparer : Preparer D)
    (setter : Option Setter) (returnsKeys : Bool) : Nat × Deferred D α :=
  t.schedule form (Database.updatePrepared preparer setter returnsKeys)

def updateWith (t : Deferred D α) (form : Option Int64 → α) (sql : String)
    (setter : Option Setter) (returnsKeys : Bool) : Nat × Deferred D α :=
  t.schedule form (Database.updateWith sql setter returnsKeys)

def updateTyped (t : Deferred D α) (form : Option Int64 → α) (sql : String)
    (values : List Value) (types : List SqlType) (returnsKeys : Bool) : Nat × Deferred D α :=
  t.schedule form (Database.updateTyped sql values types returnsKeys)

def batchUpdate (t : Deferred D α) (form : Option (List UInt64) → α) (sql : String)
    (setter : BatchSetter) : Nat × Deferred D α :=
  t.schedule form (Database.batchUpdate sql setter)

def batchUpdateTyped (t : Deferred D α) (form : Option (List UInt64) → α) (sql : String)
    (rows : List (List Value)) (types : List SqlType) : Nat × Deferred D α :=
  t.schedule form (Database.batchUpdateTyped sql rows types)

def batchUpdateWith (t : Deferred D α) (form : Option (List UInt64) → α) (sql : String)
    (items : List ι) (setter : ι → Setter) : Nat × Deferred D α :=
  t.schedule form (Database.batchUpdateWith sql items setter)

/-! ## Queries -/

def queryPrepared (t : Deferred D α) (form : Option β → α) (preparer : Preparer D)
    (setter : Option Setter) (x : Extractor β) : Nat × Deferred D α :=
  t.schedule form (Database.queryPrepared preparer setter x)

def queryWith (t : Deferred D α) (form : Option β → α) (sql : String)
    (setter : Option Setter) (x : Extractor β) : Nat × Deferred D α :=
  t.schedule form (Database.queryWith sql setter x)

def query (t : Deferred D α) (form : Option β → α) (sql : String) (args : Arguments)
    (x : Extractor β) : Nat × Deferred D α :=
  t.schedule form (Database.query sql args x)

def queryOrElse (t : Deferred D α) (form : β → α) (sql : String) (args : Arguments)
    (x : Extractor β) (fallback : β) : Nat × Deferred D α :=
  t.schedule form (Database.queryOrElse sql args x fallback)

def queryList (t : Deferred D α) (form : Option (List β) → α) (sql : String)
    (args : Arguments) (mapper : RowMapper β) : Nat × Deferred D α :=
  t.schedule form (Database.queryList sql args mapper)

def queryListOrElse (t : Deferred D α) (form : List β → α) (sql : String)
    (args : Arguments) (mapper : RowMapper β) (fallback : List β) : Nat × Deferred D α :=
  t.schedule form (Database.queryListOrElse sql args mapper fallback)

def queryObject (t : Deferred D α) (form : Option β → α) (sql : String)
    (args : Arguments) (mapper : RowMapper β) : Nat × Deferred D α :=
  t.schedule form (Database.queryObject sql args mapper)

def queryObjectOrElse (t : Deferred D α) (form : β → α) (sql : String)
    (args : Arguments) (mapper : RowMapper β) (fallback : β) : Nat × Deferred D α :=
  t.schedule form (Database.queryObjectOrElse sql args mapper fallback)

end Deferred

/-- Hands an operation over. -/
def Operation.defer (t : Deferred D α) (form : β → α) : Operation D β → Nat × Deferred D α
  | execute action => t.execute form action
  | executePrepared preparer action => t.executePrepared form preparer action
  | executeSql sql action => t.executeSql form sql action
  | update sql returnsKeys => t.update form sql returnsKeys
  | updatePrepared preparer setter returnsKeys => t.updatePrepared form preparer setter returnsKeys
  | updateWith sql setter returnsKeys => t.updateWith form sql setter returnsKeys
  | updateTyped sql values types returnsKeys => t.updateTyped form sql values types returnsKeys
  | batchUpdate sql setter => t.batchUpdate form sql setter
  | batchUpdateTyped sql rows types => t.batchUpdateTyped form sql rows types
  | batchUpdateWith sql items setter => t.batchUpdateWith form sql items setter
  | queryPrepared preparer setter x => t.queryPrepared form preparer setter x
  | queryWith sql setter x => t.queryWith form sql setter x
  | query sql args x => t.query form sql args x
  | queryOrElse sql args x fallback => t.queryOrElse form sql args x fallback
  | queryList sql args mapper => t.queryList form sql args mapper
  | queryListOrElse sql args mapper fallback => t.queryListOrElse form sql args mapper fallback
  | queryObject sql args mapper => t.queryObject form sql args mapper
  | queryObjectOrElse sql args mapper fallback => t.queryObjectOrElse form sql args mapper fallback

end SqlAccess
