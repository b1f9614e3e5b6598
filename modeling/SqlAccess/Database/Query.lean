import SqlAccess.Database.Update
import SqlAccess.Result.Extractor

/-!
# Queries

Operations that read data, with a plain statement or with a prepared one whose
parameters are bound by a setter or by position.  The whole result goes to an
extractor; lists and single objects are made by a mapper.  The forms with a
fallback use it where there is no result.

* `Arguments` — how the parameters of a query are given;
* `Database.query`, `queryPrepared`, `queryWith` — with an extractor;
* `Database.queryList`, `queryObject` — with a mapper;
* `Database.queryOrElse`, `queryListOrElse`, `queryObjectOrElse` — with a
  fallback.
-/

namespace SqlAccess

/-- How the parameters of a query are given. -/
inductive Arguments where
  /-- There are none, and the statement is not prepared. -/
  | none
  /-- By position, without types. -/
  | untyped (values : List Value)
  /-- By position, with their declared types. -/
  | typed (values : List Value) (types : List SqlType)

namespace Database

variable {D : Driver} {α : Type}

/-- The result of a query, from a cursor on what it returned. -/
def extract {Call : Type} {Response : Call → Type} (x : Extractor α) (r : ResultSet) :
    Program Call Response (Except Error (Option α)) :=
  .done (x r.cursor).1

/-- The action of a query with a plain statement. -/
def queryAction (sql : String) (x : Extractor α) : StatementAction (Option α) where
  program := (StatementCall.query sql).perform.orFail.andThen (extract x)
  sql := some sql

/-- The action of a query with a prepared statement. -/
def preparedQueryAction (setter : Option Setter) (x : Extractor α) : PreparedAction (Option α) where
  program :=
    (applySetter setter).andThen fun () =>
      PreparedCall.query.perform.orFail.andThen (extract x)

/-- No connection and no result are the same to a caller. -/
def flatten (r : Except Error (Option (Option α))) : Except Error (Option α) := r.map Option.join

/-- A query with a newly prepared statement. -/
def queryPrepared (preparer : Preparer D) (setter : Option Setter) (x : Extractor α) :
    Session D (Except Error (Option α)) :=
  flatten <$> executePrepared preparer (preparedQueryAction setter x)

/-- A query with parameters bound by a setter. -/
def queryWith (sql : String) (setter : Option Setter) (x : Extractor α) :
    Session D (Except Error (Option α)) :=
  match Creator.ofSql sql false with
  | .error e => return .error e
  | .ok creator => queryPrepared creator setter x

/-- A query. -/
def query (sql : String) (args : Arguments) (x : Extractor α) :
    Session D (Except Error (Option α)) :=
  match args with
  | .none => flatten <$> execute (queryAction sql x)
  | .untyped values => queryWith sql (some (.untyped values)) x
  | .typed values types => queryWith sql (some (.typed values types)) x

/-- A query's result, or the fallback. -/
def queryOrElse (sql : String) (args : Arguments) (x : Extractor α) (fallback : α) :
    Session D (Except Error α) :=
  Except.map (·.getD fallback) <$> query sql args x

/-- The extractor of all rows. -/
def all (mapper : RowMapper α) : Extractor (List α) := collect mapper 0

/-- The mapped rows of a query. -/
def queryList (sql : String) (args : Arguments) (mapper : RowMapper α) :
    Session D (Except Error (Option (List α))) :=
  query sql args (all mapper)

/-- A list that is not empty, or the fallback. -/
def nonEmptyOr (fallback : List α) : Option (List α) → List α
  | some (x :: xs) => x :: xs
  | _ => fallback

/-- The mapped rows of a query; the fallback if there are none. -/
def queryListOrElse (sql : String) (args : Arguments) (mapper : RowMapper α) (fallback : List α) :
    Session D (Except Error (List α)) :=
  Except.map (nonEmptyOr fallback) <$> queryList sql args mapper

/-- The only object of a list; no list is no result. -/
def objectOf (r : Except Error (Option (List α))) : Except Error (Option α) := do
  match ← r with
  | some items => some <$> singleResult (some items)
  | none => .ok none

/-- The only row of a query, mapped. -/
def queryObject (sql : String) (args : Arguments) (mapper : RowMapper α) :
    Session D (Except Error (Option α)) :=
  objectOf <$> queryList sql args mapper

/-- The only object of a list, or the fallback where there is none. -/
def objectOrElse (fallback : α) (r : Except Error (Option (List α))) : Except Error α := do
  return (← optionalSingleResult (← r)).getD fallback

/-- The only row of a query, mapped; the fallback if there is none. -/
def queryObjectOrElse (sql : String) (args : Arguments) (mapper : RowMapper α) (fallback : α) :
    Session D (Except Error α) :=
  objectOrElse fallback <$> queryList sql args mapper

end Database

end SqlAccess
