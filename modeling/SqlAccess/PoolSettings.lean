/-!
# Pool settings

How a pooled source treats its connections and statements.  All durations are
in milliseconds.

* `PoolSettings.standard` — the settings for a machine, by the number of
  threads it runs at a time;
* `PoolSettings.withProperty` — adds a driver property;
* `urlWithProperties` — the properties in the query part of a URL.
-/

namespace SqlAccess

/-- Settings of a pooled source. -/
structure PoolSettings where
  cachesStatements : Bool
  statementCacheSize : Nat
  /-- Statements whose SQL has more bytes than this are not kept. -/
  statementCacheSqlLimit : Nat
  socketTimeout : Nat
  maxPoolSize : Nat
  minIdle : Nat
  maxLifetime : Nat
  connectionTimeout : Nat
  /-- Connections held longer than this are told of when they are released. -/
  leakThreshold : Nat
  /-- Driver properties, in the order of their keys. -/
  properties : List (String × String)

namespace PoolSettings

/-- The usual settings of a machine that runs `parallelism` threads at a
time. -/
def standard (parallelism : Nat) : PoolSettings where
  cachesStatements := true
  statementCacheSize := 250
  statementCacheSqlLimit := 2048
  socketTimeout := 30000
  maxPoolSize := 2 * parallelism + 1
  minIdle := min (2 * parallelism + 1) 10
  maxLifetime := 1800000
  connectionTimeout := 10000
  leakThreshold := 10000
  properties := []

/-- Puts a key with its value in order, in the place of an earlier value. -/
def insertProperty (key value : String) : List (String × String) → List (String × String)
  | [] => [(key, value)]
  | (k, v) :: rest =>
    if key < k then (key, value) :: (k, v) :: rest
    else if key = k then (key, value) :: rest
    else (k, v) :: insertProperty key value rest

/-- Adds a driver property, or replaces its value. -/
def withProperty (s : PoolSettings) (key value : String) : PoolSettings :=
  { s with properties := insertProperty key value s.properties }

/-- The size of a connection's statement cache. -/
def cacheSize (s : PoolSettings) : Nat := if s.cachesStatements then s.statementCacheSize else 0

/-- Whether a statement stays open when it is closed, for the next use of its
SQL. -/
def keepsStatement (s : PoolSettings) (sql : String) : Bool :=
  s.cachesStatements && decide (sql.utf8ByteSize ≤ s.statementCacheSqlLimit)

end PoolSettings

/-- A URL with properties in its query part. -/
def urlWithProperties (base : String) (properties : List (String × String)) : String :=
  if properties.isEmpty then base
  else base ++ "?" ++ "&".intercalate (properties.map fun (key, value) => s!"{key}={value}")

end SqlAccess
