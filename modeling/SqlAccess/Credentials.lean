import SqlAccess.Error
import SqlAccess.Number.Power
import SqlAccess.Text.Blank
import SqlAccess.Text.Quoted

/-!
# Credentials

Where and as whom to connect, and the name of the pool.  Host, user and pool
name are required and not empty.  Credentials are put together field by field,
taken from the environment, or read from a configuration; all three ways check
the same.

* `Credentials.Draft` and `Credentials.Draft.build` — fields so far, and the
  check;
* `Credentials.Draft.ofEntries` — fields set one after the other;
* `Credentials.ofEnvironment` — from variables with a common first part;
* `Credentials.ofConfig` — from a record or a list of settings.
-/

namespace SqlAccess

/-- The port of a server that was given none. -/
def defaultPort : UInt16 := 3306

/-- Where and as whom to connect. -/
structure Credentials where
  host : String
  port : UInt16
  user : String
  password : Option String
  schema : Option String
  pool : String
  deriving DecidableEq

namespace Credentials

/-- The place to connect to, without user or password. -/
def url (c : Credentials) : String :=
  let schema := c.schema.getD ""
  s!"mysql://{c.host}:{c.port}/{schema}"

/-- Credentials in a report, which does not show the password. -/
def describe (c : Credentials) : String :=
  Text.fields "Credentials"
    [("hostname", Text.quoted c.host),
      ("port", toString c.port),
      ("username", Text.quoted c.user),
      ("password", Text.optionally (c.password.map fun _ => Text.quoted "***")),
      ("schema", Text.optionally (c.schema.map Text.quoted)),
      ("pool_name", Text.quoted c.pool)]

/-- Credentials in the making. -/
structure Draft where
  host : Option String := none
  port : UInt16 := defaultPort
  user : Option String := none
  password : Option String := none
  schema : Option String := none
  pool : Option String := none
  deriving DecidableEq

/-- The fields that hold texts. -/
inductive TextField where
  | host | user | password | schema | pool
  deriving DecidableEq

/-- A field with a value for it. -/
inductive Entry where
  | text (field : TextField) (s : String)
  | port (n : UInt16)
  deriving DecidableEq

namespace Draft

/-- Sets a field, in the place of an earlier value. -/
def set (d : Draft) : Entry → Draft
  | .text .host s => { d with host := some s }
  | .text .user s => { d with user := some s }
  | .text .password s => { d with password := some s }
  | .text .schema s => { d with schema := some s }
  | .text .pool s => { d with pool := some s }
  | .port n => { d with port := n }

/-- Fields set one after the other. -/
def ofEntries (entries : List Entry) : Draft := entries.foldl set {}

end Draft

/-- A required text: it must be there and not be empty. -/
def required (what : String) : Option String → Except Error String
  | none => .error (.invalidArgument s!"{what} cannot be null.")
  | some s => if s = "" then .error (.invalidArgument s!"{what} cannot be empty.") else .ok s

/-- The finished credentials, if nothing required is missing. -/
def Draft.build (d : Draft) : Except Error Credentials := do
  let host ← required "Hostname" d.host
  let user ← required "Username" d.user
  let pool ← required "Pool name" d.pool
  return ⟨host, d.port, user, d.password, d.schema, pool⟩

/-- What is wrong with a text that is no number of 16 bits. -/
inductive PortFault where
  | empty | notADigit | tooLarge
  deriving DecidableEq

/-- The wording of a fault. -/
def PortFault.message : PortFault → String
  | empty => "cannot parse integer from empty string"
  | notADigit => "invalid digit found in string"
  | tooLarge => "number too large to fit in target type"

/-- Reads digits on to a number of 16 bits, from left to right up to the first
fault. -/
def readPortDigits (acc : Nat) : List Char → Except PortFault Nat
  | [] => .ok acc
  | c :: rest =>
    if c.isDigit then
      let n := 10 * acc + (c.toNat - '0'.toNat)
      if n < 2 ^ 16 then readPortDigits n rest else .error .tooLarge
    else .error .notADigit

/-- Reads a port, with an optional plus in front. -/
def readPort (cs : List Char) : Except PortFault UInt16 :=
  match cs with
  | [] => .error .empty
  | ['+'] => .error .notADigit
  | '+' :: ds => (readPortDigits 0 ds).map UInt16.ofNat
  | ds => (readPortDigits 0 ds).map UInt16.ofNat

/-- Credentials from environment variables, whose names are the given first
part, an underscore and `HOST`, `PORT`, `USER`, `PASSWORD`, `SCHEMA` or
`POOL`.  The port may have blanks around it. -/
def ofEnvironment (lookup : String → Option String) (first : String) :
    Except Error Credentials := do
  let var (last : String) := lookup s!"{first}_{last}"
  let port ← match var "PORT" with
    | none => pure defaultPort
    | some s =>
      match readPort (Text.trim s.toList) with
      | .ok port => pure port
      | .error fault => throw (.invalidArgument s!"{first}_PORT is not a port: {fault.message}")
  Draft.build
    { host := var "HOST", port, user := var "USER", password := var "PASSWORD",
      schema := var "SCHEMA", pool := var "POOL" }

/-- One setting of a configuration. -/
inductive Setting where
  | null
  | text (s : String)
  | number (n : Nat)
  /-- A setting of a shape that no field has. -/
  | other
  deriving DecidableEq

/-- A configuration: named settings, or settings by position. -/
inductive Config where
  | record (settings : List (String × Setting))
  | list (settings : List Setting)
  /-- A configuration of another shape. -/
  | other

/-- Why a configuration gives no credentials: it has not the right shape, or
its fields do not pass the check. -/
inductive ConfigError where
  | malformed
  | invalid (e : Error)

/-- The names under which a record may hold a field. -/
structure FieldNames where
  host : List String := ["host", "hostname"]
  port : List String := ["port"]
  user : List String := ["user", "username"]
  password : List String := ["password"]
  schema : List String := ["schema"]
  pool : List String := ["pool", "pool_name"]

/-- The only setting under one of some names; none there is null, and two are
too many. -/
def settingOf (settings : List (String × Setting)) (names : List String) :
    Except ConfigError Setting :=
  match settings.filter fun (name, _) => names.contains name with
  | [] => .ok .null
  | [(_, s)] => .ok s
  | _ => .error .malformed

/-- A setting as a text that may be missing. -/
def Setting.text? : Setting → Except ConfigError (Option String)
  | null => .ok none
  | text s => .ok (some s)
  | _ => .error .malformed

/-- A setting as a port that may be missing. -/
def Setting.port? : Setting → Except ConfigError (Option UInt16)
  | null => .ok none
  | number n => if n < 2 ^ 16 then .ok (some (UInt16.ofNat n)) else .error .malformed
  | _ => .error .malformed

/-- Credentials from their six settings. -/
def ofSettings (host port user password schema pool : Setting) : Except ConfigError Credentials := do
  let draft : Draft :=
    { host := ← host.text?, port := (← port.port?).getD defaultPort, user := ← user.text?,
      password := ← password.text?, schema := ← schema.text?, pool := ← pool.text? }
  match draft.build with
  | .ok c => .ok c
  | .error e => .error (.invalid e)

/-- Credentials from a configuration.  A record may leave fields out, use
either name of a field, and hold other settings too; a list holds all six
fields in order. -/
def ofConfig : Config → Except ConfigError Credentials
  | .record settings => do
    let names : FieldNames := {}
    ofSettings (← settingOf settings names.host) (← settingOf settings names.port)
      (← settingOf settings names.user) (← settingOf settings names.password)
      (← settingOf settings names.schema) (← settingOf settings names.pool)
  | .list [host, port, user, password, schema, pool] =>
    ofSettings host port user password schema pool
  | _ => .error .malformed

end Credentials

end SqlAccess
