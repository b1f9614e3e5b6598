import SqlAccess.Number.Power
import SqlAccess.Text.Digits
import SqlAccess.Text.Hex
import SqlAccess.Text.Utf8

/-!
# Connection URLs

A pool is described by a URL: the host and the port to connect to, the schema
as its path, and parameters in its query.  A URL is accepted if its host is one
and every parameter is known and has a value of its kind.  User and password
are not taken from it.

* `Url.ofText?` — the parts of a URL;
* `Url.parameters` — the names and values of its query;
* `Url.isAccepted` — whether a pool can be described so;
* `Url.schema` — the schema.
-/

namespace SqlAccess.MySql

/-- The parts of a connection URL that matter. -/
structure Url where
  path : List Char
  query : List Char
  deriving DecidableEq

namespace Url

/-- Whether a character is left out at the ends of a URL. -/
def isMargin (c : Char) : Bool := c.toNat ≤ 0x20

/-- Whether a character is left out everywhere in a URL. -/
def isIgnored (c : Char) : Bool := c == '\t' || c == '\n' || c == '\r'

/-- A URL as it is read, without what is left out. -/
def clean (cs : List Char) : List Char :=
  (((cs.dropWhile isMargin).reverse.dropWhile isMargin).reverse).filter (!isIgnored ·)

/-- Whether a character ends the authority. -/
def endsAuthority (c : Char) : Bool := c == '/' || c == '?' || c == '#'

/-- What comes after the last `@`, or everything. -/
def afterUser (cs : List Char) : List Char := (cs.reverse.takeWhile (· != '@')).reverse

/-- The host, up to a colon outside of brackets, and the rest. -/
def takeHost (inBrackets : Bool) : List Char → List Char × List Char
  | [] => ([], [])
  | c :: rest =>
    if c == ':' && !inBrackets then ([], c :: rest)
    else
      let (host, rest) := takeHost (if c == '[' then true else if c == ']' then false else inBrackets) rest
      (c :: host, rest)

/-- Whether a text is a number up to a bound, without a sign. -/
def isNumberUpTo (bound : Nat) (s : String) : Bool :=
  !s.isEmpty && s.toList.all Char.isDigit && Text.digitsValue s.toList ≤ bound

/-- Whether a text is one of four parts of an address of the older kind. -/
def isOctet (s : String) : Bool := isNumberUpTo 255 s && (s == "0" || !s.startsWith "0")

/-- How many of the eight groups of an address a text between colons is: one
for up to four hexadecimal digits, two for an address of the older kind, which
only the last may be. -/
def groupSize (isLast : Bool) (s : String) : Option Nat :=
  if !s.isEmpty && s.length ≤ 4 && s.toList.all (fun c => (Text.hexValue? c).isSome) then some 1
  else
    let octets := s.splitOn "."
    if isLast && octets.length == 4 && octets.all isOctet then some 2 else none

/-- How many groups a list of texts between colons is. -/
def groupSizes (endsAddress : Bool) : List String → Option Nat
  | [] => some 0
  | [s] => groupSize endsAddress s
  | s :: rest => do return (← groupSize false s) + (← groupSizes endsAddress rest)

/-- The texts between the colons of a half of an address, which may be
empty. -/
def groups (s : String) : List String := if s.isEmpty then [] else s.splitOn ":"

/-- Whether a text is an address of eight groups, where two colons stand for
one or more groups of zeros. -/
def isAddress (s : String) : Bool :=
  match s.splitOn "::" with
  | [whole] => groupSizes true (groups whole) == some 8
  | [left, right] =>
    match groupSizes false (groups left), groupSizes true (groups right) with
    | some m, some n => m + n ≤ 7
    | _, _ => false
  | _ => false

/-- The characters that no host name has. -/
def forbiddenInHost : List Char :=
  ['\x00', '\t', '\n', '\r', ' ', '#', '/', ':', '<', '>', '?', '@', '[', '\\', ']', '^', '|']

/-- Whether a text is a host: a name, or an address in brackets. -/
def isHost (cs : List Char) : Bool :=
  match cs with
  | [] => false
  | '[' :: rest => rest.getLast? == some ']' && isAddress (String.ofList rest.dropLast)
  | cs => cs.all fun c => !forbiddenInHost.contains c

/-- Whether a text after the host is a port or nothing. -/
def isPort : List Char → Bool
  | [] => true
  | ':' :: ds => ds.all Char.isDigit && Text.digitsValue ds < 2 ^ 16
  | _ => false

/-- How the URLs of this kind begin. -/
def scheme : List Char := "mysql://".toList

/-- The parts of a URL, if its authority is in order. -/
def ofText? (s : String) : Option Url :=
  let cs := clean s.toList
  if scheme.isPrefixOf cs then
    let cs := cs.drop scheme.length
    let (host, port) := takeHost false (afterUser (cs.takeWhile (!endsAuthority ·)))
    if isHost host && isPort port then
      let rest := (cs.dropWhile (!endsAuthority ·)).takeWhile (· != '#')
      some ⟨rest.takeWhile (· != '?'), (rest.dropWhile (· != '?')).drop 1⟩
    else none
  else none

/-- Bytes with every percent sign and the two digits after it turned into the
byte they stand for. -/
def percentDecode : List UInt8 → List UInt8
  | [] => []
  | [a] => [a]
  | [a, b] => [a, b]
  | a :: b :: c :: rest =>
    if a.toNat = '%'.toNat then
      match Text.hexValue? (Char.ofNat b.toNat), Text.hexValue? (Char.ofNat c.toNat) with
      | some high, some low => UInt8.ofNat (16 * high + low) :: percentDecode rest
      | _, _ => a :: percentDecode (b :: c :: rest)
    else a :: percentDecode (b :: c :: rest)

/-- A part of a URL as the text it stands for. -/
def decode (cs : List Char) : String :=
  Text.decodeUtf8 (percentDecode (String.ofList cs).toUTF8.data.toList)

/-- A part of a query as the text it stands for; a plus stands for a blank. -/
def decodeQuery (cs : List Char) : String := decode (cs.map fun c => if c == '+' then ' ' else c)

/-- A name with its value, which may be missing. -/
def parameter (s : String) : String × String :=
  let cs := s.toList
  (decodeQuery (cs.takeWhile (· != '=')), decodeQuery ((cs.dropWhile (· != '=')).drop 1))

/-- The names and values of the query, in order. -/
def parameters (u : Url) : List (String × String) :=
  (((String.ofList u.query).splitOn "&").filter (!·.isEmpty)).map parameter

/-- The kinds of parameters. -/
inductive ParameterKind where
  /-- A whole number of so many bits. -/
  | number (bits : Nat)
  | truth
  | compression
  | text

/-- The kind of a parameter, if there is one of the name. -/
def kindOf? : String → Option ParameterKind
  | "pool_min" | "pool_max" | "inactive_connection_ttl" | "ttl_check_interval" | "conn_ttl"
  | "abs_conn_ttl" | "abs_conn_ttl_jitter" | "max_allowed_packet" | "wait_timeout"
  | "stmt_cache_size" => some (.number 64)
  | "tcp_keepalive" => some (.number 32)
  | "tcp_nodelay" | "prefer_socket" | "secure_auth" | "enable_cleartext_plugin"
  | "reset_connection" | "client_found_rows" | "require_ssl" | "verify_ca"
  | "verify_identity" => some .truth
  | "compression" => some .compression
  | "socket" => some .text
  | _ => none

/-- Reads a whole number of so many bits, with an optional plus in front. -/
def readNumber? (bits : Nat) (s : String) : Option Nat :=
  let ds := match s.toList with
    | '+' :: ds => ds
    | ds => ds
  let n := Text.digitsValue ds
  if ds ≠ [] ∧ ds.all Char.isDigit ∧ n < 2 ^ bits then some n else none

/-- Whether a value is one of a kind. -/
def ParameterKind.admits (value : String) : ParameterKind → Bool
  | number bits => (readNumber? bits value).isSome
  | truth => value == "true" || value == "false"
  | compression =>
    ["fast", "on", "true", "best"].contains value ||
      (value.length == 1 && value.toList.all Char.isDigit)
  | text => true

/-- The last value of a number among parameters, or the usual one. -/
def numberOr (usual : Nat) (name : String) (ps : List (String × String)) : Nat :=
  ((ps.filter (·.1 == name)).getLast?.bind fun p => readNumber? 64 p.2).getD usual

/-- Whether every parameter is known and has a value of its kind, and the
least size of the pool is not above the greatest. -/
def isAccepted (u : Url) : Bool :=
  u.parameters.all (fun (name, value) => (kindOf? name).any (·.admits value)) &&
    numberOr 10 "pool_min" u.parameters ≤ numberOr 100 "pool_max" u.parameters

/-- Whether a step of a path stays where it is. -/
def staysHere (step : String) : Bool := decode step.toList == "."

/-- Whether a step of a path goes back. -/
def goesBack (step : String) : Bool := decode step.toList == ".."

/-- The steps of a path without those that stay or go back; `taken` are the
steps so far, the latest first.  A path that ends with such a step ends with an
empty one. -/
def walk (taken : List String) : List String → List String
  | [] => taken.reverse
  | step :: rest =>
    let taken :=
      if goesBack step then taken.drop 1 else if staysHere step then taken else step :: taken
    if rest.isEmpty && (goesBack step || staysHere step) then ("" :: taken).reverse
    else walk taken rest

/-- The schema: the first step of the path, if it is not empty. -/
def schema (u : Url) : Option String :=
  let name := ((walk [] ((String.ofList (u.path.drop 1)).splitOn "/")).head?.getD "")
  if name.isEmpty then none else some (decode name.toList)

end Url

end SqlAccess.MySql
