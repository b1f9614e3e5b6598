import SqlAccess.Statement.Setter

/-!
# Scripts

A script is work with a statement that is given as data: a list of calls, and
of errors raised between them.  Responses are told by one type, whatever call
they belong to.

* `Reply` — the responses;
* `Script.run` — the replies of a script, up to the first failure;
* `Script.runAll` — the result of every step, failures included;
* `Setter.ofScript` — a script that binds parameters, as a setter.
-/

namespace SqlAccess

/-- A response, whatever call it belongs to. -/
inductive Reply where
  | done
  | rows (r : ResultSet)
  | count (n : UInt64)
  | counts (ns : List UInt64)
  | truth (b : Bool)
  | text (s : String)
  deriving DecidableEq

/-- The reply that a response of a plain statement is. -/
def StatementCall.reply : (c : StatementCall) → c.Response → Except SqlError Reply
  | query _, r => r.map .rows
  | update .., r => r.map .count
  | generatedKeys, r => r.map .rows
  | close, r => r.map fun () => .done

/-- The reply that a response about parameters is. -/
def BindingCall.reply : (c : BindingCall) → c.Response → Except SqlError Reply
  | bind .., r => r.map fun () => .done
  | clear, () => .ok .done
  | addBatch, r => r.map fun () => .done
  | supportsBatch, b => .ok (.truth b)
  | sql, s => .ok (.text s)

/-- The reply that a response of a prepared statement is. -/
def PreparedCall.reply : (c : PreparedCall) → c.Response → Except SqlError Reply
  | binding c, r => c.reply r
  | query, r => r.map .rows
  | update, r => r.map .count
  | batch, r => r.map .counts
  | generatedKeys, r => r.map .rows
  | close, r => r.map fun () => .done

/-- A step of a script: a call, or an error raised in its place. -/
abbrev Step (Call : Type) : Type := Except Error Call

namespace Script

variable {Call : Type} {Response : Call → Type}

/-- One step. -/
def step (reply : (c : Call) → Response c → Except SqlError Reply) :
    Step Call → Program Call Response (Except Error Reply)
  | .ok c => .call c fun r => .done ((reply c r).mapError Error.driver)
  | .error e => .done (.error e)

/-- The replies of the steps, up to the first failure. -/
def run (reply : (c : Call) → Response c → Except SqlError Reply) :
    List (Step Call) → Program Call Response (Except Error (List Reply))
  | [] => .done (.ok [])
  | s :: rest =>
    (step reply s).andThen fun r => (run reply rest).andThen fun rs => .done (.ok (r :: rs))

/-- The results of all steps; a failure does not end the script. -/
def runAll (reply : (c : Call) → Response c → Except SqlError Reply) :
    List (Step Call) → Program Call Response (List (Except Error Reply))
  | [] => .done []
  | s :: rest => (step reply s).bind fun r => (runAll reply rest).bind fun rs => .done (r :: rs)

end Script

/-- A setter that makes the calls of a script. -/
def Setter.ofScript (steps : List (Step BindingCall)) : Setter :=
  (Script.run BindingCall.reply steps).andThen fun _ => .done (.ok ())

end SqlAccess
