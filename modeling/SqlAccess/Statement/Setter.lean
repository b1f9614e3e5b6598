import SqlAccess.Statement.Call

/-!
# Setters

A setter binds the parameters of one execution.  Lists of values are bound by
position, with their declared types or without.

* `Setter.typed` and `Setter.untyped` — setters for a list of values;
* `BatchSetter` — setters for the entries of a batch, by their numbers.
-/

namespace SqlAccess

/-- Binds the parameters of one execution. -/
abbrev Setter : Type := BindingProgram (Except Error Unit)

namespace Setter

/-- Binds parameters to the placeholders from `index` on, up to the first
failure, which is told with its index. -/
def bindFrom (index : Nat) : List Parameter → Setter
  | [] => .done (.ok ())
  | p :: rest =>
    .call (.bind index p) fun
      | .ok () => bindFrom (index + 1) rest
      | .error e => .done (.error (.driver (e.atParameter index)))

/-- The error that there are fewer types than values. -/
def missingTypes (values types : Nat) : Error :=
  .invalidArgument s!"{values} parameters but only {types} type tags"

/-- Binds values with their declared types; there must be a type for each. -/
def typed (values : List Value) (types : List SqlType) : Setter :=
  if types.length < values.length then .done (.error (missingTypes values.length types.length))
  else bindFrom 1 (List.zipWith Parameter.ofTyped types values)

/-- Binds values without types. -/
def untyped (values : List Value) : Setter := bindFrom 1 (values.map Parameter.ofUntyped)

end Setter

/-- Setters for the entries of a batch. -/
structure BatchSetter where
  size : Nat
  entry : Nat → Setter

namespace BatchSetter

/-- One row of values per entry, with the declared types in common. -/
def typed (rows : List (List Value)) (types : List SqlType) : BatchSetter where
  size := rows.length
  entry i :=
    match rows[i]? with
    | some row => .typed row types
    | none =>
      .done (.error (.invalidArgument s!"batch entry {i} out of range ({rows.length} entries)"))

/-- The setters of all entries, in order. -/
def entries (b : BatchSetter) : List Setter := (List.range b.size).map b.entry

end BatchSetter

end SqlAccess
