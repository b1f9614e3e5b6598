import SqlAccess.Bean.Property
import SqlAccess.Result.Extractor

/-!
# Mapping rows onto objects

A bean mapper writes each row into a fresh object, column by column from left
to right.  A column that matches no property is ignored, and so is a property
without a column.  The match of labels to properties is kept for the rows that
follow, as long as their labels are the same; when it is worked out anew and
some column matches nothing, that is told.

* `Bindings` — columns matched to properties;
* `BeanMapper.writeColumn` — fetches one column and writes it;
* `BeanMapper.writeAll` — writes the columns of a row up to the first failure;
* `BeanMapper.mapRow` and `mapRows` — map one row or several, keeping the match;
* `BeanMapper.rowMapper` — the same as a mapper that keeps nothing.
-/

namespace SqlAccess

variable {β : Type}

/-- The columns of one shape of result, matched to properties. -/
structure Bindings (β : Type) where
  labels : List String
  targets : List (Option (Property β))

namespace Bindings

/-- Matches columns to properties by their labels. -/
def resolve (properties : List (Property β)) (labels : List String) : Bindings β :=
  ⟨labels, labels.map (SqlAccess.resolve? properties)⟩

/-- The labels that match no property. -/
def unmatched (b : Bindings β) : List String :=
  (b.labels.zip b.targets).filterMap fun (label, target) =>
    if target.isNone then some label else none

end Bindings

/-- How rows are mapped onto objects. -/
structure BeanMapper (β : Type) where
  /-- The full name of the objects' type. -/
  typeName : String
  properties : List (Property β)
  /-- A fresh object, or the reason why there is none. -/
  instantiate : Except String β
  /-- Whether NULL leaves a primitive property at its zero instead of failing. -/
  defaultsNull : Bool := true

/-- What a mapper keeps from row to row. -/
structure BeanMapper.Memory (β : Type) where
  registry : Registry
  bindings : Option (Bindings β) := none

/-- An object with the columns that were written into it, and the failure that
ended the writing, if one did. -/
structure Writing (β : Type) where
  bean : β
  registry : Registry
  failure : Option Error := none

/-- The finished object, or the failure. -/
def Writing.result (w : Writing β) : Except Error β :=
  match w.failure with
  | none => .ok w.bean
  | some e => .error e

namespace BeanMapper

/-- What a mapper tells about columns that match no property. -/
def unmatchedMessage : String := "Columns without a matching property are ignored"

/-- Puts a primitive property's zero in the place of NULL. -/
def replaceNull (m : BeanMapper β) (p : Property β) (label : String) (v : Value) :
    Except Error Value :=
  match v, p.field.zero? with
  | .null, some zero =>
    if m.defaultsNull then .ok zero
    else .error (.typeMismatch
      s!"cannot write NULL column '{label}' into primitive property '{p.name}' of type {p.field.typeName}")
  | v, _ => .ok v

/-- Passes a value through a property's converter, if it has one. -/
def convert (p : Property β) (registry : Registry) (v : Value) : Except Error Value × Registry :=
  match p.converter with
  | none => (.ok v, registry)
  | some t =>
    let (c, registry) := registry.getOrCreate t
    match c v with
    | .ok w => (.ok w, registry)
    | .error reason => (.error (.conversion t.name reason), registry)

/-- Fetches the column at an index and writes it to a property. -/
def writeColumn (m : BeanMapper β) (row : Row) (index : Nat) (label : String) (p : Property β)
    (registry : Registry) (bean : β) : Except Error β × Registry :=
  match row.getAs index p.fetchKind >>= m.replaceNull p label with
  | .error e => (.error e, registry)
  | .ok v =>
    let (converted, registry) := convert p registry v
    (converted >>= p.assign bean, registry)

/-- Writes the columns from an index on, up to the first failure. -/
def writeAll (m : BeanMapper β) (row : Row) :
    (index : Nat) → List (String × Option (Property β)) → Registry → β → Writing β
  | _, [], registry, bean => ⟨bean, registry, none⟩
  | index, (_, none) :: rest, registry, bean => m.writeAll row (index + 1) rest registry bean
  | index, (label, some p) :: rest, registry, bean =>
    match m.writeColumn row index label p registry bean with
    | (.ok bean, registry) => m.writeAll row (index + 1) rest registry bean
    | (.error e, registry) => ⟨bean, registry, some e⟩

/-- The bindings for a list of labels: the ones kept, if they fit, or new
ones.  For new ones the labels that match nothing are given too. -/
def bindingsFor (m : BeanMapper β) (kept : Option (Bindings β)) (labels : List String) :
    Bindings β × List String :=
  let fresh := Bindings.resolve m.properties labels
  match kept with
  | some b => if b.labels = labels then (b, []) else (fresh, fresh.unmatched)
  | none => (fresh, fresh.unmatched)

/-- Maps one row.  The labels that match no property are given when the
bindings were worked out for this row. -/
def mapRow (m : BeanMapper β) (memory : Memory β) (row : Row) :
    Except Error β × Memory β × List String :=
  match m.instantiate with
  | .error reason => (.error (.instantiation m.typeName reason), memory, [])
  | .ok bean =>
    let labels := row.columns.map Column.effectiveLabel
    let (bindings, unmatched) := m.bindingsFor memory.bindings labels
    let w := m.writeAll row 1 (bindings.labels.zip bindings.targets) memory.registry bean
    (w.result, ⟨w.registry, some bindings⟩, unmatched)

/-- Maps rows in order, keeping the match from each to the next.  The lists of
labels that match no property are given as often as they were worked out. -/
def mapRows (m : BeanMapper β) :
    Memory β → List Row → (List (Except Error β) × List (List String)) × Memory β
  | memory, [] => (([], []), memory)
  | memory, row :: rest =>
    let (result, memory, unmatched) := m.mapRow memory row
    let ((results, told), memory) := m.mapRows memory rest
    ((result :: results, if unmatched.isEmpty then told else unmatched :: told), memory)

/-- What is told of labels that match no property, by named texts. -/
def unmatchedFields (labels : List String) : List (String × String) :=
  [("message", unmatchedMessage), ("columns", Text.bracketed (labels.map Text.quoted))]

/-- The mapper that works every row out anew with the given registry. -/
def rowMapper (m : BeanMapper β) (registry : Registry) : RowMapper β := fun row _ =>
  (m.mapRow ⟨registry, none⟩ row).1

/-- The property of a name, skipped ones included. -/
def property? (m : BeanMapper β) (name : String) : Option (Property β) :=
  m.properties.find? (·.name == name)

/-- A mapper in a report. -/
def describe (m : BeanMapper β) : String :=
  Text.fields "BeanRowMapper"
    [("bean", Text.quoted m.typeName),
      ("properties", Text.bracketed (m.properties.map Property.describe)),
      ("default_null_for_primitives", toString m.defaultsNull)]

end BeanMapper

end SqlAccess
