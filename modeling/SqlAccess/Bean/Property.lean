import SqlAccess.Bean.Converter
import SqlAccess.Field
import SqlAccess.Text.Fold

/-!
# Properties

The writable parts of an object.  Columns are matched to properties by label,
ignoring case; a property is skipped if it is marked so.

* `Property.effectiveName` — the label a property is matched against;
* `Property.assign` — writing a value;
* `resolve?` — the property a column is written to.
-/

namespace SqlAccess

/-- One writable part of an object of type `β`.  Writing may be refused, with
a reason. -/
structure Property (β : Type) where
  name : String
  field : FieldType
  write : β → field.Carrier → Except String β
  /-- The column to match instead of the property's own name. -/
  column : Option String := none
  /-- Changes the raw column value before it is written. -/
  converter : Option ConverterType := none
  isSkipped : Bool := false

namespace Property

variable {β : Type}

/-- The column label a property is matched against. -/
def effectiveName (p : Property β) : String := p.column.getD p.name

/-- Whether NULL has a value to stand for it. -/
def isPrimitive (p : Property β) : Bool := p.field.isPrimitive

/-- The kind in which the column is fetched: the field's, or whatever the
driver gave if a converter comes next. -/
def fetchKind (p : Property β) : Kind := if p.converter.isSome then .any else p.field.kind

/-- Whether a column label names this property. -/
def isNamed (p : Property β) (label : String) : Bool :=
  !p.isSkipped && Text.sameIgnoringCase p.effectiveName label

/-- Writes a value that fits the field. -/
def assign (p : Property β) (bean : β) (v : Value) : Except Error β := do
  let x ← p.field.ofValue v
  match p.write bean x with
  | .ok bean => .ok bean
  | .error reason => .error (.internal s!"setter for '{p.name}' failed: {reason}")

/-- A property in a report. -/
def describe (p : Property β) : String :=
  Text.fields "Property"
    [("name", Text.quoted p.name),
      ("column", Text.optionally (p.column.map Text.quoted)),
      ("kind", p.field.kind.name),
      ("field_type", Text.quoted p.field.typeName),
      ("converter", Text.optionally (p.converter.map (·.name))),
      ("skipped", toString p.isSkipped)]

end Property

/-- The property a column is written to: the first that the label names. -/
def resolve? {β : Type} (properties : List (Property β)) (label : String) : Option (Property β) :=
  properties.find? (·.isNamed label)

end SqlAccess
