import SqlAccess.Error
import SqlAccess.Value.Coerce

/-!
# Converters

A converter changes a column's value before it is written to a property.
Converters are known by their type; a registry holds at most one instance of
each, the one that was registered last, or else the one that was created when
the type was first asked for.

* `Registry.register` — puts an instance in place;
* `Registry.getOrCreate` — the instance of a type;
* `Converter.stringToUuid` — the converter for columns that hold identifiers.
-/

namespace SqlAccess

/-- Changes a value, or refuses it with a reason. -/
abbrev Converter : Type := Value → Except String Value

/-- A type of converters: its full name, which tells it from every other, and
the instance that is created when none was registered. -/
structure ConverterType where
  name : String
  initial : Converter

/-- The instances in use, by the names of their types. -/
structure Registry where
  entries : List (String × Converter)

namespace Registry

/-- A registry without instances. -/
def empty : Registry := ⟨[]⟩

/-- The instance of a type, if there is one. -/
def find? (r : Registry) (name : String) : Option Converter := r.entries.lookup name

/-- Whether there is an instance of a type. -/
def contains (r : Registry) (t : ConverterType) : Bool := (r.find? t.name).isSome

/-- The number of instances. -/
def size (r : Registry) : Nat := r.entries.length

/-- Puts an instance in the place of an earlier one of its type, or behind the
others. -/
def insert (r : Registry) (name : String) (c : Converter) : Registry :=
  if (r.find? name).isSome then
    ⟨r.entries.map fun (n, old) => if n == name then (n, c) else (n, old)⟩
  else ⟨r.entries ++ [(name, c)]⟩

/-- Registers an instance of a type. -/
def register (r : Registry) (t : ConverterType) (c : Converter) : Registry := r.insert t.name c

/-- The instance of a type, which is created if there is none. -/
def getOrCreate (r : Registry) (t : ConverterType) : Converter × Registry :=
  match r.find? t.name with
  | some c => (c, r)
  | none => (t.initial, r.insert t.name t.initial)

/-- A registry in a report: the number of its instances. -/
def describe (r : Registry) : String :=
  Text.fields "ConverterRegistry" [("converters", toString r.size)]

end Registry

namespace Converter

/-- Reads identifiers from texts and bytes.  NULL passes through. -/
def stringToUuid : Converter
  | .null => .ok .null
  | .uuid u => .ok (.uuid u)
  | .string s =>
    match Uuid.ofText? (Text.trim s.toList) with
    | some u => .ok (.uuid u)
    | none => .error "malformed UUID"
  | .bytes b =>
    match Uuid.ofBytes? b.data.toList with
    | some u => .ok (.uuid u)
    | none => .error "a UUID has 16 bytes"
  | v => .error s!"cannot convert {v.typeName} to a UUID"

end Converter

/-- The type of `Converter.stringToUuid`. -/
def ConverterType.stringToUuid : ConverterType :=
  ⟨"rowforge::mapping::converter::StringToUuid", Converter.stringToUuid⟩

end SqlAccess
