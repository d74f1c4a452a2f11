import RecordTags.Field.Interface
import RecordTags.Tree

/-!
Contract: writing the value of an argument into a field.

Nil makes the field zero. Any other value goes through all optional layers,
which become present, to the field inside. There a Boolean or a switch is
stored as a Boolean, a name or a string as text, a number as the reading that
the field's storage class asks for, and a slice element by element into a
sequence of its length.

A field that refuses a value ends the assignment. What has been written up to
there stays: optional layers are present and earlier elements are stored.
-/

namespace RecordTags

/-- A value that a field refused, with the storage class of that field. -/
structure Mismatch where
  value : Value
  kind : FieldKind
  refusal : Refusal

/-- A field after an attempt to write it, and what went wrong. -/
structure Written (F : Type) where
  field : F
  mismatch : Option Mismatch

section

variable {F : Type} [Field F]

/-- The outcome of one operation on a field for a value. -/
def Written.ofResult (value : Value) (field : F) (result : Except Refusal F) : Written F :=
  match result with
  | .ok field => { field, mismatch := none }
  | .error refusal => { field, mismatch := some { value, kind := Field.kind field, refusal } }

/-- Writes inside the given number of optional layers. -/
def writeInside (value : Value) (write : F → Written F) : (layers : Nat) → F → Written F
  | 0, field => write field
  | layers + 1, field =>
    match Field.content field with
    | .error refusal => .ofResult value field (.error refusal)
    | .ok content =>
      let written := writeInside value write layers content
      { written with field := Field.withContent field written.field }

/-- Stores the reading of a number that the storage class asks for. -/
def storeNumber (field : F) (readings : Readings) : Except Refusal F :=
  match Field.kind field with
  | .int =>
    match readings.int with
    | some int => Field.setInt field int
    | none => .error .unsupported
  | .uint =>
    match readings.uint with
    | some uint => Field.setUint field uint
    | none => .error .unsupported
  | .float =>
    match readings.float with
    | some float => Field.setFloat field float
    | none => .error .unsupported
  | _ => .error .unsupported

mutual

def assign (value : Value) (field : F) : Written F :=
  match value with
  | .nil _ => { field := Field.setZero field, mismatch := none }
  | .bool flag span =>
    writeInside (.bool flag span)
      (fun field => .ofResult (.bool flag span) field (Field.setBool field flag))
      (Field.layers field) field
  | .switch name enabled span =>
    writeInside (.switch name enabled span)
      (fun field => .ofResult (.switch name enabled span) field (Field.setBool field enabled))
      (Field.layers field) field
  | .identifier identifier =>
    writeInside (.identifier identifier)
      (fun field =>
        .ofResult (.identifier identifier) field (Field.setText field identifier.name))
      (Field.layers field) field
  | .string literal =>
    writeInside (.string literal)
      (fun field => .ofResult (.string literal) field (Field.setText field literal.text))
      (Field.layers field) field
  | .number literal =>
    writeInside (.number literal)
      (fun field => .ofResult (.number literal) field (storeNumber field literal.toReadings))
      (Field.layers field) field
  | .slice values span =>
    writeInside (.slice values span)
      (fun field =>
        match Field.newElements field values.length with
        | .error refusal => .ofResult (.slice values span) field (.error refusal)
        | .ok elements =>
          let (elements, mismatch) := assignEach values elements
          { field := Field.withElements field elements, mismatch })
      (Field.layers field) field

/-- Writes values into fields one by one, up to the first that is refused. -/
def assignEach (values : List Value) (fields : List F) : List F × Option Mismatch :=
  match values, fields with
  | value :: values, field :: fields =>
    let written := assign value field
    match written.mismatch with
    | some mismatch => (written.field :: fields, some mismatch)
    | none =>
      let (fields, mismatch) := assignEach values fields
      (written.field :: fields, mismatch)
  | _, fields => (fields, none)

end

end

end RecordTags
