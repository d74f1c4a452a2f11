import RecordTags.Binary
import RecordTags.Field.Kind

/-!
Contract: what every field can be asked to do.

Owns: `Field`, the operations through which values are written. Binding knows
fields only through them. A field that has no use for an operation refuses it
and stays as it was.

An optional field and a sequence give access to what they hold in two steps:
the content is taken out, changed, and put back.
-/

namespace RecordTags

/-- The operations of a field of type `F`. -/
class Field (F : Type) where
  /-- The storage class. -/
  kind : F → FieldKind
  /-- The zero value: false, zero, empty or absent. -/
  setZero : F → F
  setBool : F → Bool → Except Refusal F
  setInt : F → Int64 → Except Refusal F
  setUint : F → UInt64 → Except Refusal F
  setFloat : F → Binary64 → Except Refusal F
  setText : F → String → Except Refusal F
  /-- The elements of a sequence that is given a new length: all zero. -/
  newElements : F → Nat → Except Refusal (List F)
  /-- The sequence with new elements. -/
  withElements : F → List F → F
  /-- What an optional field holds, or a zero value if it is absent. -/
  content : F → Except Refusal F
  /-- The optional field with new content. -/
  withContent : F → F → F
  /-- How many optional layers there are before a field that is not optional. -/
  layers : F → Nat

end RecordTags
