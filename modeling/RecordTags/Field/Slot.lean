import RecordTags.Field.Interface
import RecordTags.Field.Stored

/-!
Contract: fields whose type is fixed when a record is declared.

Owns:
- `Shape`, the types of such fields: Booleans, integers of four widths, single
  and double floats, text, optional values and sequences;
- `Shape.Carrier`, the values of a shape. An integer carries the proof that it
  is in range, and what is optional or a sequence holds values of its shape;
- `Slot`, a shape with a value of it, and its operations.
-/

namespace RecordTags

/-! ## Shapes -/

/-- The widths of integers, in bits. -/
inductive Width where
  | w8
  | w16
  | w32
  | w64
deriving DecidableEq, Repr

namespace Width

def bits : Width → Nat
  | w8 => 8
  | w16 => 16
  | w32 => 32
  | w64 => 64

/-- Whether a whole number is a signed integer of the width. -/
def Signed (width : Width) (n : Int) : Prop :=
  -(Nat.pow 2 (width.bits - 1) : Int) ≤ n ∧ n < Nat.pow 2 (width.bits - 1)

instance (width : Width) (n : Int) : Decidable (width.Signed n) :=
  inferInstanceAs (Decidable (_ ∧ _))

/-- Whether a natural number is an unsigned integer of the width. -/
def Unsigned (width : Width) (n : Nat) : Prop := n < Nat.pow 2 width.bits

instance (width : Width) (n : Nat) : Decidable (width.Unsigned n) :=
  inferInstanceAs (Decidable (_ < _))

end Width

/-- The type of a declared field. -/
inductive Shape where
  | bool
  | int (width : Width)
  | uint (width : Width)
  | single
  | double
  | text
  | optional (inner : Shape)
  | sequence (element : Shape)
deriving DecidableEq, Repr

namespace Shape

/-- The values of a shape. -/
def Carrier : Shape → Type
  | bool => Bool
  | int width => { n : Int // width.Signed n }
  | uint width => { n : Nat // width.Unsigned n }
  | single => Binary32
  | double => Binary64
  | text => String
  | optional inner => Option inner.Carrier
  | sequence element => List element.Carrier

def zero : (shape : Shape) → shape.Carrier
  | bool => false
  | int width => ⟨0, by cases width <;> decide⟩
  | uint width => ⟨0, by cases width <;> decide⟩
  | single => Binary.zero false
  | double => Binary.zero false
  | text => ""
  | optional _ => none
  | sequence _ => []

def kind : Shape → FieldKind
  | bool => .bool
  | int _ => .int
  | uint _ => .uint
  | single | double => .float
  | text => .string
  | optional _ => .optional
  | sequence _ => .sequence

def layers : Shape → Nat
  | optional inner => inner.layers + 1
  | _ => 0

def stored : (shape : Shape) → shape.Carrier → Stored
  | bool, value => .bool value
  | int _, value => .int value.val
  | uint _, value => .uint value.val
  | single, value => .single value
  | double, value => .double value
  | text, value => .text value
  | optional inner, value => .optional (value.map inner.stored)
  | sequence element, values => .sequence (values.map element.stored)

end Shape

/-! ## Slots -/

/-- A field of a fixed shape. -/
structure Slot where
  shape : Shape
  value : shape.Carrier

namespace Slot

def zero (shape : Shape) : Slot := ⟨shape, shape.zero⟩

def stored (slot : Slot) : Stored := slot.shape.stored slot.value

/-- The value of a slot that has the given shape. -/
def as? (shape : Shape) (slot : Slot) : Option shape.Carrier :=
  if same : slot.shape = shape then some (same ▸ slot.value) else none

@[simp] theorem as?_mk (shape : Shape) (value : shape.Carrier) :
    as? shape ⟨shape, value⟩ = some value := by
  simp [as?]

def setBool : Slot → Bool → Except Refusal Slot
  | ⟨.bool, _⟩, value => .ok ⟨.bool, value⟩
  | _, _ => .error .unsupported

def setInt : Slot → Int64 → Except Refusal Slot
  | ⟨.int width, _⟩, value =>
    if inRange : width.Signed value.toInt then .ok ⟨.int width, ⟨value.toInt, inRange⟩⟩
    else .error .outOfRange
  | _, _ => .error .unsupported

def setUint : Slot → UInt64 → Except Refusal Slot
  | ⟨.uint width, _⟩, value =>
    if inRange : width.Unsigned value.toNat then .ok ⟨.uint width, ⟨value.toNat, inRange⟩⟩
    else .error .outOfRange
  | _, _ => .error .unsupported

/-- The greatest single float, as a double. -/
def greatestSingle : Binary64 := (Binary.greatest : Binary32).convert

/-- Whether a double is finite but greater in magnitude than every single float. -/
def exceedsSingle (value : Binary64) : Bool :=
  value.isFinite && greatestSingle.code < value.code

def setFloat : Slot → Binary64 → Except Refusal Slot
  | ⟨.single, _⟩, value =>
    if exceedsSingle value then .error .outOfRange else .ok ⟨.single, value.convert⟩
  | ⟨.double, _⟩, value => .ok ⟨.double, value⟩
  | _, _ => .error .unsupported

def setText : Slot → String → Except Refusal Slot
  | ⟨.text, _⟩, value => .ok ⟨.text, value⟩
  | _, _ => .error .unsupported

def newElements : Slot → Nat → Except Refusal (List Slot)
  | ⟨.sequence element, _⟩, length => .ok (List.replicate length (.zero element))
  | _, _ => .error .unsupported

def withElements : Slot → List Slot → Slot
  | ⟨.sequence element, _⟩, elements => ⟨.sequence element, elements.filterMap (as? element)⟩
  | slot, _ => slot

def content : Slot → Except Refusal Slot
  | ⟨.optional inner, value⟩ => .ok ⟨inner, value.getD inner.zero⟩
  | _ => .error .unsupported

def withContent : Slot → Slot → Slot
  | ⟨.optional inner, _⟩, content => ⟨.optional inner, content.as? inner⟩
  | slot, _ => slot

end Slot

instance : Field Slot where
  kind slot := slot.shape.kind
  setZero slot := .zero slot.shape
  setBool := Slot.setBool
  setInt := Slot.setInt
  setUint := Slot.setUint
  setFloat := Slot.setFloat
  setText := Slot.setText
  newElements := Slot.newElements
  withElements := Slot.withElements
  content := Slot.content
  withContent := Slot.withContent
  layers slot := slot.shape.layers

end RecordTags
