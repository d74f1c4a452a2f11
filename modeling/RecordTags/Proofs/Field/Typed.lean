import Mathlib.Tactic.SplitIfs
import RecordTags.Field.Assign
import RecordTags.Field.Cell
import RecordTags.Field.Slot

/-!
Contract: fields keep their types.

Owns:
- `TypedField`, a field with a declared type that no operation changes. Only an
  optional type has optional layers, and only a sequence type has elements;
- that cells and slots are such fields;
- what an assignment does to such a field as a whole: its type stays, and a
  field that is neither optional nor a sequence stays as it was when it refuses.

Does not own: the value that an assignment stores.
-/

namespace RecordTags

/-- A field with a declared type, which its operations keep. -/
class TypedField (F : Type) extends Field F where
  Declared : Type
  typeOf : F → Declared
  typeOf_setZero (field : F) : typeOf (setZero field) = typeOf field
  typeOf_setBool {field next : F} {flag : Bool} :
    setBool field flag = .ok next → typeOf next = typeOf field
  typeOf_setInt {field next : F} {int : Int64} :
    setInt field int = .ok next → typeOf next = typeOf field
  typeOf_setUint {field next : F} {uint : UInt64} :
    setUint field uint = .ok next → typeOf next = typeOf field
  typeOf_setFloat {field next : F} {float : Binary64} :
    setFloat field float = .ok next → typeOf next = typeOf field
  typeOf_setText {field next : F} {text : String} :
    setText field text = .ok next → typeOf next = typeOf field
  typeOf_withElements (field : F) (elements : List F) :
    typeOf (withElements field elements) = typeOf field
  typeOf_withContent (field content : F) : typeOf (withContent field content) = typeOf field
  layers_eq_zero {field : F} : kind field ≠ .optional → layers field = 0
  newElements_eq_error {field : F} (length : Nat) :
    kind field ≠ .sequence → ∃ refusal, newElements field length = .error refusal

/-! ## Cells and slots -/

theorem FieldType.layers_eq_zero {type : FieldType} (notOptional : type.kind ≠ .optional) :
    type.layers = 0 := by
  cases type with
  | optional => exact absurd rfl notOptional
  | _ => rfl

theorem Cell.newElements_eq_error {cell : Cell} (length : Nat)
    (notSequence : cell.type.kind ≠ .sequence) :
    ∃ refusal, cell.newElements length = .error refusal := by
  obtain ⟨type, content⟩ := cell
  cases type with
  | sequence => exact absurd rfl notSequence
  | _ => exact ⟨_, rfl⟩

instance : TypedField Cell where
  Declared := FieldType
  typeOf := Cell.type
  typeOf_setZero _ := rfl
  typeOf_setBool := by
    rintro ⟨type, content⟩ next flag stored
    cases content <;> cases stored
    rfl
  typeOf_setInt := by
    rintro ⟨type, content⟩ next int stored
    cases content <;> cases stored
    rfl
  typeOf_setUint := by
    rintro ⟨type, content⟩ next uint stored
    cases content <;> cases stored
    rfl
  typeOf_setFloat := by
    rintro ⟨type, content⟩ next float stored
    cases content <;> cases stored
    rfl
  typeOf_setText := by
    rintro ⟨type, content⟩ next text stored
    cases content <;> cases stored
    rfl
  typeOf_withElements _ _ := rfl
  typeOf_withContent _ _ := rfl
  layers_eq_zero := FieldType.layers_eq_zero
  newElements_eq_error := Cell.newElements_eq_error

theorem Shape.layers_eq_zero {shape : Shape} (notOptional : shape.kind ≠ .optional) :
    shape.layers = 0 := by
  cases shape with
  | optional => exact absurd rfl notOptional
  | _ => rfl

theorem Slot.newElements_eq_error {slot : Slot} (length : Nat)
    (notSequence : slot.shape.kind ≠ .sequence) :
    ∃ refusal, slot.newElements length = .error refusal := by
  obtain ⟨shape, value⟩ := slot
  cases shape with
  | sequence => exact absurd rfl notSequence
  | _ => exact ⟨_, rfl⟩

instance : TypedField Slot where
  Declared := Shape
  typeOf := Slot.shape
  typeOf_setZero _ := rfl
  typeOf_setBool := by
    rintro ⟨shape, value⟩ next flag stored
    cases shape <;> cases stored
    rfl
  typeOf_setInt := by
    rintro ⟨shape, value⟩ next int stored
    cases shape with
    | int width =>
        simp only [Field.setInt, Slot.setInt] at stored
        split_ifs at stored
        cases stored
        rfl
    | _ => contradiction
  typeOf_setUint := by
    rintro ⟨shape, value⟩ next uint stored
    cases shape with
    | uint width =>
        simp only [Field.setUint, Slot.setUint] at stored
        split_ifs at stored
        cases stored
        rfl
    | _ => contradiction
  typeOf_setFloat := by
    rintro ⟨shape, value⟩ next float stored
    cases shape with
    | single =>
        simp only [Field.setFloat, Slot.setFloat] at stored
        split_ifs at stored
        cases stored
        rfl
    | double =>
        cases stored
        rfl
    | _ => contradiction
  typeOf_setText := by
    rintro ⟨shape, value⟩ next text stored
    cases shape <;> cases stored
    rfl
  typeOf_withElements := by
    rintro ⟨shape, value⟩ elements
    cases shape <;> rfl
  typeOf_withContent := by
    rintro ⟨shape, value⟩ content
    cases shape <;> rfl
  layers_eq_zero := Shape.layers_eq_zero
  newElements_eq_error := Slot.newElements_eq_error

/-! ## Assignment -/

open TypedField

section

variable {F : Type} [TypedField F]

theorem typeOf_ofResult {value : Value} {field : F} {result : Except Refusal F}
    (keeps : ∀ next, result = .ok next → typeOf next = typeOf field) :
    typeOf (Written.ofResult value field result).field = typeOf field := by
  cases result with
  | error refusal => rfl
  | ok next => exact keeps next rfl

theorem typeOf_writeInside (value : Value) {write : F → Written F}
    (keeps : ∀ field, typeOf (write field).field = typeOf field) (layers : Nat) (field : F) :
    typeOf (writeInside value write layers field).field = typeOf field := by
  cases layers with
  | zero => exact keeps field
  | succ layers =>
      rw [writeInside]
      split
      next => rfl
      next => exact typeOf_withContent _ _

/-- Storing a number keeps the type. -/
theorem typeOf_storeNumber {field next : F} {readings : Readings}
    (stored : storeNumber field readings = .ok next) : typeOf next = typeOf field := by
  unfold storeNumber at stored
  split at stored
  next =>
    split at stored
    next => exact typeOf_setInt stored
    next => contradiction
  next =>
    split at stored
    next => exact typeOf_setUint stored
    next => contradiction
  next =>
    split at stored
    next => exact typeOf_setFloat stored
    next => contradiction
  next => contradiction

/-- An assignment keeps the type of the field. -/
theorem typeOf_assign (value : Value) (field : F) :
    typeOf (assign value field).field = typeOf field := by
  cases value with
  | nil =>
      rw [assign]
      exact typeOf_setZero field
  | bool | switch =>
      rw [assign]
      exact typeOf_writeInside _ (fun field => typeOf_ofResult fun _ => typeOf_setBool) _ field
  | identifier | string =>
      rw [assign]
      exact typeOf_writeInside _ (fun field => typeOf_ofResult fun _ => typeOf_setText) _ field
  | number =>
      rw [assign]
      exact typeOf_writeInside _ (fun field => typeOf_ofResult fun _ => typeOf_storeNumber) _ field
  | slice values span =>
      rw [assign]
      refine typeOf_writeInside _ (fun field => ?_) _ field
      split
      next => rfl
      next => exact typeOf_withElements _ _

theorem field_ofResult_of_mismatch {value : Value} {field : F} {result : Except Refusal F}
    (refused : (Written.ofResult value field result).mismatch ≠ none) :
    (Written.ofResult value field result).field = field := by
  cases result with
  | error refusal => rfl
  | ok next => exact absurd rfl refused

/-- A field that is neither optional nor a sequence stays as it was when it refuses. -/
theorem assign_of_mismatch {value : Value} {field : F}
    (notOptional : Field.kind field ≠ .optional) (notSequence : Field.kind field ≠ .sequence)
    (refused : (assign value field).mismatch ≠ none) : (assign value field).field = field := by
  have noLayers : Field.layers field = 0 := layers_eq_zero notOptional
  cases value with
  | nil => exact absurd (by rw [assign]) refused
  | bool | switch | identifier | string | number =>
      rw [assign, noLayers] at refused ⊢
      exact field_ofResult_of_mismatch refused
  | slice values span =>
      obtain ⟨refusal, noElements⟩ := newElements_eq_error values.length notSequence
      rw [assign, noLayers, writeInside, noElements]
      rfl

end

end RecordTags
