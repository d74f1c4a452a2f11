import RecordTags.Proofs.Field.Typed

/-!
Contract: the three forms of an assignment.

An assignment resets the field (nil), offers it one scalar inside its optional
layers (Booleans, switches, names, strings and numbers), or rebuilds a sequence
inside them (slices).

Owns:
- `Scalar` and `Field.store`, the five setters as one operation, and what each
  value offers to a storage class;
- the equations of `assign` in these terms, and the induction over values that
  goes with them;
- that assignments to the elements of a sequence keep the types of the elements.
-/

namespace RecordTags

/-! ## Scalars -/

/-- A value that a field stores as a whole. -/
inductive Scalar where
  | bool (value : Bool)
  | int (value : Int64)
  | uint (value : UInt64)
  | float (value : Binary64)
  | text (value : String)

/-- What a value offers to a field of a storage class. -/
def Value.scalar? (kind : FieldKind) : Value → Option Scalar
  | .bool flag _ => some (.bool flag)
  | .switch _ enabled _ => some (.bool enabled)
  | .identifier word => some (.text word.name)
  | .string literal => some (.text literal.text)
  | .number literal =>
    match kind with
    | .int => literal.int.map .int
    | .uint => literal.uint.map .uint
    | .float => literal.float.map .float
    | _ => none
  | .nil _ | .slice _ _ => none

/-- Neither nil nor a slice. -/
def Value.IsScalar : Value → Prop
  | .nil _ | .slice _ _ => False
  | _ => True

/-- Values are nil, scalars, or slices of values. -/
theorem Value.induct {motive : Value → Prop} (nil : ∀ span, motive (.nil span))
    (scalar : ∀ value : Value, value.IsScalar → motive value)
    (slice : ∀ values span, (∀ value ∈ values, motive value) → motive (.slice values span))
    (value : Value) : motive value := by
  match value with
  | .nil span => exact nil span
  | .slice values span =>
      apply slice
      intro value member
      have smaller := List.sizeOf_lt_of_mem member
      exact Value.induct nil scalar slice value
  | .bool _ _ | .number _ | .string _ | .identifier _ | .switch _ _ _ => exact scalar _ trivial
termination_by sizeOf value
decreasing_by
  simp only [Value.slice.sizeOf_spec]
  omega

section

variable {F : Type} [Field F]

def Field.store (field : F) : Scalar → Except Refusal F
  | .bool value => Field.setBool field value
  | .int value => Field.setInt field value
  | .uint value => Field.setUint field value
  | .float value => Field.setFloat field value
  | .text value => Field.setText field value

/-- Stores what a value offers; a field has no use for a value that offers nothing. -/
def Field.offer (field : F) (value : Value) : Except Refusal F :=
  match value.scalar? (Field.kind field) with
  | some scalar => Field.store field scalar
  | none => .error .unsupported

/-- Rebuilds a sequence from the values of a slice. -/
def writeElements (values : List Value) (span : Span) (field : F) : Written F :=
  match Field.newElements field values.length with
  | .error refusal => .ofResult (.slice values span) field (.error refusal)
  | .ok elements =>
    { field := Field.withElements field (assignEach values elements).1
      mismatch := (assignEach values elements).2 }

/-! ## The equations of assignment -/

theorem assign_nil (span : Span) (field : F) :
    assign (.nil span) field = { field := Field.setZero field, mismatch := none } := by
  rw [assign]

/-- Storing the reading of a number is offering the number. -/
theorem storeNumber_eq_offer (literal : NumberLiteral) (field : F) :
    storeNumber field literal.toReadings = Field.offer field (.number literal) := by
  unfold storeNumber Field.offer
  cases kind : Field.kind field with
  | int =>
      simp only [Value.scalar?]
      cases literal.int <;> rfl
  | uint =>
      simp only [Value.scalar?]
      cases literal.uint <;> rfl
  | float =>
      simp only [Value.scalar?]
      cases literal.float <;> rfl
  | bool | string | optional | sequence => rfl

/-- A scalar is offered to what is inside all optional layers. -/
theorem assign_of_isScalar {value : Value} (scalar : value.IsScalar) (field : F) :
    assign value field =
      writeInside value (fun field => .ofResult value field (Field.offer field value))
        (Field.layers field) field := by
  cases value with
  | nil | slice => exact scalar.elim
  | bool | switch | identifier | string =>
      rw [assign]
      rfl
  | number literal =>
      rw [assign]
      simp only [storeNumber_eq_offer]

theorem assign_slice (values : List Value) (span : Span) (field : F) :
    assign (.slice values span) field =
      writeInside (.slice values span) (writeElements values span) (Field.layers field) field := by
  rw [assign]
  rfl

theorem assignEach_nil (fields : List F) : assignEach [] fields = (fields, none) := by
  rw [assignEach]
  simp

theorem assignEach_fields_nil (values : List Value) :
    assignEach values ([] : List F) = ([], none) := by
  rw [assignEach]
  simp

theorem assignEach_cons (value : Value) (values : List Value) (field : F) (fields : List F) :
    assignEach (value :: values) (field :: fields) =
      match (assign value field).mismatch with
      | some mismatch => ((assign value field).field :: fields, some mismatch)
      | none =>
        ((assign value field).field :: (assignEach values fields).1,
          (assignEach values fields).2) := by
  refine (assignEach.eq_1 value values field fields).trans ?_
  rfl

end

/-! ## Types -/

open TypedField

section

variable {F : Type} [TypedField F]

theorem typeOf_store {field next : F} {scalar : Scalar}
    (stored : Field.store field scalar = .ok next) : typeOf next = typeOf field := by
  cases scalar with
  | bool => exact typeOf_setBool stored
  | int => exact typeOf_setInt stored
  | uint => exact typeOf_setUint stored
  | float => exact typeOf_setFloat stored
  | text => exact typeOf_setText stored

theorem typeOf_offer {field next : F} {value : Value}
    (stored : Field.offer field value = .ok next) : typeOf next = typeOf field := by
  unfold Field.offer at stored
  split at stored
  next => exact typeOf_store stored
  next => contradiction

theorem typeOf_writeElements (values : List Value) (span : Span) (field : F) :
    typeOf (writeElements values span field).field = typeOf field := by
  unfold writeElements
  split
  next => rfl
  next => exact typeOf_withElements _ _

/-- Writing values into fields one by one keeps the types. -/
theorem map_typeOf_assignEach (values : List Value) (fields : List F) :
    (assignEach values fields).1.map typeOf = fields.map typeOf := by
  induction values generalizing fields with
  | nil => rw [assignEach_nil]
  | cons value values inductionHypothesis =>
      cases fields with
      | nil => rw [assignEach_fields_nil]
      | cons field fields =>
          rw [assignEach_cons]
          split
          next => simp [typeOf_assign]
          next => simp [typeOf_assign, inductionHypothesis]

/-- What holds of all types of a list holds of a list with the same types. -/
theorem forall_typeOf_of_map {fields others : List F} {declared : Declared F}
    (same : others.map typeOf = fields.map typeOf)
    (typed : ∀ field ∈ fields, typeOf field = declared) :
    ∀ other ∈ others, typeOf other = declared := by
  intro other member
  have inOthers : typeOf other ∈ others.map typeOf := List.mem_map_of_mem member
  rw [same] at inOthers
  obtain ⟨field, inFields, sameType⟩ := List.mem_map.1 inOthers
  rw [← sameType, typed field inFields]

end

end RecordTags
