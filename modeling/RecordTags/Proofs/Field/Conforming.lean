import RecordTags.Proofs.Field.Correspondence

/-!
Contract: writing does not depend on what a field held before.

Owns:
- `ConformingField`, a field with a notion of conforming content. An operation
  on such a field does what it would do on the field after a reset; only the
  content of an optional field is passed on, and it differs from the content
  after a reset by a reset of its own;
- that cells and slots are such fields;
- that an assignment refuses the same values, and when it succeeds stores the
  same, whatever the field held.

An assignment that fails may leave traces of what was there: an optional layer
that was present keeps its content.
-/

namespace RecordTags

/-- A field whose operations depend on its type only, as long as its content conforms. -/
class ConformingField (F : Type) extends TypedField F where
  Conforms : F → Prop
  conforms_assign {field : F} (value : Value) :
    Conforms field → Conforms (assign value field).field
  conforms_content {field held : F} :
    Conforms field → content field = .ok held → Conforms held
  setZero_of_typeOf {left right : F} :
    typeOf left = typeOf right → setZero left = setZero right
  kind_setZero (field : F) : kind (setZero field) = kind field
  layers_setZero (field : F) : layers (setZero field) = layers field
  store_setZero {field : F} (scalar : Scalar) :
    Conforms field → Field.store (setZero field) scalar = Field.store field scalar
  newElements_setZero (field : F) (length : Nat) :
    newElements (setZero field) length = newElements field length
  withElements_setZero {field : F} {length : Nat} {new : List F} (elements : List F) :
    newElements field length = .ok new →
      withElements (setZero field) elements = withElements field elements
  content_setZero {field : F} :
    Conforms field → content (setZero field) = (content field).map setZero
  withContent_setZero {field held : F} (next : F) :
    content field = .ok held → withContent (setZero field) next = withContent field next

/-! ## Cells and slots -/

/-- Conforming cells of one type hold values of its shape. -/
theorem Cell.exists_values {element : FieldType} {cells : List Cell}
    (typed : ∀ cell ∈ cells, cell.type = element)
    (conform : ∀ cell ∈ cells, ∃ value, cell.type.shape.cell value = cell) :
    ∃ values : List element.shape.Carrier, values.map element.shape.cell = cells := by
  induction cells with
  | nil => exact ⟨[], rfl⟩
  | cons cell rest inductionHypothesis =>
      obtain ⟨typedCell, typedRest⟩ := List.forall_mem_cons.1 typed
      obtain ⟨conformsCell, conformsRest⟩ := List.forall_mem_cons.1 conform
      obtain ⟨values, sameValues⟩ := inductionHypothesis typedRest conformsRest
      rw [typedCell] at conformsCell
      obtain ⟨value, sameValue⟩ := conformsCell
      exact ⟨value :: values, by rw [List.map_cons, sameValue, sameValues]⟩

/-- A cell that conforms holds a value of the shape of its type. -/
theorem Cell.Conforms.exists_value {cell : Cell} (conforms : cell.Conforms) :
    ∃ value, cell.type.shape.cell value = cell := by
  induction conforms with
  | bool value => exact ⟨value, rfl⟩
  | int value =>
      refine ⟨⟨value.toInt, value.le_toInt, value.toInt_lt⟩, ?_⟩
      show Cell.mk .int (.int (.ofInt value.toInt)) = _
      rw [Int64.ofInt_toInt]
  | uint value =>
      refine ⟨⟨value.toNat, value.toNat_lt⟩, ?_⟩
      show Cell.mk .uint (.uint (.ofNat value.toNat)) = _
      rw [UInt64.ofNat_toNat]
  | float value => exact ⟨value, rfl⟩
  | text value => exact ⟨value, rfl⟩
  | absent inner =>
      refine ⟨none, ?_⟩
      show Cell.mk (.optional inner.shape.type) (.optional none) = _
      rw [inner.type_shape]
  | @present content _ inductionHypothesis =>
      obtain ⟨value, same⟩ := inductionHypothesis
      refine ⟨some value, ?_⟩
      show Cell.mk (.optional content.type.shape.type)
        (.optional (some (content.type.shape.cell value))) = _
      rw [content.type.type_shape, same]
  | @sequence element elements typed _ inductionHypothesis =>
      obtain ⟨values, same⟩ := Cell.exists_values typed inductionHypothesis
      refine ⟨values, ?_⟩
      show Cell.mk (.sequence element.shape.type)
        (.sequence (values.map element.shape.cell)) = _
      rw [element.type_shape, same]

/-- Assignments keep cells conforming, since they keep slots in their shape. -/
theorem Cell.Conforms.assign {cell : Cell} (conforms : cell.Conforms) (value : Value) :
    (RecordTags.assign value cell).field.Conforms := by
  have ofSlot : ∀ slot : Slot, slot.shape.IsWide →
      (RecordTags.assign value slot.toCell).field.Conforms := by
    intro slot wide
    rw [Slot.assign_toCell value wide]
    exact Shape.conforms_cell _ _
  obtain ⟨held, same⟩ := conforms.exists_value
  rw [← same]
  exact ofSlot ⟨cell.type.shape, held⟩ cell.type.isWide_shape

/-- The zero of a type is a value of it. -/
theorem Cell.conforms_zero (type : FieldType) : (Cell.zero type).Conforms := by
  cases type with
  | bool => exact .bool _
  | int => exact .int _
  | uint => exact .uint _
  | float => exact .float _
  | string => exact .text _
  | optional inner => exact .absent inner
  | sequence element => exact .sequence (by simp) (by simp)

instance : ConformingField Cell where
  Conforms := Cell.Conforms
  conforms_assign value conforms := conforms.assign value
  conforms_content := by
    intro cell held conforms opened
    cases conforms with
    | absent inner =>
        cases opened
        exact Cell.conforms_zero inner
    | present conforms =>
        cases opened
        exact conforms
    | bool | int | uint | float | text | sequence => contradiction
  setZero_of_typeOf := congrArg Cell.zero
  kind_setZero _ := rfl
  layers_setZero _ := rfl
  store_setZero := by
    intro cell scalar conforms
    cases conforms <;> cases scalar <;> rfl
  newElements_setZero := by
    rintro ⟨type, content⟩ length
    cases type <;> rfl
  withElements_setZero _ _ := rfl
  content_setZero := by
    intro cell conforms
    cases conforms <;> rfl
  withContent_setZero _ _ := rfl

instance : ConformingField Slot where
  Conforms _ := True
  conforms_assign _ _ := trivial
  conforms_content _ _ := trivial
  setZero_of_typeOf := congrArg Slot.zero
  kind_setZero _ := rfl
  layers_setZero _ := rfl
  store_setZero := by
    rintro ⟨shape, value⟩ scalar -
    cases shape <;> cases scalar <;> rfl
  newElements_setZero := by
    rintro ⟨shape, value⟩ length
    cases shape <;> rfl
  withElements_setZero := by
    rintro ⟨shape, value⟩ length new elements opened
    cases shape with
    | sequence element => rfl
    | _ => contradiction
  content_setZero := by
    rintro ⟨shape, value⟩ -
    cases shape <;> rfl
  withContent_setZero := by
    rintro ⟨shape, value⟩ held next opened
    cases shape with
    | optional inner => rfl
    | _ => contradiction

/-! ## Assignments -/

section

open TypedField ConformingField

variable {F : Type} [ConformingField F]

/-- Two attempts with the same outcome: both succeed and leave the same field, or both fail
alike. -/
structure Written.Agrees (left right : Written F) : Prop where
  mismatch : left.mismatch = right.mismatch
  field : right.mismatch = none → left.field = right.field

theorem Written.agrees_ofResult (value : Value) {left right : F}
    (sameKind : Field.kind left = Field.kind right) (result : Except Refusal F) :
    (Written.ofResult value left result).Agrees (Written.ofResult value right result) := by
  cases result with
  | ok next => exact ⟨rfl, fun _ => rfl⟩
  | error refusal =>
      refine ⟨?_, ?_⟩
      · simp only [Written.ofResult, sameKind]
      · intro accepted
        contradiction

/-- Writes that do not depend on old contents do not depend on them inside optional layers. -/
theorem agrees_writeInside (value : Value) {write : F → Written F}
    (same : ∀ field, Conforms field → (write (Field.setZero field)).Agrees (write field))
    (layers : Nat) {field : F} (conforms : Conforms field) :
    (writeInside value write layers (Field.setZero field)).Agrees
      (writeInside value write layers field) := by
  induction layers generalizing field with
  | zero => exact same field conforms
  | succ layers inductionHypothesis =>
      rw [writeInside, writeInside, content_setZero conforms]
      cases opened : Field.content field with
      | error refusal => exact Written.agrees_ofResult value (kind_setZero field) _
      | ok content =>
          -- the content differs from the one after a reset by a reset, as the field does
          obtain ⟨sameMismatch, sameField⟩ :=
            inductionHypothesis (conforms_content conforms opened)
          refine ⟨sameMismatch, ?_⟩
          intro accepted
          simp only [Except.map, sameField accepted, withContent_setZero _ opened]

/-- An assignment does what it would do after a reset. -/
theorem agrees_assign_setZero (value : Value) {field : F} (conforms : Conforms field) :
    (assign value (Field.setZero field)).Agrees (assign value field) := by
  induction value using Value.induct with
  | nil span =>
      have sameZero : Field.setZero (Field.setZero field) = Field.setZero field :=
        setZero_of_typeOf (typeOf_setZero field)
      rw [assign_nil, assign_nil, sameZero]
      exact ⟨rfl, fun _ => rfl⟩
  | scalar value isScalar =>
      rw [assign_of_isScalar isScalar, assign_of_isScalar isScalar, layers_setZero]
      refine agrees_writeInside value ?_ _ conforms
      intro field conforms
      have sameOffer : Field.offer (Field.setZero field) value = Field.offer field value := by
        unfold Field.offer
        rw [kind_setZero]
        split
        next scalar _ => exact store_setZero scalar conforms
        next => rfl
      rw [sameOffer]
      exact Written.agrees_ofResult value (kind_setZero field) _
  | slice values span =>
      rw [assign_slice, assign_slice, layers_setZero]
      refine agrees_writeInside _ ?_ _ conforms
      intro field conforms
      unfold writeElements
      rw [newElements_setZero]
      cases opened : Field.newElements field values.length with
      | error refusal => exact Written.agrees_ofResult _ (kind_setZero field) _
      | ok elements => exact ⟨rfl, fun _ => withElements_setZero _ opened⟩

/-- Assignments to fields of one type agree, whatever the fields hold. -/
theorem agrees_assign (value : Value) {left right : F} (sameType : typeOf left = typeOf right)
    (conforms : Conforms left) (conformsRight : Conforms right) :
    (assign value left).Agrees (assign value right) := by
  have ofLeft := agrees_assign_setZero value conforms
  have ofRight := agrees_assign_setZero value conformsRight
  rw [setZero_of_typeOf sameType] at ofLeft
  have sameMismatch : (assign value left).mismatch = (assign value right).mismatch :=
    ofLeft.mismatch.symm.trans ofRight.mismatch
  refine ⟨sameMismatch, ?_⟩
  intro accepted
  exact (ofLeft.field (sameMismatch.trans accepted)).symm.trans (ofRight.field accepted)

end

end RecordTags
