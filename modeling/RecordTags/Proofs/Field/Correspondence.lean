import RecordTags.Field.Call
import RecordTags.Proofs.Field.Assignment

/-!
Contract: fields of a fixed shape and fields of a run-time type do the same.

Owns:
- the shape of a field type, with 64-bit integers and doubles;
- `Cell.Conforms`: what a cell holds is a value of its type, at every depth;
- `Corresponds`: a slot and a cell of the same type that hold the same;
- `Slot.toCell`, the cell that corresponds to a slot. It commutes with every
  operation of fields, hence with assignments and with scripts of calls.

Correspondence is stated with the common view of slots and cells. Proofs use
`toCell`, since an equation is easier to carry through an operation than a
relation.
-/

namespace RecordTags

/-! ## Types and shapes -/

/-- The shape with the values of a type. -/
def FieldType.shape : FieldType → Shape
  | bool => .bool
  | int => .int .w64
  | uint => .uint .w64
  | float => .double
  | string => .text
  | optional inner => .optional inner.shape
  | sequence element => .sequence element.shape

/-- The type of the cells that can hold the values of a shape. -/
def Shape.type : Shape → FieldType
  | bool => .bool
  | int _ => .int
  | uint _ => .uint
  | single | double => .float
  | text => .string
  | optional inner => .optional inner.type
  | sequence element => .sequence element.type

theorem FieldType.type_shape (type : FieldType) : type.shape.type = type := by
  induction type with
  | bool | int | uint | float | string => rfl
  | optional inner inductionHypothesis => rw [shape, Shape.type, inductionHypothesis]
  | sequence element inductionHypothesis => rw [shape, Shape.type, inductionHypothesis]

theorem Shape.layers_type (shape : Shape) : shape.type.layers = shape.layers := by
  induction shape with
  | optional inner inductionHypothesis =>
      rw [type, FieldType.layers, layers, inductionHypothesis]
  | bool | int | uint | single | double | text | sequence => rfl

/-- A shape that some type has. -/
def Shape.IsWide (shape : Shape) : Prop := shape.type.shape = shape

theorem FieldType.isWide_shape (type : FieldType) : type.shape.IsWide := by
  rw [Shape.IsWide, type.type_shape]

theorem Shape.IsWide.inner {inner : Shape} (wide : (Shape.optional inner).IsWide) :
    inner.IsWide :=
  Shape.optional.inj wide

theorem Shape.IsWide.element {element : Shape} (wide : (Shape.sequence element).IsWide) :
    element.IsWide :=
  Shape.sequence.inj wide

/-! ## Conforming cells -/

/-- The content of a cell is a value of its type, and so is everything in it. -/
inductive Cell.Conforms : Cell → Prop where
  | bool (value : Bool) : Conforms (.mk .bool (.bool value))
  | int (value : Int64) : Conforms (.mk .int (.int value))
  | uint (value : UInt64) : Conforms (.mk .uint (.uint value))
  | float (value : Binary64) : Conforms (.mk .float (.float value))
  | text (value : String) : Conforms (.mk .string (.text value))
  | absent (inner : FieldType) : Conforms (.mk (.optional inner) (.optional none))
  | present {content : Cell} (conforms : Conforms content) :
      Conforms (.mk (.optional content.type) (.optional (some content)))
  | sequence {element : FieldType} {elements : List Cell}
      (typed : ∀ cell ∈ elements, cell.type = element)
      (conform : ∀ cell ∈ elements, Conforms cell) :
      Conforms (.mk (.sequence element) (.sequence elements))

theorem storedElements_eq_map (cells : List Cell) :
    storedElements cells = cells.map Cell.stored := by
  induction cells with
  | nil => rw [storedElements, List.map_nil]
  | cons cell rest inductionHypothesis => rw [storedElements, inductionHypothesis, List.map_cons]

/-- Lists of cells with the same views are equal, if single cells are. -/
theorem Cell.eq_of_map_stored {cells others : List Cell}
    (sameView : cells.map Cell.stored = others.map Cell.stored)
    (same : ∀ cell ∈ cells, ∀ other ∈ others, cell.stored = other.stored → cell = other) :
    cells = others := by
  induction cells generalizing others with
  | nil => exact (List.map_eq_nil_iff.1 sameView.symm).symm
  | cons cell rest inductionHypothesis =>
      cases others with
      | nil => simp at sameView
      | cons other others =>
          simp only [List.map_cons, List.cons.injEq] at sameView
          have sameHead : cell = other :=
            same cell List.mem_cons_self other List.mem_cons_self sameView.1
          have sameRest : rest = others := by
            apply inductionHypothesis sameView.2
            intro inner member otherInner memberOther
            exact same inner (List.mem_cons_of_mem _ member) otherInner
              (List.mem_cons_of_mem _ memberOther)
          rw [sameHead, sameRest]

/-- Cells of a type are told apart by their view. -/
theorem Cell.Conforms.eq_of_stored {left right : Cell} (conforms : left.Conforms)
    (conformsRight : right.Conforms) (sameType : left.type = right.type)
    (sameView : left.stored = right.stored) : left = right := by
  induction conforms generalizing right with
  | bool value =>
      cases conformsRight <;> cases sameType
      cases sameView
      rfl
  | int value =>
      cases conformsRight <;> cases sameType
      simp only [Cell.stored, CellContent.stored, Stored.int.injEq, Int64.toInt_inj] at sameView
      rw [sameView]
  | uint value =>
      cases conformsRight <;> cases sameType
      simp only [Cell.stored, CellContent.stored, Stored.uint.injEq, UInt64.toNat_inj] at sameView
      rw [sameView]
  | float value =>
      cases conformsRight <;> cases sameType
      cases sameView
      rfl
  | text value =>
      cases conformsRight <;> cases sameType
      cases sameView
      rfl
  | absent inner =>
      cases conformsRight <;> cases sameType
      · rfl
      · simp [Cell.stored, CellContent.stored] at sameView
  | @present content _ inductionHypothesis =>
      cases conformsRight with
      | absent inner =>
          simp [Cell.stored, CellContent.stored] at sameView
      | @present other conformsOther =>
          have sameInner : content.type = other.type := FieldType.optional.inj sameType
          simp only [Cell.stored, CellContent.stored, Stored.optional.injEq, Option.some.injEq]
            at sameView
          rw [inductionHypothesis conformsOther sameInner sameView]
      | bool | int | uint | float | text | sequence => contradiction
  | @sequence element elements typed conform inductionHypothesis =>
      cases conformsRight with
      | @sequence otherElement others typedOthers conformOthers =>
          obtain rfl : element = otherElement := FieldType.sequence.inj sameType
          simp only [Cell.stored, CellContent.stored, Stored.sequence.injEq,
            storedElements_eq_map] at sameView
          have same : elements = others := by
            apply Cell.eq_of_map_stored sameView
            intro cell member other memberOther sameCellView
            have sameCellType : cell.type = other.type :=
              (typed cell member).trans (typedOthers other memberOther).symm
            exact inductionHypothesis cell member (conformOthers other memberOther) sameCellType
              sameCellView
          rw [same]
      | bool | int | uint | float | text | absent | present => contradiction

/-! ## Correspondence -/

/-- A slot and a cell of the same type that hold the same. -/
structure Corresponds (slot : Slot) (cell : Cell) : Prop where
  shape : slot.shape = cell.type.shape
  conforms : cell.Conforms
  stored : slot.stored = cell.stored

def Shape.cell : (shape : Shape) → shape.Carrier → Cell
  | bool, value => .mk .bool (.bool value)
  | int _, value => .mk .int (.int (.ofInt value.val))
  | uint _, value => .mk .uint (.uint (.ofNat value.val))
  | single, value => .mk .float (.float value.convert)
  | double, value => .mk .float (.float value)
  | text, value => .mk .string (.text value)
  | optional inner, value => .mk (.optional inner.type) (.optional (value.map inner.cell))
  | sequence element, values => .mk (.sequence element.type) (.sequence (values.map element.cell))

def Slot.toCell (slot : Slot) : Cell := slot.shape.cell slot.value

theorem Shape.type_cell (shape : Shape) (value : shape.Carrier) :
    (shape.cell value).type = shape.type := by
  cases shape <;> rfl

theorem Slot.type_toCell (slot : Slot) : slot.toCell.type = slot.shape.type :=
  slot.shape.type_cell slot.value

/-- A cell with a value of a shape conforms. -/
theorem Shape.conforms_cell (shape : Shape) (value : shape.Carrier) :
    (shape.cell value).Conforms := by
  induction shape with
  | bool => exact .bool _
  | int => exact .int _
  | uint => exact .uint _
  | single | double => exact .float _
  | text => exact .text _
  | optional inner inductionHypothesis =>
      cases value with
      | none => exact .absent _
      | some content =>
          have present := Cell.Conforms.present (inductionHypothesis content)
          rw [type_cell] at present
          exact present
  | sequence element inductionHypothesis =>
      refine .sequence ?_ ?_
      · intro cell member
        obtain ⟨content, -, rfl⟩ := List.mem_map.1 member
        exact type_cell element content
      · intro cell member
        obtain ⟨content, -, rfl⟩ := List.mem_map.1 member
        exact inductionHypothesis content

/-- A cell with a value of a shape has the view of the value. -/
theorem Shape.IsWide.stored_cell {shape : Shape} (wide : shape.IsWide) (value : shape.Carrier) :
    (shape.cell value).stored = shape.stored value := by
  induction shape with
  | bool | double | text => rfl
  | single => contradiction
  | int width =>
      obtain ⟨n, lower, upper⟩ := value
      obtain rfl : Width.w64 = width := Shape.int.inj wide
      have inRange : (Int64.ofInt n).toInt = n := Int64.toInt_ofInt_of_le lower upper
      simp only [Shape.cell, Cell.stored, CellContent.stored, Shape.stored, inRange]
  | uint width =>
      obtain ⟨n, below⟩ := value
      obtain rfl : Width.w64 = width := Shape.uint.inj wide
      have inRange : (UInt64.ofNat n).toNat = n := UInt64.toNat_ofNat_of_lt' below
      simp only [Shape.cell, Cell.stored, CellContent.stored, Shape.stored, inRange]
  | optional inner inductionHypothesis =>
      cases value with
      | none => rfl
      | some content =>
          simp only [Shape.cell, Option.map_some, Cell.stored, CellContent.stored, Shape.stored,
            inductionHypothesis wide.inner content]
  | sequence element inductionHypothesis =>
      have same : Cell.stored ∘ element.cell = element.stored :=
        funext (inductionHypothesis wide.element)
      have elements (values : List element.Carrier) :
          storedElements (values.map element.cell) = values.map element.stored := by
        rw [storedElements_eq_map, List.map_map, same]
      exact congrArg Stored.sequence (elements value)

/-- Correspondence means that the cell is the slot's. -/
theorem corresponds_iff {slot : Slot} {cell : Cell} :
    Corresponds slot cell ↔ slot.shape.IsWide ∧ cell = slot.toCell := by
  constructor
  · intro corresponds
    have wide : slot.shape.IsWide := by
      rw [corresponds.shape]
      exact cell.type.isWide_shape
    have sameType : cell.type = slot.toCell.type := by
      rw [Slot.type_toCell, corresponds.shape, FieldType.type_shape]
    have sameView : cell.stored = slot.toCell.stored :=
      corresponds.stored.symm.trans (wide.stored_cell slot.value).symm
    exact ⟨wide, corresponds.conforms.eq_of_stored (slot.shape.conforms_cell slot.value) sameType
      sameView⟩
  · rintro ⟨wide, rfl⟩
    refine ⟨?_, slot.shape.conforms_cell slot.value, (wide.stored_cell slot.value).symm⟩
    rw [Slot.type_toCell]
    exact wide.symm

/-! ## The operations of fields -/

namespace Slot

theorem kind_toCell (slot : Slot) : Field.kind slot.toCell = Field.kind slot := by
  obtain ⟨shape, value⟩ := slot
  cases shape <;> rfl

theorem layers_toCell (slot : Slot) : Field.layers slot.toCell = Field.layers slot := by
  show slot.toCell.type.layers = slot.shape.layers
  rw [type_toCell, Shape.layers_type]

theorem toCell_zero {shape : Shape} (wide : shape.IsWide) :
    (zero shape).toCell = .zero shape.type := by
  cases shape with
  | single => contradiction
  | bool | int | uint | double | text | optional | sequence => rfl

theorem setZero_toCell {slot : Slot} (wide : slot.shape.IsWide) :
    Field.setZero slot.toCell = (Field.setZero slot).toCell := by
  show Cell.zero slot.toCell.type = (zero slot.shape).toCell
  rw [type_toCell, toCell_zero wide]

/-- Setters do to the cell of a slot what they do to the slot. -/
theorem store_toCell {slot : Slot} (wide : slot.shape.IsWide) (scalar : Scalar) :
    Field.store slot.toCell scalar = (Field.store slot scalar).map toCell := by
  obtain ⟨shape, value⟩ := slot
  cases shape with
  | single => contradiction
  | bool | double | text | optional | sequence => cases scalar <;> rfl
  | int width =>
      obtain rfl : Width.w64 = width := Shape.int.inj wide
      cases scalar with
      | int next =>
          -- only narrower slots can refuse an integer for its size
          have inRange : Width.w64.Signed next.toInt := ⟨next.le_toInt, next.toInt_lt⟩
          have stored : Field.store (⟨.int .w64, value⟩ : Slot) (.int next) =
              .ok ⟨.int .w64, ⟨next.toInt, inRange⟩⟩ :=
            dif_pos inRange
          rw [stored]
          show Except.ok (Cell.mk .int (.int next)) = .ok (.mk .int (.int (.ofInt next.toInt)))
          rw [Int64.ofInt_toInt]
      | bool | uint | float | text => rfl
  | uint width =>
      obtain rfl : Width.w64 = width := Shape.uint.inj wide
      cases scalar with
      | uint next =>
          have inRange : Width.w64.Unsigned next.toNat := next.toNat_lt
          have stored : Field.store (⟨.uint .w64, value⟩ : Slot) (.uint next) =
              .ok ⟨.uint .w64, ⟨next.toNat, inRange⟩⟩ :=
            dif_pos inRange
          rw [stored]
          show Except.ok (Cell.mk .uint (.uint next)) = .ok (.mk .uint (.uint (.ofNat next.toNat)))
          rw [UInt64.ofNat_toNat]
      | bool | int | float | text => rfl

theorem newElements_toCell {slot : Slot} (wide : slot.shape.IsWide) (length : Nat) :
    Field.newElements slot.toCell length =
      (Field.newElements slot length).map (List.map toCell) := by
  obtain ⟨shape, value⟩ := slot
  cases shape with
  | sequence element =>
      show Except.ok (List.replicate length (Cell.zero element.type)) =
        .ok ((List.replicate length (zero element)).map toCell)
      rw [List.map_replicate, toCell_zero wide.element]
  | bool | int | uint | single | double | text | optional => rfl

theorem content_toCell {slot : Slot} (wide : slot.shape.IsWide) :
    Field.content slot.toCell = (Field.content slot).map toCell := by
  obtain ⟨shape, value⟩ := slot
  cases shape with
  | optional inner =>
      cases value with
      | some content => rfl
      | none => exact congrArg Except.ok (toCell_zero wide.inner).symm
  | bool | int | uint | single | double | text | sequence => rfl

/-- Only a sequence has elements, and new ones have its element shape. -/
theorem newElements_eq_ok {slot : Slot} {length : Nat} {elements : List Slot}
    (opened : Field.newElements slot length = .ok elements) :
    ∃ element, slot.shape = .sequence element ∧ ∀ new ∈ elements, new.shape = element := by
  obtain ⟨shape, value⟩ := slot
  cases shape with
  | sequence element =>
      cases opened
      refine ⟨element, rfl, ?_⟩
      intro new member
      rw [List.eq_of_mem_replicate member]
      rfl
  | bool | int | uint | single | double | text | optional => contradiction

theorem isWide_of_newElements {slot : Slot} (wide : slot.shape.IsWide) {length : Nat}
    {elements : List Slot} (opened : Field.newElements slot length = .ok elements) :
    ∀ new ∈ elements, new.shape.IsWide := by
  obtain ⟨element, isSequence, sameShape⟩ := newElements_eq_ok opened
  intro new member
  rw [isSequence] at wide
  rw [sameShape new member]
  exact wide.element

/-- Only an optional slot has content, and it has the inner shape. -/
theorem content_eq_ok {slot content : Slot} (opened : Field.content slot = .ok content) :
    slot.shape = .optional content.shape := by
  obtain ⟨shape, value⟩ := slot
  cases shape with
  | optional inner =>
      cases opened
      rfl
  | bool | int | uint | single | double | text | sequence => contradiction

/-- Sequences of corresponding elements correspond. -/
theorem withElements_toCell {slot : Slot} {element : Shape}
    (isSequence : slot.shape = .sequence element) {elements : List Slot}
    (same : ∀ new ∈ elements, new.shape = element) :
    Field.withElements slot.toCell (elements.map toCell) =
      (Field.withElements slot elements).toCell := by
  obtain ⟨shape, value⟩ := slot
  cases isSequence
  -- a slot drops elements of other shapes, a cell does not; here there are none
  have kept : elements.map toCell = (elements.filterMap (as? element)).map element.cell := by
    induction elements with
    | nil => rfl
    | cons new rest inductionHypothesis =>
        obtain ⟨sameNew, sameRest⟩ := List.forall_mem_cons.1 same
        obtain ⟨newShape, newValue⟩ := new
        cases sameNew
        rw [List.map_cons, inductionHypothesis sameRest, List.filterMap_cons, as?_mk]
        rfl
  show Cell.mk (.sequence element.type) (.sequence (elements.map toCell)) =
    .mk (.sequence element.type) (.sequence ((elements.filterMap (as? element)).map element.cell))
  rw [kept]

theorem withContent_toCell {slot content : Slot}
    (isOptional : slot.shape = .optional content.shape) :
    Field.withContent slot.toCell content.toCell = (Field.withContent slot content).toCell := by
  obtain ⟨shape, value⟩ := slot
  obtain ⟨inner, contentValue⟩ := content
  cases isOptional
  have present : (as? inner ⟨inner, contentValue⟩).map inner.cell =
      some (inner.cell contentValue) := by
    rw [as?_mk, Option.map_some]
  exact congrArg (fun held => Cell.mk (.optional inner.type) (.optional held)) present.symm

end Slot

/-! ## Assignments -/

/-- The outcome of an attempt to write, with the field in another form. -/
def Written.map {A B : Type} (form : A → B) (written : Written A) : Written B :=
  { field := form written.field, mismatch := written.mismatch }

namespace Slot

theorem ofResult_toCell (value : Value) (slot : Slot) (result : Except Refusal Slot) :
    Written.ofResult value slot.toCell (result.map toCell) =
      (Written.ofResult value slot result).map toCell := by
  cases result with
  | ok next => rfl
  | error refusal =>
      simp only [Except.map, Written.ofResult, Written.map, kind_toCell]

theorem offer_toCell {slot : Slot} (wide : slot.shape.IsWide) (value : Value) :
    Field.offer slot.toCell value = (Field.offer slot value).map toCell := by
  unfold Field.offer
  rw [kind_toCell]
  split
  next scalar _ => exact store_toCell wide scalar
  next => rfl

/-- Writes inside optional layers correspond if those in the innermost field do. -/
theorem writeInside_toCell (value : Value) {write : Slot → Written Slot}
    {writeCell : Cell → Written Cell}
    (keeps : ∀ slot, (write slot).field.shape = slot.shape)
    (same : ∀ slot : Slot, slot.shape.IsWide → writeCell slot.toCell = (write slot).map toCell)
    (layers : Nat) {slot : Slot} (wide : slot.shape.IsWide) :
    writeInside value writeCell layers slot.toCell =
      (writeInside value write layers slot).map toCell := by
  induction layers generalizing slot with
  | zero => exact same slot wide
  | succ layers inductionHypothesis =>
      rw [writeInside, writeInside, content_toCell wide]
      cases opened : Field.content slot with
      | error refusal => exact ofResult_toCell value slot (.error refusal)
      | ok content =>
          have isOptional := content_eq_ok opened
          rw [isOptional] at wide
          have written := inductionHypothesis wide.inner
          -- the content is put back in the shape that it had, so the slot takes it
          have sameShape : (writeInside value write layers content).field.shape = content.shape :=
            typeOf_writeInside value keeps layers content
          rw [← sameShape] at isOptional
          simp only [Except.map, written, Written.map, withContent_toCell isOptional]

/-- Assignments to elements agree where assignments of the single values do. -/
theorem assignEach_toCell {values : List Value}
    (same : ∀ value ∈ values, ∀ slot : Slot, slot.shape.IsWide →
      assign value slot.toCell = (assign value slot).map toCell)
    {slots : List Slot} (wide : ∀ slot ∈ slots, slot.shape.IsWide) :
    assignEach values (slots.map toCell) =
      ((assignEach values slots).1.map toCell, (assignEach values slots).2) := by
  induction values generalizing slots with
  | nil => rw [assignEach_nil, assignEach_nil]
  | cons value values inductionHypothesis =>
      cases slots with
      | nil => rw [List.map_nil, assignEach_fields_nil, assignEach_fields_nil, List.map_nil]
      | cons slot slots =>
          obtain ⟨sameValue, sameValues⟩ := List.forall_mem_cons.1 same
          obtain ⟨wideSlot, wideSlots⟩ := List.forall_mem_cons.1 wide
          rw [List.map_cons, assignEach_cons, assignEach_cons, sameValue slot wideSlot,
            inductionHypothesis sameValues wideSlots]
          simp only [Written.map]
          split <;> rfl

/-- An assignment to a cell is the assignment to its slot. -/
theorem assign_toCell (value : Value) {slot : Slot} (wide : slot.shape.IsWide) :
    assign value slot.toCell = (assign value slot).map toCell := by
  induction value using Value.induct generalizing slot with
  | nil span =>
      rw [assign_nil, assign_nil, setZero_toCell wide]
      rfl
  | scalar value isScalar =>
      rw [assign_of_isScalar isScalar, assign_of_isScalar isScalar, layers_toCell]
      refine writeInside_toCell value ?_ ?_ _ wide
      · intro slot
        exact typeOf_ofResult (F := Slot) fun next => typeOf_offer
      · intro slot wide
        rw [offer_toCell wide, ofResult_toCell]
  | slice values span inductionHypothesis =>
      rw [assign_slice, assign_slice, layers_toCell]
      refine writeInside_toCell _ ?_ ?_ _ wide
      · intro slot
        exact typeOf_writeElements values span slot
      · intro slot wide
        unfold writeElements
        rw [newElements_toCell wide]
        cases opened : Field.newElements slot values.length with
        | error refusal => exact ofResult_toCell _ slot (.error refusal)
        | ok elements =>
            obtain ⟨element, isSequence, sameShape⟩ := newElements_eq_ok opened
            have wideElements := isWide_of_newElements wide opened
            have sameAfter : ∀ new ∈ (assignEach values elements).1, new.shape = element :=
              forall_typeOf_of_map (map_typeOf_assignEach values elements) sameShape
            have assigned := assignEach_toCell
              (fun value member slot wide => inductionHypothesis value member wide) wideElements
            simp only [Except.map, assigned, Written.map, withElements_toCell isSequence sameAfter]

end Slot

/-! ## Scripts of calls -/

/-- The call that stores a scalar. -/
def Call.ofScalar : Scalar → Call
  | .bool value => .bool value
  | .int value => .int value
  | .uint value => .uint value
  | .float value => .float value
  | .text value => .text value

/-- Calls ask for the kind, reset, store a scalar, or run scripts on what they open. -/
theorem Call.induct {motive : Call → Prop} (kind : motive .kind) (zero : motive .zero)
    (ofScalar : ∀ scalar, motive (Call.ofScalar scalar))
    (sequence : ∀ length each, (∀ calls ∈ each, ∀ call ∈ calls, motive call) →
      motive (.sequence length each))
    (optional : ∀ inner, (∀ call ∈ inner, motive call) → motive (.optional inner)) (call : Call) :
    motive call := by
  match call with
  | .kind => exact kind
  | .zero => exact zero
  | .bool value => exact ofScalar (.bool value)
  | .int value => exact ofScalar (.int value)
  | .uint value => exact ofScalar (.uint value)
  | .float value => exact ofScalar (.float value)
  | .text value => exact ofScalar (.text value)
  | .sequence length each =>
      apply sequence
      intro calls member call memberCall
      have smallerCalls := List.sizeOf_lt_of_mem member
      have smallerCall := List.sizeOf_lt_of_mem memberCall
      exact Call.induct kind zero ofScalar sequence optional call
  | .optional inner =>
      apply optional
      intro call member
      have smaller := List.sizeOf_lt_of_mem member
      exact Call.induct kind zero ofScalar sequence optional call
termination_by sizeOf call
decreasing_by
  · simp only [Call.sequence.sizeOf_spec]
    omega
  · simp only [Call.optional.sizeOf_spec]
    omega

theorem Call.run_ofScalar {F : Type} [Field F] (scalar : Scalar) (field : F) :
    (Call.ofScalar scalar).run field = Reply.ofResult field (Field.store field scalar) := by
  cases scalar <;> rw [Call.ofScalar, Call.run] <;> rfl

section

open TypedField

variable {F : Type} [TypedField F]

/-- No call changes the type of a field. -/
theorem Call.typeOf_run (call : Call) (field : F) : typeOf (call.run field).2 = typeOf field := by
  induction call using Call.induct with
  | kind => rw [Call.run]
  | zero =>
      rw [Call.run]
      exact typeOf_setZero field
  | ofScalar scalar =>
      rw [Call.run_ofScalar]
      cases stored : Field.store field scalar with
      | ok next => exact typeOf_store stored
      | error refusal => rfl
  | sequence length each _ =>
      rw [Call.run]
      split
      next => rfl
      next => exact typeOf_withElements _ _
  | optional inner _ =>
      rw [Call.run]
      split
      next => rfl
      next => exact typeOf_withContent _ _

theorem typeOf_runAll (calls : List Call) (field : F) :
    typeOf (runAll calls field).2 = typeOf field := by
  induction calls generalizing field with
  | nil => rw [runAll]
  | cons call rest inductionHypothesis =>
      rw [runAll]
      exact (inductionHypothesis _).trans (call.typeOf_run field)

theorem map_typeOf_runEach (each : List (List Call)) (fields : List F) :
    (runEach each fields).2.map typeOf = fields.map typeOf := by
  induction each generalizing fields with
  | nil => rw [runEach]; simp
  | cons calls rest inductionHypothesis =>
      cases fields with
      | nil => rw [runEach]; simp
      | cons field fields =>
          rw [runEach]
          simp only [List.map_cons, typeOf_runAll, inductionHypothesis]

end

namespace Slot

/-- Calls that correspond one by one correspond in a row. -/
theorem runAll_toCell {calls : List Call}
    (same : ∀ call ∈ calls, ∀ slot : Slot, slot.shape.IsWide →
      call.run slot.toCell = ((call.run slot).1, (call.run slot).2.toCell))
    {slot : Slot} (wide : slot.shape.IsWide) :
    runAll calls slot.toCell = ((runAll calls slot).1, (runAll calls slot).2.toCell) := by
  induction calls generalizing slot with
  | nil => rw [runAll, runAll]
  | cons call rest inductionHypothesis =>
      obtain ⟨sameCall, sameRest⟩ := List.forall_mem_cons.1 same
      have sameShape : (call.run slot).2.shape = slot.shape := call.typeOf_run slot
      have wideAfter : (call.run slot).2.shape.IsWide := by rwa [sameShape]
      rw [runAll, runAll, sameCall slot wide]
      simp only [inductionHypothesis sameRest wideAfter]

/-- Calls on several fields correspond if each single call does. -/
theorem runEach_toCell {each : List (List Call)}
    (same : ∀ calls ∈ each, ∀ call ∈ calls, ∀ slot : Slot, slot.shape.IsWide →
      call.run slot.toCell = ((call.run slot).1, (call.run slot).2.toCell))
    {slots : List Slot} (wide : ∀ slot ∈ slots, slot.shape.IsWide) :
    runEach each (slots.map toCell) =
      ((runEach each slots).1, (runEach each slots).2.map toCell) := by
  induction each generalizing slots with
  | nil => rw [runEach, runEach] <;> simp
  | cons calls rest inductionHypothesis =>
      cases slots with
      | nil => rw [List.map_nil, runEach, runEach] <;> simp
      | cons slot slots =>
          obtain ⟨sameCalls, sameRest⟩ := List.forall_mem_cons.1 same
          obtain ⟨wideSlot, wideSlots⟩ := List.forall_mem_cons.1 wide
          rw [List.map_cons, runEach, runEach]
          simp only [runAll_toCell sameCalls wideSlot, inductionHypothesis sameRest wideSlots,
            List.map_cons]

/-- A call on a cell gives the reply of its slot, and leaves the cell of what the slot becomes. -/
theorem run_toCell (call : Call) {slot : Slot} (wide : slot.shape.IsWide) :
    call.run slot.toCell = ((call.run slot).1, (call.run slot).2.toCell) := by
  induction call using Call.induct generalizing slot with
  | kind => rw [Call.run, Call.run, kind_toCell]
  | zero => rw [Call.run, Call.run, setZero_toCell wide]
  | ofScalar scalar =>
      rw [Call.run_ofScalar, Call.run_ofScalar, store_toCell wide]
      cases Field.store slot scalar <;> rfl
  | sequence length each inductionHypothesis =>
      rw [Call.run, Call.run, newElements_toCell wide]
      cases opened : Field.newElements slot length with
      | error refusal => rfl
      | ok elements =>
          obtain ⟨element, isSequence, sameShape⟩ := newElements_eq_ok opened
          have wideElements := isWide_of_newElements wide opened
          have sameAfter : ∀ new ∈ (runEach each elements).2, new.shape = element :=
            forall_typeOf_of_map (map_typeOf_runEach each elements) sameShape
          have ran := runEach_toCell
            (fun calls member call memberCall slot wide =>
              inductionHypothesis calls member call memberCall wide) wideElements
          simp only [Except.map, ran, withElements_toCell isSequence sameAfter]
  | optional inner inductionHypothesis =>
      rw [Call.run, Call.run, content_toCell wide]
      cases opened : Field.content slot with
      | error refusal => rfl
      | ok content =>
          have isOptional := content_eq_ok opened
          rw [isOptional] at wide
          have ran := runAll_toCell
            (fun call member slot wide => inductionHypothesis call member wide) wide.inner
          have sameShape : (runAll inner content).2.shape = content.shape :=
            typeOf_runAll inner content
          rw [← sameShape] at isOptional
          simp only [Except.map, ran, withContent_toCell isOptional]

end Slot

end RecordTags
