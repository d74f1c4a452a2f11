import RecordTags.Field.Interface
import RecordTags.Field.Stored
import RecordTags.Field.Type

/-!
Contract: fields whose type is chosen at run time.

Owns: `Cell`, a declared type beside an untyped content, and its operations.
Scalars are written according to what the cell holds; optional cells and
sequences are opened according to what the type says. The two agree as long as
the content conforms to the type, which every operation keeps.
-/

namespace RecordTags

mutual

/-- A field with its declared type. -/
inductive Cell where
  | mk (type : FieldType) (content : CellContent)

inductive CellContent where
  | bool (value : Bool)
  | int (value : Int64)
  | uint (value : UInt64)
  | float (value : Binary64)
  | text (value : String)
  | optional (content : Option Cell)
  | sequence (elements : List Cell)

end

namespace CellContent

def zero : FieldType → CellContent
  | .bool => .bool false
  | .int => .int 0
  | .uint => .uint 0
  | .float => .float (.zero false)
  | .string => .text ""
  | .optional _ => .optional none
  | .sequence _ => .sequence []

end CellContent

namespace Cell

def type : Cell → FieldType
  | mk type _ => type

def held : Cell → CellContent
  | mk _ content => content

def zero (type : FieldType) : Cell := .mk type (.zero type)

end Cell

mutual

def Cell.stored : Cell → Stored
  | .mk _ content => content.stored

def CellContent.stored : CellContent → Stored
  | .bool value => .bool value
  | .int value => .int value.toInt
  | .uint value => .uint value.toNat
  | .float value => .double value
  | .text value => .text value
  | .optional none => .optional none
  | .optional (some cell) => .optional (some cell.stored)
  | .sequence elements => .sequence (storedElements elements)

def storedElements : List Cell → List Stored
  | [] => []
  | cell :: rest => cell.stored :: storedElements rest

end

namespace FieldType

/-- The optional layers of a type. -/
def layers : FieldType → Nat
  | optional inner => inner.layers + 1
  | _ => 0

end FieldType

namespace Cell

def setBool : Cell → Bool → Except Refusal Cell
  | .mk type (.bool _), value => .ok (.mk type (.bool value))
  | _, _ => .error .unsupported

def setInt : Cell → Int64 → Except Refusal Cell
  | .mk type (.int _), value => .ok (.mk type (.int value))
  | _, _ => .error .unsupported

def setUint : Cell → UInt64 → Except Refusal Cell
  | .mk type (.uint _), value => .ok (.mk type (.uint value))
  | _, _ => .error .unsupported

def setFloat : Cell → Binary64 → Except Refusal Cell
  | .mk type (.float _), value => .ok (.mk type (.float value))
  | _, _ => .error .unsupported

def setText : Cell → String → Except Refusal Cell
  | .mk type (.text _), value => .ok (.mk type (.text value))
  | _, _ => .error .unsupported

def newElements : Cell → Nat → Except Refusal (List Cell)
  | .mk (.sequence element) _, length => .ok (List.replicate length (.zero element))
  | _, _ => .error .unsupported

def withElements (cell : Cell) (elements : List Cell) : Cell :=
  .mk cell.type (.sequence elements)

def content : Cell → Except Refusal Cell
  | .mk (.optional inner) (.optional content) => .ok (content.getD (.zero inner))
  | _ => .error .unsupported

def withContent (cell : Cell) (content : Cell) : Cell :=
  .mk cell.type (.optional (some content))

end Cell

instance : Field Cell where
  kind cell := cell.type.kind
  setZero cell := .zero cell.type
  setBool := Cell.setBool
  setInt := Cell.setInt
  setUint := Cell.setUint
  setFloat := Cell.setFloat
  setText := Cell.setText
  newElements := Cell.newElements
  withElements := Cell.withElements
  content := Cell.content
  withContent := Cell.withContent
  layers cell := cell.type.layers

end RecordTags
