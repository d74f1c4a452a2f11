/-!
Contract: the storage classes of fields and the reasons to refuse a value.
-/

namespace RecordTags

/-- The storage class of a field. -/
inductive FieldKind where
  | bool
  | int
  | uint
  | float
  | string
  | optional
  | sequence
deriving DecidableEq, Repr

def FieldKind.name : FieldKind → String
  | bool => "bool"
  | int => "int"
  | uint => "uint"
  | float => "float"
  | string => "string"
  | optional => "optional"
  | sequence => "sequence"

inductive Refusal where
  /-- The field does not store values of this class. -/
  | unsupported
  /-- The value does not fit the width of the field. -/
  | outOfRange
deriving DecidableEq, Repr

def Refusal.message : Refusal → String
  | unsupported => "unsupported value for field"
  | outOfRange => "value out of range for field"

end RecordTags
