import RecordTags.Json

/-!
Contract: what a field holds, seen from outside.

Every kind of field has a view as a `Stored` value, so fields that are kept in
different ways can be compared and written alike. Integers are shown without
their width.
-/

namespace RecordTags

/-- The value that a field holds. -/
inductive Stored where
  | bool (value : Bool)
  | int (value : Int)
  | uint (value : Nat)
  | single (value : Binary32)
  | double (value : Binary64)
  | text (value : String)
  | optional (content : Option Stored)
  | sequence (elements : List Stored)

namespace Stored

mutual

/-- The value as JSON: an absent value is null, and a present optional value
is written like what it holds. -/
def toJson : Stored → Json
  | .bool value => .bool value
  | .int value => .int value
  | .uint value => .nat value
  | .single value => .float value.convert
  | .double value => .float value
  | .text value => .string value
  | .optional none => .null
  | .optional (some content) => content.toJson
  | .sequence elements => .array (elementsToJson elements)

def elementsToJson : List Stored → List Json
  | [] => []
  | element :: rest => element.toJson :: elementsToJson rest

end

end Stored

end RecordTags
