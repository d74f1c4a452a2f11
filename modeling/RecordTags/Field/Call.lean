import RecordTags.Field.Interface

/-!
Contract: scripts of field operations.

Owns: `Call`, one operation on a field with the calls made on what it opens,
and its reply. Calls on the elements of a sequence are given for the leading
elements, one list for each.
-/

namespace RecordTags

inductive Call where
  | kind
  | zero
  | bool (value : Bool)
  | int (value : Int64)
  | uint (value : UInt64)
  | float (value : Binary64)
  | text (value : String)
  | sequence (length : Nat) (each : List (List Call))
  | optional (inner : List Call)

inductive Reply where
  | kind (kind : FieldKind)
  | done
  | refused (refusal : Refusal)
  | each (replies : List (List Reply))
  | inner (replies : List Reply)

section

variable {F : Type} [Field F]

/-- The reply to a setter, and the field after it. -/
def Reply.ofResult (field : F) : Except Refusal F → Reply × F
  | .ok field => (.done, field)
  | .error refusal => (.refused refusal, field)

mutual

/-- Makes a call on a field: the reply, and the field after it. -/
def Call.run : Call → F → Reply × F
  | .kind, field => (.kind (Field.kind field), field)
  | .zero, field => (.done, Field.setZero field)
  | .bool value, field => Reply.ofResult field (Field.setBool field value)
  | .int value, field => Reply.ofResult field (Field.setInt field value)
  | .uint value, field => Reply.ofResult field (Field.setUint field value)
  | .float value, field => Reply.ofResult field (Field.setFloat field value)
  | .text value, field => Reply.ofResult field (Field.setText field value)
  | .sequence length each, field =>
    match Field.newElements field length with
    | .error refusal => (.refused refusal, field)
    | .ok elements =>
      let (replies, elements) := runEach each elements
      (.each replies, Field.withElements field elements)
  | .optional inner, field =>
    match Field.content field with
    | .error refusal => (.refused refusal, field)
    | .ok content =>
      let (replies, content) := runAll inner content
      (.inner replies, Field.withContent field content)

def runAll : List Call → F → List Reply × F
  | [], field => ([], field)
  | call :: rest, field =>
    let (reply, field) := call.run field
    let (replies, field) := runAll rest field
    (reply :: replies, field)

/-- Makes a list of calls on each of the leading fields. -/
def runEach : List (List Call) → List F → List (List Reply) × List F
  | calls :: rest, field :: fields =>
    let (replies, field) := runAll calls field
    let (others, fields) := runEach rest fields
    (replies :: others, field :: fields)
  | _, fields => ([], fields)

end

end

end RecordTags
