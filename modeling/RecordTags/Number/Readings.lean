import RecordTags.Diagnostic
import RecordTags.Number.Float

/-!
Contract: all readings of a numeric literal.

Owns: `Readings` and `Readings.ofText`, which reads a text as a signed integer,
as an unsigned integer and as a double.

Integer readings come first. Where there is one, the double is its conversion.
Otherwise the text is read as a floating-point literal, and a whole number
within range is also an integer. A text without point and exponent is never
read as a double alone: it is an integer that is too large, or no number.
-/

namespace RecordTags

open RecordTags.Text

/-- What a numeric literal can be read as. -/
structure Readings where
  int : Option Int64
  uint : Option UInt64
  float : Option Binary64
deriving DecidableEq

inductive NumberFault where
  | integerOverflow
  | illegalNumber
deriving DecidableEq, Repr

namespace NumberFault

def code : NumberFault → Code
  | integerOverflow => .integerOverflow
  | illegalNumber => .illegalNumber

/-- What is wrong, in front of the quoted literal. -/
def summary : NumberFault → String
  | integerOverflow => "integer overflow"
  | illegalNumber => "illegal number syntax"

end NumberFault

namespace Readings

/-- The signed reading of a whole number, if it is in range. -/
def int64? (n : Int) : Option Int64 :=
  if -(Number.signedBound : Int) ≤ n && n < (Number.signedBound : Int) then some (.ofInt n)
  else none

/-- The unsigned reading of a whole number, if it is in range. -/
def uint64? (n : Int) : Option UInt64 :=
  if 0 ≤ n && n < (Number.unsignedBound : Int) then some (.ofNat n.toNat) else none

/-- The readings of a floating-point number: a whole number in range is also
an integer. -/
def ofDouble (x : Binary64) : Readings :=
  { int := x.toInt?.bind int64?
    uint := x.toInt?.bind uint64?
    float := some x }

/-- Whether a text has a point or an exponent, or could pass for one. -/
def looksFractional (text : List Char) : Bool :=
  text.any fun c => c == '.' || c == 'e' || c == 'E' || c == 'p' || c == 'P'

/-- The readings of a text that has no integer reading. -/
def ofFloatText (overflowed : Bool) (text : List Char) : Except NumberFault Readings :=
  match Number.readFloat? text with
  | none => .error .illegalNumber
  | some x =>
    if looksFractional text then .ok (ofDouble x)
    else if overflowed then .error .integerOverflow
    else .error .illegalNumber

def ofText (text : List Char) : Except NumberFault Readings :=
  match Number.readSigned text, Number.readUnsigned text with
  | .ok n, unsigned =>
    let uint := if n = 0 then some 0 else unsigned.toOption.map UInt64.ofNat
    .ok { int := some (.ofInt n), uint, float := some (.ofInt n) }
  | .error _, .ok n => .ok { int := none, uint := some (.ofNat n), float := some (.ofInt n) }
  | .error signed, .error unsigned =>
    ofFloatText (signed == .tooLarge || unsigned == .tooLarge) text

end Readings

end RecordTags
