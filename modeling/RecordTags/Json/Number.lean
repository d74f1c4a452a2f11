import RecordTags.Json
import RecordTags.Number.Float

/-!
Contract: numbers in JSON texts.

Owns: the grammar of a JSON number and the value it denotes.

A number without fraction and exponent is a whole number if it fits 64 bits,
unsigned or, behind a minus sign, signed; minus zero is a double. Any other
number is a double, found in two roundings: the leading digits that fit an
unsigned 64-bit integer are converted, and the result is multiplied or divided
by a power of ten. A number that is too large for that is unreadable.
-/

namespace RecordTags.Json

open RecordTags.Text

structure NumberParts where
  negative : Bool
  whole : List Nat
  /-- The digits behind the point, if there is a point. -/
  fraction : Option (List Nat)
  /-- The sign and digits of the exponent, if there is one. -/
  exponent : Option (Bool × List Nat)
deriving DecidableEq, Repr

namespace NumberParts

/-- The parts of a text that is a JSON number: no needless leading zero, and
at least one digit in each part that is present. -/
def ofText? (text : List Char) : Option NumberParts :=
  let (negative, body) := match text with
    | '-' :: rest => (true, rest)
    | _ => (false, text)
  let whole := body.takeWhile isAsciiDigit
  let afterWhole := body.dropWhile isAsciiDigit
  let (fraction, afterFraction) := match afterWhole with
    | '.' :: rest => (some (rest.takeWhile isAsciiDigit), rest.dropWhile isAsciiDigit)
    | rest => (none, rest)
  let values := Number.digitValues 10
  let wholeIsPlain := match whole with
    | [] => false
    | '0' :: _ :: _ => false
    | _ => true
  if !wholeIsPlain || fraction == some [] then none
  else
    match afterFraction with
    | [] => some ⟨negative, values whole, fraction.map values, none⟩
    | mark :: rest =>
      if Radix.decimal.isExponentMark mark then
        (Number.exponentParts? rest).map fun (exponentNegative, digits) =>
          ⟨negative, values whole, fraction.map values, some (exponentNegative, values digits)⟩
      else none

/-- The leading digits that fit an unsigned 64-bit integer, and the power of
ten that they are multiplied by. -/
structure Leading where
  significand : Nat
  exponent : Int
  full : Bool
deriving DecidableEq, Repr

namespace Leading

/-- Takes in a digit before the point. Behind the first one that does not fit
each digit only counts as a place. -/
def pushWhole (leading : Leading) (digit : Nat) : Leading :=
  let next := leading.significand * 10 + digit
  if leading.full || Number.unsignedBound ≤ next then
    { leading with exponent := leading.exponent + 1, full := true }
  else { leading with significand := next }

/-- Takes in a digit behind the point. From the first one that does not fit on
all are dropped. -/
def pushFraction (leading : Leading) (digit : Nat) : Leading :=
  let next := leading.significand * 10 + digit
  if leading.full || Number.unsignedBound ≤ next then { leading with full := true }
  else { leading with significand := next, exponent := leading.exponent - 1 }

end Leading

def leading (parts : NumberParts) : Leading :=
  let ofWhole := parts.whole.foldl Leading.pushWhole ⟨0, 0, false⟩
  (parts.fraction.getD []).foldl Leading.pushFraction { ofWhole with full := false }

end NumberParts

/-- The greatest power of ten that a double can hold, as an exponent. -/
def greatestPower : Nat := 308

/-- The double nearest to a power of ten. -/
def powerOfTen (exponent : Nat) : Binary64 := .ofRatio false (Nat.pow 10 exponent) 1

/-- A positive double times a power of ten, if the result is finite. Small
powers are divided by in steps, each rounded. -/
def timesPowerOfTen? (x : Binary64) (exponent : Int) : Option Binary64 :=
  if exponent < -(greatestPower : Int) then
    if x.isZero then some x
    else timesPowerOfTen? (x.dividedBy (powerOfTen greatestPower)) (exponent + greatestPower)
  else if exponent < 0 then some (x.dividedBy (powerOfTen exponent.natAbs))
  else if exponent ≤ greatestPower then
    let product := x.times (powerOfTen exponent.natAbs)
    if product.isFinite then some product else none
  else if x.isZero then some x
  else none
termination_by exponent.natAbs
decreasing_by
  simp only [greatestPower] at *
  omega

/-- The greatest exponent that is computed with; a greater one makes the
number zero or too large at once. -/
def greatestExponent : Nat := Nat.pow 2 31 - 1

/-- The double that the parts of a number denote, if it is in range. -/
def NumberParts.toDouble? (parts : NumberParts) : Option Binary64 :=
  let leading := parts.leading
  let signed (x : Binary64) : Binary64 := if parts.negative then x.neg else x
  let rounded : Binary64 := .ofInt leading.significand
  match parts.exponent with
  | none => (timesPowerOfTen? rounded leading.exponent).map signed
  | some (exponentNegative, digits) =>
    let written := ofDigits 10 digits
    if greatestExponent < written then
      if leading.significand = 0 || exponentNegative then some (signed (.zero false)) else none
    else
      let exponent : Int := if exponentNegative then -(written : Int) else written
      (timesPowerOfTen? rounded (leading.exponent + exponent)).map signed

def NumberParts.value (parts : NumberParts) : Json :=
  let asDouble := match parts.toDouble? with
    | some x => Json.float x
    | none => Json.unreadable []
  match parts.fraction, parts.exponent with
  | none, none =>
    let magnitude := ofDigits 10 parts.whole
    if parts.negative then
      if 0 < magnitude && magnitude ≤ Number.signedBound then .int (-(magnitude : Int))
      else asDouble
    else if magnitude < Number.unsignedBound then .int magnitude
    else asDouble
  | _, _ => asDouble

end RecordTags.Json
