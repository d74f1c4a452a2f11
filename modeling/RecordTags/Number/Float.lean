import RecordTags.Binary
import RecordTags.Number.Integer
import RecordTags.Text.Numeral

/-!
Contract: floating-point literals.

Owns: the reading of a text as a double-precision number, written in decimal
(`1.5e3`) or in hexadecimal with a binary exponent (`0x1.8p3`).

A decimal literal is rounded once. A hexadecimal literal keeps its first
sixteen significant digits; they are rounded to a double, and their product
with the power of two is rounded once more. A literal whose number is too
large to be finite has no reading.
-/

namespace RecordTags.Number

open RecordTags.Text

/-! ## Parts of a literal -/

/-- The parts of a decimal literal: digits before and behind the point, and
the digits of the exponent with its sign. -/
structure DecimalParts where
  whole : List Char
  fraction : List Char
  exponentNegative : Bool
  exponent : List Char
deriving DecidableEq, Repr

/-- The values of digits in a base, as far as the characters are digits. -/
def digitValues (base : Nat) (text : List Char) : List Nat :=
  text.filterMap (digitValue? base)

/-- An exponent behind its mark: a sign and at least one decimal digit, and
nothing else. -/
def exponentParts? (text : List Char) : Option (Bool × List Char) :=
  let (negative, digits) := signAndBody text
  if !digits.isEmpty && digits.all isAsciiDigit then some (negative, digits) else none

/-- The parts of a decimal literal without sign and underscores. At least one
digit stands before or behind the point. -/
def decimalParts? (text : List Char) : Option DecimalParts :=
  let whole := text.takeWhile isAsciiDigit
  let afterWhole := text.dropWhile isAsciiDigit
  let (fraction, afterFraction) := match afterWhole with
    | '.' :: rest => (rest.takeWhile isAsciiDigit, rest.dropWhile isAsciiDigit)
    | rest => ([], rest)
  if whole.isEmpty && fraction.isEmpty then none
  else
    match afterFraction with
    | [] => some ⟨whole, fraction, false, []⟩
    | mark :: rest =>
      if Radix.decimal.isExponentMark mark then
        (exponentParts? rest).map fun (negative, exponent) =>
          ⟨whole, fraction, negative, exponent⟩
      else none

/-- The parts of a hexadecimal literal behind `0x`. The exponent is always
present, and at least one digit stands before or behind the point. -/
def hexadecimalParts? (text : List Char) : Option DecimalParts :=
  let isMark := Radix.hexadecimal.isExponentMark
  let mantissa := text.takeWhile (!isMark ·)
  let whole := mantissa.takeWhile (· != '.')
  let fraction := (mantissa.dropWhile (· != '.')).drop 1
  if (whole.isEmpty && fraction.isEmpty) || !(whole ++ fraction).all (isDigitIn 16) then none
  else
    match text.dropWhile (!isMark ·) with
    | [] => none
    | _ :: rest =>
      (exponentParts? rest).map fun (negative, exponent) => ⟨whole, fraction, negative, exponent⟩

/-! ## Decimal literals -/

/-- The double nearest to `digits * 10 ^ exponent`. Beyond four hundred places
the result is infinite or zero whatever the digits are. -/
def nearestDouble (digits : Nat) (exponent : Int) : Binary64 :=
  let places := exponent + (Nat.toDigits 10 digits).length
  if digits = 0 || places < -400 then .zero false
  else if 400 < places then .infinity false
  else .ofRatio false (digits * Nat.pow 10 exponent.toNat) (Nat.pow 10 (-exponent).toNat)

def DecimalParts.toDouble (parts : DecimalParts) : Binary64 :=
  let exponent : Int := ofDigits 10 (digitValues 10 parts.exponent)
  nearestDouble (ofDigits 10 (digitValues 10 (parts.whole ++ parts.fraction)))
    ((if parts.exponentNegative then -exponent else exponent) - parts.fraction.length)

/-! ## Hexadecimal literals -/

/-- The significant digits of a hexadecimal mantissa: `bits * 2 ^ scale`. -/
structure HexMantissa where
  bits : Nat
  kept : Nat
  scale : Int
deriving DecidableEq, Repr

namespace HexMantissa

/-- The number of significant digits that are kept. -/
def capacity : Nat := 16

/-- Takes in one more digit. Leading zeros are not significant, and a digit
beyond the capacity only counts as a place. -/
def push (inFraction : Bool) (mantissa : HexMantissa) (digit : Nat) : HexMantissa :=
  if mantissa.bits = 0 && digit = 0 then
    if inFraction then { mantissa with scale := mantissa.scale - 4 } else mantissa
  else if mantissa.kept < capacity then
    { bits := mantissa.bits * 16 + digit
      kept := mantissa.kept + 1
      scale := if inFraction then mantissa.scale - 4 else mantissa.scale }
  else if inFraction then mantissa
  else { mantissa with scale := mantissa.scale + 4 }

/-- The mantissa of the digits before and behind the point. -/
def ofDigits (whole fraction : List Nat) : HexMantissa :=
  fraction.foldl (push true) (whole.foldl (push false) ⟨0, 0, 0⟩)

/-- Exponents are clamped to this magnitude, beyond which every result is zero
or infinite. -/
def exponentLimit : Int := 10000

/-- The power of two that the mantissa is multiplied by, for a written
exponent. -/
def totalScale (mantissa : HexMantissa) (exponentNegative : Bool) (exponent : Nat) : Int :=
  let magnitude := min (exponent : Int) exponentLimit
  let written := if exponentNegative then -magnitude else magnitude
  max (-exponentLimit) (min exponentLimit (mantissa.scale + written))

end HexMantissa

def DecimalParts.toDoubleHex (parts : DecimalParts) : Binary64 :=
  let mantissa :=
    HexMantissa.ofDigits (digitValues 16 parts.whole) (digitValues 16 parts.fraction)
  if mantissa.bits = 0 then .zero false
  else
    let rounded : Binary64 := .ofInt mantissa.bits
    rounded.scale (mantissa.totalScale parts.exponentNegative
      (ofDigits 10 (digitValues 10 parts.exponent)))

/-! ## The reading -/

/-- The double that a literal without sign and underscores denotes. -/
def readMagnitude? (body : List Char) : Option Binary64 :=
  match body with
  | '0' :: letter :: rest =>
    if Radix.ofLetter? letter == some .hexadecimal then
      (hexadecimalParts? rest).map DecimalParts.toDoubleHex
    else (decimalParts? body).map DecimalParts.toDouble
  | _ => (decimalParts? body).map DecimalParts.toDouble

def readFloat? (text : List Char) : Option Binary64 :=
  let (negative, body) := signAndBody text
  if body.contains '_' && !isGrouped text then none
  else
    match readMagnitude? (body.filter (· != '_')) with
    | none => none
    | some magnitude =>
      if magnitude.isFinite then some (if negative then magnitude.neg else magnitude) else none

end RecordTags.Number
