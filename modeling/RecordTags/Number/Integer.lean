import RecordTags.Number.Grouping

/-!
Contract: integer literals.

Owns: the readings of a text as an unsigned and as a signed 64-bit integer.

A base is selected by `0b`, `0o` or `0x`, each in either case and with at least
one more character, or by a leading zero alone, which selects base eight. The
digits are read from the left, and the first character that is no digit, or the
first digit that makes the number too large, decides why a text has no reading.
-/

namespace RecordTags.Number

open RecordTags.Text

/-- Why a text has no reading of some kind. -/
inductive Unread where
  | malformed
  | tooLarge
deriving DecidableEq, Repr

def unsignedBound : Nat := Nat.pow 2 64

/-- The bound of signed readings: they are at least its negation and below it. -/
def signedBound : Nat := Nat.pow 2 63

/-- The base of an unsigned numeral and the text of its digits. -/
def baseAndDigits (text : List Char) : Radix × List Char :=
  match text with
  | '0' :: letter :: next :: rest =>
    match Radix.ofLetter? letter with
    | some radix => (radix, next :: rest)
    | none => (.octal, letter :: next :: rest)
  | '0' :: rest => (.octal, rest)
  | _ => (.decimal, text)

/-- The number that digits denote behind digits that denote `total`.
Underscores are passed over. -/
def readDigits (base : Nat) : (total : Nat) → List Char → Except Unread Nat
  | total, [] => .ok total
  | total, c :: rest =>
    if c == '_' then readDigits base total rest
    else
      match digitValue? base c with
      | none => .error .malformed
      | some digit =>
        if total * base + digit < unsignedBound then readDigits base (total * base + digit) rest
        else .error .tooLarge

/-- The reading of a text as an unsigned integer. Signs are not part of it. -/
def readUnsigned (text : List Char) : Except Unread Nat :=
  match text with
  | [] => .error .malformed
  | c :: rest =>
    let (radix, digits) := baseAndDigits (c :: rest)
    match readDigits radix.base 0 digits with
    | .error unread => .error unread
    | .ok value =>
      if digits.contains '_' && !isGrouped (c :: rest) then .error .malformed else .ok value

/-- The reading of a text as a signed integer: a sign is optional. -/
def readSigned (text : List Char) : Except Unread Int :=
  let (negative, body) := signAndBody text
  match readUnsigned body with
  | .error unread => .error unread
  | .ok magnitude =>
    if negative then
      if magnitude ≤ signedBound then .ok (-(magnitude : Int)) else .error .tooLarge
    else if magnitude < signedBound then .ok magnitude
    else .error .tooLarge

end RecordTags.Number
