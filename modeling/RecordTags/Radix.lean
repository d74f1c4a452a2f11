import RecordTags.Text.Character

/-!
Contract: the bases of numerals.

Owns: `Radix`, the letter that selects a base after a leading zero, and the
characters that digits and exponents are made of in each base.
-/

namespace RecordTags

open RecordTags.Text

inductive Radix where
  | binary
  | octal
  | decimal
  | hexadecimal
deriving DecidableEq, Repr

namespace Radix

def base : Radix → Nat
  | binary => 2
  | octal => 8
  | decimal => 10
  | hexadecimal => 16

/-- The base that the letter after a leading zero selects, in either case. -/
def ofLetter? (letter : Char) : Option Radix :=
  if letter == 'b' || letter == 'B' then some binary
  else if letter == 'o' || letter == 'O' then some octal
  else if letter == 'x' || letter == 'X' then some hexadecimal
  else none

/-- What a run of digits may hold; underscores group digits. -/
def isDigitOrUnderscore (radix : Radix) (c : Char) : Bool :=
  c == '_' || isDigitIn radix.base c

/-- The letter that introduces an exponent, where the base has exponents. -/
def isExponentMark : Radix → Char → Bool
  | decimal, c => c == 'e' || c == 'E'
  | hexadecimal, c => c == 'p' || c == 'P'
  | _, _ => false

end Radix

end RecordTags
