/-!
Contract: natural and whole numbers as digits in a base.

Owns:
- the writers `decimal`, `decimalInt` and `hexadecimal`, used by every printer
  of the library;
- `ofDigits`, the number that a list of digit values denotes;
- padding of a text to a width.

A writer emits no leading zero except for zero itself and for explicit padding.
-/

namespace RecordTags.Text

def decimal (n : Nat) : String := String.ofList (Nat.toDigits 10 n)

/-- Decimal digits, after a minus sign for negative numbers. -/
def decimalInt (n : Int) : String :=
  if n < 0 then "-" ++ decimal n.natAbs else decimal n.natAbs

/-- Lowercase hexadecimal digits, at least `width` of them. -/
def hexadecimal (width n : Nat) : String :=
  let digits := Nat.toDigits 16 n
  String.ofList (List.replicate (width - digits.length) '0' ++ digits)

/-- The number that a list of digit values denotes in a base. -/
def ofDigits (base : Nat) (values : List Nat) : Nat :=
  values.foldl (fun total digit => total * base + digit) 0

theorem ofDigits_append_singleton (base : Nat) (values : List Nat) (digit : Nat) :
    ofDigits base (values ++ [digit]) = ofDigits base values * base + digit := by
  simp [ofDigits]

theorem ofDigits_zero_cons (base : Nat) (values : List Nat) :
    ofDigits base (0 :: values) = ofDigits base values := by
  simp [ofDigits]

/-- Blanks in front, up to the given width in characters. -/
def padLeft (width : Nat) (text : String) : String :=
  String.ofList (List.replicate (width - text.toList.length) ' ') ++ text

/-- Blanks behind, up to the given width in characters. -/
def padRight (width : Nat) (text : String) : String :=
  text ++ String.ofList (List.replicate (width - text.toList.length) ' ')

end RecordTags.Text
