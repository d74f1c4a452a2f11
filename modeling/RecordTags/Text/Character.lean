import RecordTags.Text.Property.Alphabetic
import RecordTags.Text.Property.GraphemeExtend
import RecordTags.Text.Property.Lowercase
import RecordTags.Text.Property.LowercaseMapping
import RecordTags.Text.Property.Numeric
import RecordTags.Text.Property.Unprintable
import RecordTags.Text.Property.Uppercase
import RecordTags.Text.Property.WhiteSpace

/-!
Contract: the character classes and the case mapping that the library uses.

Owns:
- the Unicode classes, as membership in the property tables;
- the classes of the tag grammar: what may start or continue a name, what may
  start a number, what ends a token;
- how a class is decided for the characters of a list.

Does not own: the tables themselves.
-/

namespace RecordTags.Text

/-! ## Unicode classes -/

def isAlphabetic (c : Char) : Bool := isIn Property.alphabetic c

/-- Numerals of every kind: digits, letter-like numerals, fractions, superscripts. -/
def isNumeric (c : Char) : Bool := isIn Property.numeric c

def isUppercase (c : Char) : Bool := isIn Property.uppercase c

def isLowercase (c : Char) : Bool := isIn Property.lowercase c

def isWhiteSpace (c : Char) : Bool := isIn Property.whiteSpace c

/-- General category Cc. -/
def isControl (c : Char) : Bool :=
  c.toNat ≤ 0x1F || (0x7F ≤ c.toNat && c.toNat ≤ 0x9F)

/-- Whether the character shows as itself: it has a visible form and does not
attach to the character before it. -/
def isVisible (c : Char) : Bool :=
  !isIn Property.unprintable c && !isIn Property.graphemeExtend c

/-- The small form of one character, without regard to its neighbours. Capital
I with a dot becomes `i` and a combining dot; every other character maps to
one character. -/
def toLowercase (c : Char) : List Char :=
  if c.toNat = 0x130 then
    ['i', Char.ofNat 0x307]
  else
    match shifted? Property.lowercaseMapping c.toNat with
    | some codePoint => [Char.ofNat codePoint]
    | none => [c]

/-! ## Digits -/

def isAsciiDigit (c : Char) : Bool := '0' ≤ c && c ≤ '9'

/-- The value of a digit in a base of at most sixteen, letters in either case. -/
def digitValue? (base : Nat) (c : Char) : Option Nat :=
  let value? :=
    if '0' ≤ c && c ≤ '9' then some (c.toNat - '0'.toNat)
    else if 'a' ≤ c && c ≤ 'f' then some (c.toNat - 'a'.toNat + 10)
    else if 'A' ≤ c && c ≤ 'F' then some (c.toNat - 'A'.toNat + 10)
    else none
  value?.filter (· < base)

def isDigitIn (base : Nat) (c : Char) : Bool := (digitValue? base c).isSome

/-! ## Classes of the tag grammar -/

/-- White space that ends a token. It is never part of a tag outside quotes. -/
def isSpace (c : Char) : Bool :=
  c == ' ' || c == '\t' || c == '\r' || c == '\n'

def isSign (c : Char) : Bool := c == '+' || c == '-'

/-- What may begin a numeric literal. -/
def isNumericStart (c : Char) : Bool := isSign c || isAsciiDigit c

/-- Letters. Letter-like numerals are alphabetic but count as numbers here. -/
def isLetter (c : Char) : Bool := isAlphabetic c && !isNumeric c

/-- What may begin a name or a reserved word. -/
def isNameStart (c : Char) : Bool := isLetter c

/-- What may continue a name. Of the digits only the ASCII ones may. -/
def isNameContinue (c : Char) : Bool :=
  c == '_' || c == '-' || isAsciiDigit c || isLetter c

/-- What may follow a name or a number directly. -/
def isTerminator (c : Char) : Bool :=
  isSpace c || c == ',' || c == ';' || c == '='

/-! ## Deciding a class for the characters of a list -/

/-- Walks the list. It stands before the search over all characters, which
would decide the same statement but never end. -/
instance (priority := high) decidableForallMem (text : List Char) (p : Char → Prop)
    [DecidablePred p] : Decidable (∀ c ∈ text, p c) :=
  List.decidableBAll p text

end RecordTags.Text
