import RecordTags.Keyed
import RecordTags.Span

/-!
Contract: structured messages about a tag.

Owns:
- `Code`, the stable identifiers of everything that can be reported, in five
  groups: scanning (10xx), grammar (11xx), numbers (12xx), argument order
  (13xx) and binding (14xx), each with its explanation;
- `Severity` and `Diagnostic`, with the one-line form of a diagnostic.

A diagnostic carries its identifier as text, since a decoded diagnostic may
name one that this library does not know.
-/

namespace RecordTags

inductive Code where
  | badCharacter
  | unterminatedString
  | missingValue
  | unexpectedToken
  | invalidEscape
  | integerOverflow
  | illegalNumber
  | positionalAfterKeyword
  | unknownField
  | indexOutOfRange
  | typeMismatch
  | valueOutOfRange
  | keyIgnored
  | tagSkipped
deriving DecidableEq, Repr

namespace Code

/-- Every code, in ascending order of identifiers. -/
def all : List Code :=
  [badCharacter, unterminatedString, missingValue, unexpectedToken, invalidEscape,
    integerOverflow, illegalNumber, positionalAfterKeyword, unknownField, indexOutOfRange,
    typeMismatch, valueOutOfRange, keyIgnored, tagSkipped]

def id : Code → String
  | badCharacter => "TAG1001"
  | unterminatedString => "TAG1002"
  | missingValue => "TAG1003"
  | unexpectedToken => "TAG1101"
  | invalidEscape => "TAG1102"
  | integerOverflow => "TAG1201"
  | illegalNumber => "TAG1202"
  | positionalAfterKeyword => "TAG1301"
  | unknownField => "TAG1401"
  | indexOutOfRange => "TAG1402"
  | typeMismatch => "TAG1403"
  | valueOutOfRange => "TAG1404"
  | keyIgnored => "TAG1405"
  | tagSkipped => "TAG1406"

/-- What the code means and what to do about it. -/
def explanation : Code → String
  | badCharacter =>
    "The scanner met a character that cannot appear at this point. Tags allow " ++
    "identifiers, numbers, quoted strings, nil/true/false, the ~ and ! switch " ++
    "prefixes, and the separators ',', ';' and '='. Whitespace is only allowed " ++
    "inside quotes."
  | unterminatedString =>
    "A quoted string was opened but the matching closing quote never appeared " ++
    "before the end of the tag."
  | missingValue =>
    "An '=' or ';' must be followed by a value, but the tag ended instead."
  | unexpectedToken =>
    "The token is valid on its own but not at this position. Arguments are " ++
    "separated by ',' and a switch (~name or !name) cannot take a value."
  | invalidEscape =>
    "A backslash inside a quoted string must be followed by a recognised escape " ++
    "such as \\n, \\t, \\\\, \\', \\\" or \\xHH."
  | integerOverflow =>
    "The literal looks like an integer but is too large for a 64-bit signed or " ++
    "unsigned integer. Add a fraction or exponent to make it a float."
  | illegalNumber =>
    "The literal is not a valid signed integer, unsigned integer or float."
  | positionalAfterKeyword =>
    "Positional arguments must all come before the first keyword or switch " ++
    "argument."
  | unknownField =>
    "A keyword or switch names a field that the target record does not have."
  | indexOutOfRange =>
    "There are more positional arguments than fields in the target record."
  | typeMismatch =>
    "The value cannot be stored in the field: booleans and switches need a bool " ++
    "field, identifiers and strings a string field, numbers a numeric field with " ++
    "a matching interpretation, and lists a sequence field."
  | valueOutOfRange =>
    "The number is valid but does not fit the width of the target field."
  | keyIgnored =>
    "Unknown keys are set to be ignored, so this keyword was skipped. Check its " ++
    "spelling if it was meant to set a field."
  | tagSkipped =>
    "A tag consisting of exactly '-' means \"ignore this tag\"; the record keeps " ++
    "its current values."

def ofId? (id : String) : Option Code := all.find? (·.id == id)

end Code

/-- The explanation of an identifier, if it is one of this library's. -/
def explain? (id : String) : Option String := (Code.ofId? id).map Code.explanation

inductive Severity where
  | error
  | warn
  | info
deriving DecidableEq, Repr

namespace Severity

def all : List Severity := [error, warn, info]

/-- The name, which is also its encoded form. -/
def name : Severity → String
  | error => "error"
  | warn => "warn"
  | info => "info"

end Severity

/-- A message about a tag, with where it applies and what it is about. -/
structure Diagnostic where
  id : String
  severity : Severity
  message : String
  span : Option Span
  context : Option (Keyed String)
deriving DecidableEq, Repr

namespace Diagnostic

/-- A diagnostic of a known code, without context. -/
def ofCode (severity : Severity) (code : Code) (message : String) (span : Option Span) :
    Diagnostic :=
  { id := code.id, severity, message, span, context := none }

def explanation? (diagnostic : Diagnostic) : Option String := explain? diagnostic.id

def display (diagnostic : Diagnostic) : String :=
  diagnostic.severity.name ++ "[" ++ diagnostic.id ++ "]: " ++ diagnostic.message

def isError (diagnostic : Diagnostic) : Bool := diagnostic.severity == .error

end Diagnostic

end RecordTags
