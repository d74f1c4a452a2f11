import RecordTags.Diagnostic
import RecordTags.Text.Quoted
import RecordTags.Text.Split

/-!
Contract: the tokens of a tag.

Owns:
- `TokenKind`, `LexFault` and `Token`, with the words used for them in messages;
- which kinds end a token sequence.

Does not own: how tokens are found; that is `RecordTags.Token.Scan`.
-/

namespace RecordTags

open RecordTags.Text

inductive LexFault where
  /-- A character that cannot stand where it does. -/
  | badCharacter (character : Char)
  /-- The text ended inside quotes. -/
  | unterminatedString
  /-- The text ended after `=` or `;`. -/
  | missingValue
deriving DecidableEq, Repr

namespace LexFault

def code : LexFault → Code
  | badCharacter _ => .badCharacter
  | unterminatedString => .unterminatedString
  | missingValue => .missingValue

def message : LexFault → String
  | badCharacter character => "bad character " ++ namedChar character
  | unterminatedString => "unterminated quoted string"
  | missingValue => "assignment missing value"

def name : LexFault → String
  | badCharacter _ => "badCharacter"
  | unterminatedString => "unterminatedString"
  | missingValue => "missingValue"

end LexFault

inductive TokenKind where
  | error (fault : LexFault)
  | eof
  | nil
  | bool
  | number
  | string
  | identifier
  | enable
  | disable
  | assign
  | listSeparator
  | argumentSeparator
deriving DecidableEq, Repr

namespace TokenKind

/-- Whether no token follows one of this kind. -/
def isTerminal : TokenKind → Bool
  | error _ | eof => true
  | _ => false

def name : TokenKind → String
  | error _ => "error"
  | eof => "eof"
  | nil => "nil"
  | bool => "bool"
  | number => "number"
  | string => "string"
  | identifier => "identifier"
  | enable => "enable"
  | disable => "disable"
  | assign => "assign"
  | listSeparator => "listSeparator"
  | argumentSeparator => "argumentSeparator"

end TokenKind

/-- A token: its class, its text and where it stands. The text of an error
token is the message; the text of any other token is the source text. -/
structure Token where
  kind : TokenKind
  text : String
  span : Span
deriving DecidableEq, Repr

namespace Token

/-- A token whose text stands at `start`. -/
def ofText (kind : TokenKind) (start : Nat) (text : List Char) : Token :=
  { kind, text := String.ofList text, span := ⟨start, start + byteLength text⟩ }

/-- The empty token that ends a successful scan. -/
def endAt (position : Nat) : Token := ofText .eof position []

def ofFault (fault : LexFault) (span : Span) : Token :=
  { kind := .error fault, text := fault.message, span }

/-- How messages name the token. -/
def describe (token : Token) : String :=
  match token.kind with
  | .eof => "end of input"
  | .error _ => token.text
  | .enable | .disable => "switch prefix '" ++ token.text ++ "'"
  | .assign | .listSeparator | .argumentSeparator => "'" ++ token.text ++ "'"
  | .identifier => "identifier " ++ quoted token.text
  | .string => "string " ++ token.text
  | .number => "number " ++ token.text
  | .nil | .bool => quoted token.text

end Token

end RecordTags
