import RecordTags.Field.Kind
import RecordTags.Token
import RecordTags.Tree.Render

/-!
Contract: everything that can go wrong between the text of a tag and a record.

Owns: `TagError`, one constructor per cause, and the words, code, category,
span and field of each.
-/

namespace RecordTags

open RecordTags.Text

/-- A failure to read a tag or to bind it. -/
inductive TagError where
  /-- The scanner stopped. -/
  | lexical (fault : LexFault) (span : Span)
  /-- A token that cannot stand where it does. -/
  | unexpected (token : Token)
  /-- An escape without meaning, as written. -/
  | invalidEscape (source : String) (span : Span)
  /-- A literal that is no number. -/
  | numeric (fault : NumberFault) (text : String) (span : Span)
  /-- A positional argument behind a named one. -/
  | argumentOrder (span : Span)
  /-- A keyword that no field answers to. -/
  | unknownField (key : String) (span : Span)
  /-- A positional argument beyond the last field. -/
  | indexOutOfRange (index count : Nat) (span : Span)
  /-- A value that a field refused, with the storage class that refused it. -/
  | refused (refusal : Refusal) (value : Value) (kind : FieldKind) (field : String)

namespace TagError

inductive Category where
  | lexical
  | grammar
  | number
  | argumentOrder
  | binding
deriving DecidableEq, Repr

def Category.name : Category → String
  | lexical => "lexical"
  | grammar => "syntax"
  | number => "number"
  | argumentOrder => "argument-order"
  | binding => "binding"

def category : TagError → Category
  | lexical _ _ => .lexical
  | unexpected _ | invalidEscape _ _ => .grammar
  | numeric _ _ _ => .number
  | argumentOrder _ => .argumentOrder
  | unknownField _ _ | indexOutOfRange _ _ _ | refused _ _ _ _ => .binding

def code : TagError → Code
  | lexical fault _ => fault.code
  | unexpected _ => .unexpectedToken
  | invalidEscape _ _ => .invalidEscape
  | numeric fault _ _ => fault.code
  | argumentOrder _ => .positionalAfterKeyword
  | unknownField _ _ => .unknownField
  | indexOutOfRange _ _ _ => .indexOutOfRange
  | refused .unsupported _ _ _ => .typeMismatch
  | refused .outOfRange _ _ _ => .valueOutOfRange

def span : TagError → Span
  | lexical _ span | invalidEscape _ span | numeric _ _ span | argumentOrder span
  | unknownField _ span | indexOutOfRange _ _ span => span
  | unexpected token => token.span
  | refused _ value _ _ => value.span

/-- The field that was addressed, for failures of binding that have one. -/
def field? : TagError → Option String
  | unknownField key _ => some key
  | refused _ _ _ field => some field
  | _ => none

def message : TagError → String
  | lexical fault _ => fault.message
  | unexpected token => "unexpected " ++ token.describe
  | invalidEscape source _ => "invalid escape sequence " ++ quoted source
  | numeric fault text _ => fault.summary ++ ": " ++ quoted text
  | argumentOrder _ => "positional argument after keyword argument"
  | unknownField key _ => "unknown field " ++ quoted key
  | indexOutOfRange index count _ =>
    "positional argument #" ++ decimal index ++ " has no field; record has " ++ decimal count
  | refused .unsupported value kind field =>
    "cannot assign " ++ value.kind.name ++ " \x60" ++ value.render ++ "\x60 to " ++ kind.name ++
      " field " ++ quoted field
  | refused .outOfRange value kind field =>
    value.kind.name ++ " \x60" ++ value.render ++ "\x60 out of range for " ++ kind.name ++
      " field " ++ quoted field

/-- The failure at a token that cannot be used: the scanner's own fault if it
stopped there. -/
def ofToken (token : Token) : TagError :=
  match token.kind with
  | .error fault => .lexical fault token.span
  | _ => .unexpected token

/-- The failure as a diagnostic. Its context names the stage and the field. -/
def toDiagnostic (error : TagError) : Diagnostic :=
  let field := error.field?.toList.map fun field => ("field", field)
  { id := error.code.id
    severity := .error
    message := error.message
    span := some error.span
    context := some (("category", error.category.name) :: field) }

end TagError

end RecordTags
