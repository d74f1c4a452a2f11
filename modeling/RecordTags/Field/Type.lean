import RecordTags.Field.Kind
import RecordTags.Json.Decode
import RecordTags.Text.Quoted
import RecordTags.Text.Trim

/-!
Contract: the types that a field of a schema can have.

A type is `bool`, `int`, `uint`, `float` or `string`, an optional type `?T`, or
a sequence type `[T]`. White space may stand around any part.

Owns: the types, their text and its reading. A text that is no type is reported
with the innermost part that has no meaning.
-/

namespace RecordTags

open RecordTags.Text

inductive FieldType where
  | bool
  | int
  | uint
  | float
  | string
  | optional (inner : FieldType)
  | sequence (element : FieldType)
deriving DecidableEq, Repr

namespace FieldType

/-- The storage class of fields of this type. -/
def kind : FieldType → FieldKind
  | bool => .bool
  | int => .int
  | uint => .uint
  | float => .float
  | string => .string
  | optional _ => .optional
  | sequence _ => .sequence

def chars : FieldType → List Char
  | bool => ['b', 'o', 'o', 'l']
  | int => ['i', 'n', 't']
  | uint => ['u', 'i', 'n', 't']
  | float => ['f', 'l', 'o', 'a', 't']
  | string => ['s', 't', 'r', 'i', 'n', 'g']
  | optional inner => '?' :: inner.chars
  | sequence element => '[' :: element.chars ++ [']']

def render (type : FieldType) : String := String.ofList type.chars

/-- The types without parts. -/
def scalars : List FieldType := [bool, int, uint, float, string]

/-- The type that a name without parts denotes, or the name. -/
def ofName (name : List Char) : Except (List Char) FieldType :=
  match scalars.find? (·.chars == name) with
  | some type => .ok type
  | none => .error name

/-- The type that a text denotes, or the part of it that has no meaning. -/
def ofChars (text : List Char) : Except (List Char) FieldType :=
  match trimmed : trim text with
  | '?' :: inner =>
    have := length_lt_of_trim trimmed
    (ofChars inner).map optional
  | '[' :: rest =>
    if rest.getLast? == some ']' then
      have := length_lt_of_trim trimmed
      (ofChars rest.dropLast).map sequence
    else ofName ('[' :: rest)
  | name => ofName name
termination_by text.length
decreasing_by
  · omega
  · rw [List.length_dropLast]
    omega

/-- The type that a text denotes, or the part of it that has no meaning. -/
def parse (text : String) : Except String FieldType :=
  (ofChars text.toList).mapError String.ofList

def unknownMessage (written : String) : String :=
  "unknown field type " ++ quoted written ++
    " (expected bool, int, uint, float, string, ?T or [T])"

def toJson (type : FieldType) : Json := .string type.render

def decode : Json.Decoder FieldType
  | .string text => (parse text).mapError .unknownType
  | _ => .error .shape

end FieldType

end RecordTags
