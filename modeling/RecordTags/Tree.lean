import RecordTags.Number.Readings
import RecordTags.Span

/-!
Contract: the tree of a tag.

Owns: the values, arguments and argument lists that a tag consists of, each
with its place in the text.

The type admits trees that no tag has, such as nested or empty slices; which
trees are trees of tags is a property, not part of the type.
-/

namespace RecordTags

structure Identifier where
  name : String
  span : Span
deriving DecidableEq, Repr

/-- A quoted string: as written, quotes and escapes included, and its content. -/
structure QuotedString where
  quoted : String
  text : String
  span : Span
deriving DecidableEq, Repr

structure NumberLiteral extends Readings where
  text : String
  span : Span
deriving DecidableEq

inductive ValueKind where
  | nil
  | bool
  | number
  | string
  | identifier
  | slice
  | switch
deriving DecidableEq, Repr

namespace ValueKind

/-- The name of a kind, in messages and in encoded trees. -/
def name : ValueKind → String
  | nil => "nil"
  | bool => "bool"
  | number => "number"
  | string => "string"
  | identifier => "identifier"
  | slice => "slice"
  | switch => "switch"

/-- All kinds; the place of a kind in the list is its number. -/
def all : List ValueKind := [nil, bool, number, string, identifier, slice, switch]

def ofName? (name : String) : Option ValueKind := all.find? (·.name == name)

end ValueKind

inductive Value where
  | nil (span : Span)
  | bool (value : Bool) (span : Span)
  | number (literal : NumberLiteral)
  | string (literal : QuotedString)
  | identifier (identifier : Identifier)
  /-- Values separated by `;`. -/
  | slice (values : List Value) (span : Span)
  /-- A name switched on by `~` or off by `!`. -/
  | switch (name : Identifier) (enabled : Bool) (span : Span)

namespace Value

def span : Value → Span
  | nil span | bool _ span | slice _ span | switch _ _ span => span
  | number literal => literal.span
  | string literal => literal.span
  | identifier name => name.span

def kind : Value → ValueKind
  | nil _ => .nil
  | bool _ _ => .bool
  | number _ => .number
  | string _ => .string
  | identifier _ => .identifier
  | slice _ _ => .slice
  | switch _ _ _ => .switch

end Value

/-- An argument. Keyword arguments and switches have a name, positional
arguments have none. -/
structure Argument where
  name : Option Identifier
  value : Value
  span : Span

namespace Argument

def isKeyword (argument : Argument) : Bool := argument.name.isSome

/-- The name that addresses the argument. -/
def key? (argument : Argument) : Option String := argument.name.map Identifier.name

end Argument

/-- The arguments of one tag in the order of the text. -/
structure Tree where
  args : List Argument
  span : Span

/-! ## Sameness -/

/-- Equality of readings, doubles compared by value. -/
def Readings.same (left right : Readings) : Bool :=
  left.int == right.int && left.uint == right.uint &&
    match left.float, right.float with
    | none, none => true
    | some x, some y => x.sameValue y
    | _, _ => false

mutual

/-- Equality of values, spans included, doubles compared by value. -/
def Value.same : Value → Value → Bool
  | .nil span, .nil span' => span == span'
  | .bool value span, .bool value' span' => value == value' && span == span'
  | .number literal, .number literal' =>
    literal.text == literal'.text && literal.span == literal'.span &&
      literal.toReadings.same literal'.toReadings
  | .string literal, .string literal' => literal == literal'
  | .identifier identifier, .identifier identifier' => identifier == identifier'
  | .slice values span, .slice values' span' => sameValues values values' && span == span'
  | .switch name enabled span, .switch name' enabled' span' =>
    name == name' && enabled == enabled' && span == span'
  | _, _ => false

def sameValues : List Value → List Value → Bool
  | [], [] => true
  | value :: rest, value' :: rest' => value.same value' && sameValues rest rest'
  | _, _ => false

end

def Argument.same (left right : Argument) : Bool :=
  left.name == right.name && left.value.same right.value && left.span == right.span

def Tree.same (left right : Tree) : Bool :=
  left.args.length == right.args.length &&
    (left.args.zip right.args).all (fun (argument, argument') => argument.same argument') &&
    left.span == right.span

end RecordTags
