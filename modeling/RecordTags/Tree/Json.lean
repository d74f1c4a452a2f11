import RecordTags.Diagnostic.Json
import RecordTags.Tree

/-!
Contract: trees as JSON values.

Owns: the encoding of trees and its inverse. A value is an object whose member
`kind` names its kind; it may also be an array that starts with the name, and
inside a slice the kind may be a number. The name of an argument and the
readings of a number are left out when absent.

Decoding accepts trees that no tag has.
-/

namespace RecordTags

open RecordTags.Json

/-! ## Encoding -/

namespace Identifier

def toJson (identifier : Identifier) : Json :=
  .object [("name", .string identifier.name), ("span", identifier.span.toJson)]

end Identifier

def kindMember (kind : ValueKind) : String × Json := ("kind", .string kind.name)

mutual

def Value.toJson : Value → Json
  | .nil span => .object [kindMember .nil, ("span", span.toJson)]
  | .bool value span =>
    .object [kindMember .bool, ("value", .bool value), ("span", span.toJson)]
  | .number literal =>
    .object
      ([kindMember .number, ("text", .string literal.text)] ++
      Json.member? "int" (fun int => .int int.toInt) literal.int ++
      Json.member? "uint" (fun uint => .nat uint.toNat) literal.uint ++
      Json.member? "float" .float literal.float ++
      [("span", literal.span.toJson)])
  | .string literal =>
    .object
      [kindMember .string, ("quoted", .string literal.quoted),
        ("text", .string literal.text), ("span", literal.span.toJson)]
  | .identifier identifier =>
    .object
      [kindMember .identifier, ("name", .string identifier.name),
        ("span", identifier.span.toJson)]
  | .slice values span =>
    .object
      [kindMember .slice, ("values", .array (valuesToJson values)),
        ("span", span.toJson)]
  | .switch name enabled span =>
    .object
      [kindMember .switch, ("name", name.toJson), ("enabled", .bool enabled),
        ("span", span.toJson)]

def valuesToJson : List Value → List Json
  | [] => []
  | value :: rest => value.toJson :: valuesToJson rest

end

def Argument.toJson (argument : Argument) : Json :=
  .object
    (Json.member? "name" Identifier.toJson argument.name ++
    [("value", argument.value.toJson), ("span", argument.span.toJson)])

def Tree.toJson (tree : Tree) : Json :=
  .object [("args", Json.ofList Argument.toJson tree.args), ("span", tree.span.toJson)]

/-! ## Decoding -/

def spanMember {σ : Type} (store : σ → Span → σ) : Member σ :=
  { name := "span", presence := .required, store := fun state json =>
      (Span.decode json).map (store state) }

namespace Identifier

def decode : Decoder Identifier :=
  decodeStructure
    [ { name := "name", presence := .required, store := fun identifier json =>
          (decodeString json).map fun name => { identifier with name } },
      spanMember fun identifier span => { identifier with span } ]
    { name := "", span := .empty 0 }

end Identifier

namespace QuotedString

def decode : Decoder QuotedString :=
  decodeStructure
    [ { name := "quoted", presence := .required, store := fun literal json =>
          (decodeString json).map fun quoted => { literal with quoted } },
      { name := "text", presence := .required, store := fun literal json =>
          (decodeString json).map fun text => { literal with text } },
      spanMember fun literal span => { literal with span } ]
    { quoted := "", text := "", span := .empty 0 }

end QuotedString

namespace NumberLiteral

def decode : Decoder NumberLiteral :=
  decodeStructure
    [ { name := "text", presence := .required, store := fun literal json =>
          (decodeString json).map fun text => { literal with text } },
      { name := "int", presence := .defaulted, store := fun literal json =>
          (decodeOption decodeInt64 json).map fun int => { literal with int } },
      { name := "uint", presence := .defaulted, store := fun literal json =>
          (decodeOption decodeUInt64 json).map fun uint => { literal with uint } },
      { name := "float", presence := .defaulted, store := fun literal json =>
          (decodeOption decodeFloat json).map fun float => { literal with float } },
      spanMember fun literal span => { literal with span } ]
    { int := none, uint := none, float := none, text := "", span := .empty 0 }

end NumberLiteral

namespace Value

/-- The parts of a value that is not made of literals. -/
structure Parts where
  value : Bool
  values : List Value
  name : Identifier
  span : Span

namespace Parts

def initial : Parts :=
  { value := false, values := [], name := ⟨"", .empty 0⟩, span := .empty 0 }

def boolMember (name : String) : Member Parts :=
  { name, presence := .required, store := fun parts json =>
      (decodeBool json).map fun value => { parts with value } }

/-- The elements of a slice, which have been decoded beforehand. -/
def valuesMember (elements : Except Misfit (List Value)) : Member Parts :=
  { name := "values", presence := .required, store := fun parts _ =>
      elements.map fun values => { parts with values } }

def nameMember : Member Parts :=
  { name := "name", presence := .required, store := fun parts json =>
      (Identifier.decode json).map fun name => { parts with name } }

def atSpan : Member Parts := spanMember fun parts span => { parts with span }

end Parts

/-- The value of a kind whose members are in `json`, and whose elements, if it
is a slice, are given. -/
def ofKind (kind : ValueKind) (json : Json) (elements : Except Misfit (List Value)) :
    Except Misfit Value :=
  let parts (members : List (Member Parts)) := decodeStructure members Parts.initial json
  match kind with
  | .nil => (parts [Parts.atSpan]).map fun parts => .nil parts.span
  | .bool =>
    (parts [Parts.boolMember "value", Parts.atSpan]).map fun parts =>
      .bool parts.value parts.span
  | .number => (NumberLiteral.decode json).map .number
  | .string => (QuotedString.decode json).map .string
  | .identifier => (Identifier.decode json).map .identifier
  | .slice =>
    (parts [Parts.valuesMember elements, Parts.atSpan]).map fun parts =>
      .slice parts.values parts.span
  | .switch =>
    (parts [Parts.nameMember, Parts.boolMember "enabled", Parts.atSpan]).map fun parts =>
      .switch parts.name parts.value parts.span

/-- Where an encoded value stands. -/
inductive Place where
  /-- It is the value of an argument. -/
  | argument
  /-- It is an element of a slice, at any depth. -/
  | element
deriving DecidableEq, Repr

end Value

def ValueKind.decode? (place : Value.Place) : Json → Option ValueKind
  | .string name => ofName? name
  | .int index => if place = .element ∧ 0 ≤ index then all[index.toNat]? else none
  | _ => none

mutual

/-- Decodes a value that stands at a place. -/
def Value.decodeAt (place : Value.Place) : Json → Except Misfit Value
  | .object members =>
    match (List.lookup "kind" members).bind (ValueKind.decode? place) with
    | some kind => Value.ofKind kind (.object members) (decodeElements members)
    | none => .error .shape
  | .array (kind :: items) =>
    match ValueKind.decode? place kind with
    | some kind => Value.ofKind kind (.array items) (decodeLeadingElements items)
    | none => .error .shape
  | _ => .error .shape

def decodeElements : List (String × Json) → Except Misfit (List Value)
  | [] => .error .shape
  | (name, .array items) :: rest =>
    if name == "values" then decodeValues items else decodeElements rest
  | (name, _) :: rest => if name == "values" then .error .shape else decodeElements rest

/-- The elements in the first item. -/
def decodeLeadingElements : List Json → Except Misfit (List Value)
  | .array items :: _ => decodeValues items
  | _ => .error .shape

def decodeValues : List Json → Except Misfit (List Value)
  | [] => .ok []
  | item :: rest =>
    match Value.decodeAt .element item with
    | .error misfit => .error misfit
    | .ok value => (decodeValues rest).map (value :: ·)

end

namespace Argument

def decode : Decoder Argument :=
  decodeStructure
    [ { name := "name", presence := .defaulted, store := fun argument json =>
          (decodeOption Identifier.decode json).map fun name => { argument with name } },
      { name := "value", presence := .required, store := fun argument json =>
          (Value.decodeAt .argument json).map fun value => { argument with value } },
      spanMember fun argument span => { argument with span } ]
    { name := none, value := .nil (.empty 0), span := .empty 0 }

end Argument

namespace Tree

def decode : Decoder Tree :=
  decodeStructure
    [ { name := "args", presence := .required, store := fun tree json =>
          (decodeList Argument.decode json).map fun args => { tree with args } },
      spanMember fun tree span => { tree with span } ]
    { args := [], span := .empty 0 }

end Tree

end RecordTags
