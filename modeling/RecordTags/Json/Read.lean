import RecordTags.Json.Number
import RecordTags.Text.Split

/-!
Contract: reading JSON texts.

Owns: the lexemes of a JSON text, and a stack machine that puts them together.

A text that is not JSON is not a total loss: `read` then gives the part before
the fault, with every open array and object closed there. A decoder that works
from front to back can tell from it whether it would have failed before the
text did.
-/

namespace RecordTags.Json

open RecordTags.Text

/-! ## Lexemes -/

inductive Mark where
  | beginObject
  | endObject
  | beginArray
  | endArray
  | colon
  | comma
deriving DecidableEq, Repr

/-- A lexeme: a mark, a string, which has no text if it holds half of a
surrogate pair, or another scalar. -/
inductive Lexeme where
  | mark (mark : Mark)
  | string (text : Option String)
  | scalar (value : Json)

def mark? (c : Char) : Option Mark :=
  match c with
  | '\x7b' => some .beginObject
  | '\x7d' => some .endObject
  | '[' => some .beginArray
  | ']' => some .endArray
  | ':' => some .colon
  | ',' => some .comma
  | _ => none

/-- What a letter denotes behind a backslash, as a code unit. -/
def escapedUnit? (letter : Char) : Option Nat :=
  match letter with
  | '\x22' => some 0x22
  | '\\' => some 0x5C
  | '/' => some 0x2F
  | 'b' => some 0x08
  | 'f' => some 0x0C
  | 'n' => some 0x0A
  | 'r' => some 0x0D
  | 't' => some 0x09
  | _ => none

/-- The code units of a string behind its opening quote, and what follows the
closing one. An escaped half of a surrogate pair is one unit. -/
def readUnits : List Char → Option (List Nat × List Char)
  | [] => none
  | c :: rest =>
    if c == '\x22' then some ([], rest)
    else if c == '\\' then
      match rest with
      | [] => none
      | letter :: rest =>
        if letter == 'u' then
          match rest with
          | first :: second :: third :: fourth :: rest =>
            match [first, second, third, fourth].mapM (digitValue? 16) with
            | some digits =>
              (readUnits rest).map fun (units, after) => (ofDigits 16 digits :: units, after)
            | none => none
          | _ => none
        else
          match escapedUnit? letter with
          | some unit => (readUnits rest).map fun (units, after) => (unit :: units, after)
          | none => none
    else if c.toNat < 0x20 then none
    else (readUnits rest).map fun (units, after) => (c.toNat :: units, after)

/-- A unit in front of the others does not change what follows the string. -/
theorem length_after_map {unit bound : Nat} {rest : Option (List Nat × List Char)}
    {units : List Nat} {after : List Char}
    (read : (rest.map fun (units, after) => (unit :: units, after)) = some (units, after))
    (shorter : ∀ {units after}, rest = some (units, after) → after.length < bound) :
    after.length < bound := by
  obtain ⟨⟨innerUnits, innerAfter⟩, inner, same⟩ := Option.map_eq_some_iff.1 read
  simp only [Prod.mk.injEq] at same
  rw [← same.2]
  exact shorter inner

/-- Less text follows the closing quote than stood behind the opening one, so reading ends. -/
theorem length_readUnits {text : List Char} {units : List Nat} {after : List Char}
    (read : readUnits text = some (units, after)) : after.length < text.length := by
  fun_induction readUnits text generalizing units after with
  | case2 c rest =>
    simp only [Option.some.injEq, Prod.mk.injEq] at read
    simp [← read.2]
  | case4 c _ _ letter _ first second third fourth rest digits _ inductionHypothesis =>
    have shorter := length_after_map read inductionHypothesis
    simp only [List.length_cons]
    omega
  | case7 c _ _ letter rest _ unit _ inductionHypothesis =>
    have shorter := length_after_map read inductionHypothesis
    simp only [List.length_cons]
    omega
  | case10 c rest _ _ _ inductionHypothesis =>
    have shorter := length_after_map read inductionHypothesis
    simp only [List.length_cons]
    omega
  | _ => simp at read

/-- The text of code units, if every half of a surrogate pair has the other. -/
def textOfUnits? : List Nat → Option (List Char)
  | [] => some []
  | unit :: rest =>
    if 0xD800 ≤ unit && unit < 0xDC00 then
      match rest with
      | low :: rest =>
        if 0xDC00 ≤ low && low < 0xE000 then
          (textOfUnits? rest).map
            (Char.ofNat (0x10000 + (unit - 0xD800) * 0x400 + (low - 0xDC00)) :: ·)
        else none
      | [] => none
    else if 0xDC00 ≤ unit && unit < 0xE000 then none
    else (textOfUnits? rest).map (Char.ofNat unit :: ·)

def isBlank (c : Char) : Bool := c == ' ' || c == '\n' || c == '\t' || c == '\r'

def isNumberChar (c : Char) : Bool :=
  isAsciiDigit c || isSign c || c == '.' || c == 'e' || c == 'E'

def word? (word : List Char) : Option Json :=
  if word == ['n', 'u', 'l', 'l'] then some .null
  else if word == ['t', 'r', 'u', 'e'] then some (.bool true)
  else if word == ['f', 'a', 'l', 's', 'e'] then some (.bool false)
  else none

/-- The number or word that starts with a character, and what it takes of the
text behind it. -/
def scalar? (first : Char) (text : List Char) : Option (Json × Split text) :=
  if first == '-' || isAsciiDigit first then
    let extent := Split.run isNumberChar text
    (NumberParts.ofText? (first :: extent.taken)).map fun parts => (parts.value, extent)
  else
    let extent := Split.run Char.isAlpha text
    (word? (first :: extent.taken)).map fun value => (value, extent)

/-- The lexemes of a text up to the first character that starts none, and
whether that is the end of the text. -/
def lexemes (text : List Char) : List Lexeme × Bool :=
  match text with
  | [] => ([], true)
  | c :: rest =>
    let andMore (lexeme : Lexeme) (more : List Lexeme × Bool) := (lexeme :: more.1, more.2)
    if isBlank c then lexemes rest
    else
      match mark? c with
      | some mark => andMore (.mark mark) (lexemes rest)
      | none =>
        if c == '\x22' then
          match read : readUnits rest with
          | none => ([], false)
          | some (units, after) =>
            have : after.length < rest.length := length_readUnits read
            andMore (.string ((textOfUnits? units).map String.ofList)) (lexemes after)
        else
          match scalar? c rest with
          | none => ([], false)
          | some (scalar, extent) =>
            have : extent.rest.length ≤ rest.length := extent.length_rest_le
            andMore (.scalar scalar) (lexemes extent.rest)
termination_by text.length

/-! ## Structure -/

/-- An open array or object, its contents in reverse. An object holds the name
whose value is being read, and whether all names so far could be read. -/
inductive Frame where
  | array (items : List Json)
  | object (members : List (String × Json)) (name : String) (readable : Bool)

/-- What may come next. -/
inductive Expect where
  | value
  /-- The first item of an array, or its end. -/
  | itemOrEnd
  /-- The first name of an object, or its end. -/
  | nameOrEnd
  | name
  | colon
  /-- A comma, or the end of the innermost open array or object. -/
  | commaOrEnd
  /-- Nothing: the value is complete. -/
  | nothing
deriving DecidableEq, Repr

/-- The state of reading: open arrays and objects, innermost first, what may
come next, and the value once it is complete. -/
structure Reader where
  stack : List Frame
  expect : Expect
  result : Option Json

namespace Reader

def start : Reader := { stack := [], expect := .value, result := none }

def close : Frame → Json
  | .array items => .array items.reverse
  | .object members _ readable =>
    if readable then .object members.reverse else .unreadable members.reverse

/-- The members of an open object, in reverse, with one more. Behind a name
that cannot be read no members are kept. -/
def addMember (members : List (String × Json)) (name : String) (readable : Bool) (value : Json) :
    List (String × Json) :=
  if readable then (name, value) :: members else members

/-- Puts a complete value into the innermost open array or object. -/
def put (value : Json) : List Frame → Reader
  | [] => { stack := [], expect := .nothing, result := some value }
  | .array items :: outer =>
    { stack := .array (value :: items) :: outer, expect := .commaOrEnd, result := none }
  | .object members name readable :: outer =>
    { stack := .object (addMember members name readable value) name readable :: outer
      expect := .commaOrEnd, result := none }

def takeValue (reader : Reader) (lexeme : Lexeme) : Option Reader :=
  match lexeme with
  | .scalar value => some (put value reader.stack)
  | .string (some text) => some (put (.string text) reader.stack)
  | .string none => some (put (.unreadable []) reader.stack)
  | .mark .beginArray =>
    some { reader with stack := .array [] :: reader.stack, expect := .itemOrEnd }
  | .mark .beginObject =>
    some { reader with stack := .object [] "" true :: reader.stack, expect := .nameOrEnd }
  | .mark _ => none

def takeName (reader : Reader) (lexeme : Lexeme) : Option Reader :=
  match lexeme, reader.stack with
  | .string text, .object members _ readable :: outer =>
    some { reader with
      stack := .object members (text.getD "") (readable && text.isSome) :: outer
      expect := .colon }
  | _, _ => none

/-- Takes in a closing mark. -/
def takeEnd (reader : Reader) (lexeme : Lexeme) : Option Reader :=
  match lexeme, reader.stack with
  | .mark .endArray, .array items :: outer => some (put (close (.array items)) outer)
  | .mark .endObject, .object members name readable :: outer =>
    some (put (close (.object members name readable)) outer)
  | _, _ => none

def takeComma (reader : Reader) (lexeme : Lexeme) : Option Reader :=
  match lexeme, reader.stack with
  | .mark .comma, .array _ :: _ => some { reader with expect := .value }
  | .mark .comma, .object _ _ _ :: _ => some { reader with expect := .name }
  | _, _ => none

def take (reader : Reader) (lexeme : Lexeme) : Option Reader :=
  match reader.expect with
  | .value => reader.takeValue lexeme
  | .itemOrEnd => (reader.takeEnd lexeme).or (reader.takeValue lexeme)
  | .nameOrEnd => (reader.takeEnd lexeme).or (reader.takeName lexeme)
  | .name => reader.takeName lexeme
  | .colon =>
    match lexeme with
    | .mark .colon => some { reader with expect := .value }
    | _ => none
  | .commaOrEnd => (reader.takeEnd lexeme).or (reader.takeComma lexeme)
  | .nothing => none

/-- Takes in lexemes up to the first that does not fit, and whether all did. -/
def takeAll (reader : Reader) : List Lexeme → Reader × Bool
  | [] => (reader, true)
  | lexeme :: rest =>
    match reader.take lexeme with
    | some next => next.takeAll rest
    | none => (reader, false)

/-- Closes everything that is open around a value. -/
def closeAround (value : Json) : List Frame → Json
  | [] => value
  | .array items :: outer => closeAround (close (.array (value :: items))) outer
  | .object members name readable :: outer =>
    closeAround (close (.object (addMember members name readable value) name readable)) outer

/-- The part that has been read, with everything that is open closed. -/
def soFar (reader : Reader) : Json :=
  match reader.result, reader.stack with
  | some value, _ => value
  | none, [] => .null
  | none, frame :: outer => closeAround (close frame) outer

end Reader

/-- The value of a text, or the part before the first fault. -/
def read (text : String) : Except Json Json :=
  let (lexemes, lexed) := lexemes text.toList
  let (reader, taken) := Reader.start.takeAll lexemes
  match reader.result with
  | some value => if lexed && taken then .ok value else .error value
  | none => .error reader.soFar

end RecordTags.Json
