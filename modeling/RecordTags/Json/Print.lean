import RecordTags.Decimal
import RecordTags.Json

/-!
Contract: the texts of JSON values.

Owns: the compact text without blanks, and the indented text with two blanks
for each level and one member or item a line.

Strings escape quotes, backslashes and the controls below the blank, and
nothing else. A double always shows that it is one, and a double that is not
finite is written as null.
-/

namespace RecordTags.Json

open RecordTags.Text

/-- Doubles are positional from 0.00001 up to sixteen places before the point;
exponents always have a sign, and ties go to the even digit. -/
def floatLayout : Decimal.Layout :=
  { plainFrom := -5, plainTo := 15, plusSign := true, tie := .toEven }

/-- One character inside a string. -/
def escapedChar (c : Char) : String :=
  if c == '\x22' then "\\\""
  else if c == '\\' then "\\\\"
  else if c == '\n' then "\\n"
  else if c == '\r' then "\\r"
  else if c == '\t' then "\\t"
  else if c.toNat = 0x08 then "\\b"
  else if c.toNat = 0x0C then "\\f"
  else if c.toNat < 0x20 then "\\u" ++ hexadecimal 4 c.toNat
  else String.singleton c

def quote (text : String) : String :=
  "\"" ++ String.join (text.toList.map escapedChar) ++ "\""

def floatText (x : Binary64) : String :=
  if x.isFinite then floatLayout.text x else "null"

mutual

/-- The text without blanks. -/
def compact : Json → String
  | .null => "null"
  | .unreadable _ => "null"
  | .bool value => if value then "true" else "false"
  | .int value => decimalInt value
  | .float value => floatText value
  | .string text => quote text
  | .array items => "[" ++ String.intercalate "," (compactItems items) ++ "]"
  | .object members => "\x7b" ++ String.intercalate "," (compactMembers members) ++ "\x7d"

def compactItems : List Json → List String
  | [] => []
  | item :: rest => item.compact :: compactItems rest

def compactMembers : List (String × Json) → List String
  | [] => []
  | (name, value) :: rest => (quote name ++ ":" ++ value.compact) :: compactMembers rest

end

def newLine (level : Nat) : String :=
  "\n" ++ String.ofList (List.replicate (2 * level) ' ')

/-- Parts on lines of their own between brackets, or the brackets alone. -/
def bracketed (left right : String) (level : Nat) (parts : List String) : String :=
  if parts.isEmpty then left ++ right
  else
    left ++ newLine (level + 1) ++ String.intercalate ("," ++ newLine (level + 1)) parts ++
      newLine level ++ right

mutual

def prettyAt (level : Nat) : Json → String
  | .array items => bracketed "[" "]" level (prettyItems (level + 1) items)
  | .object members => bracketed "\x7b" "\x7d" level (prettyMembers (level + 1) members)
  | .null => compact .null
  | .unreadable before => compact (.unreadable before)
  | .bool value => compact (.bool value)
  | .int value => compact (.int value)
  | .float value => compact (.float value)
  | .string text => compact (.string text)

def prettyItems (level : Nat) : List Json → List String
  | [] => []
  | item :: rest => item.prettyAt level :: prettyItems level rest

def prettyMembers (level : Nat) : List (String × Json) → List String
  | [] => []
  | (name, value) :: rest =>
    (quote name ++ ": " ++ value.prettyAt level) :: prettyMembers level rest

end

def pretty (json : Json) : String := json.prettyAt 0

end RecordTags.Json
