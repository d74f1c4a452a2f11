import RecordTags.Text.Character
import RecordTags.Text.Numeral

/-!
Contract: text quoted for a reader of messages.

A text stands between double quotes. Quotes and backslashes are escaped, line
breaks, tabs and NUL have short escapes, and every other character that would
not show as itself is written as its code point in braces.
-/

namespace RecordTags.Text

/-- One character inside quotes. -/
def quotedChar (c : Char) : String :=
  if c == '\x22' then "\\\""
  else if c == '\\' then "\\\\"
  else if c == '\n' then "\\n"
  else if c == '\r' then "\\r"
  else if c == '\t' then "\\t"
  else if c.toNat = 0 then "\\0"
  else if isVisible c then String.singleton c
  else "\\u\x7b" ++ hexadecimal 1 c.toNat ++ "\x7d"

def quoted (text : String) : String :=
  "\"" ++ String.join (text.toList.map quotedChar) ++ "\""

/-- A character named by its code point, in at least four capital digits, and
shown beside it unless it is a control character. -/
def namedChar (c : Char) : String :=
  let codePoint := "U+" ++ (hexadecimal 4 c.toNat).toUpper
  if isControl c then codePoint else codePoint ++ " '" ++ String.singleton c ++ "'"

end RecordTags.Text
