import RecordTags.Token.Scan

/-!
Contract: tokens one at a time.

Owns: `Cursor`, a place in a scan from which the next token can be asked for.
After the terminal token there is none, however often one asks.

Does not own: the token sequence as a whole; that is `Token.scan`.
-/

namespace RecordTags

open RecordTags.Text

/-- A place in a scan. -/
inductive Cursor where
  /-- In front of a text that starts at a byte of the tag. -/
  | before (expect : Token.Expect) (start : Nat) (text : List Char)
  /-- Behind the terminal token. -/
  | ended

namespace Cursor

def ofText (text : String) : Cursor := before .argument 0 text.toList

/-- The next token, if there is one, and the place behind it. -/
def next : Cursor → Option Token × Cursor
  | ended => (none, ended)
  | before expect start [] => (some (Token.atEnd expect start), ended)
  | before expect start (first :: rest) =>
    match Token.step expect first rest with
    | .token kind tail expect =>
      let token := Token.ofText kind start (first :: tail.taken)
      (some token, before expect token.span.stop tail.rest)
    | .bad text character =>
      let position := start + byteLength text
      let span : Span := ⟨position, position + character.utf8Size⟩
      (some (.ofFault (.badCharacter character) span), ended)
    | .unterminated =>
      (some (.ofFault .unterminatedString ⟨start, start + byteLength (first :: rest)⟩), ended)

/-- What a number of requests for the next token gives. -/
def take (cursor : Cursor) : Nat → List (Option Token)
  | 0 => []
  | count + 1 => cursor.next.1 :: cursor.next.2.take count

end Cursor

end RecordTags
