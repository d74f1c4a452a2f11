import RecordTags.Radix
import RecordTags.Token

/-!
Contract: the scanner, from the text of a tag to its tokens.

Owns:
- the extent of names, quoted strings and numbers at the head of a text;
- `Token.scan`, the whole token sequence. It ends in exactly one terminal
  token, the end of the text or the first fault, and the tokens before it tile
  the text.

Does not own: whether a number has a value (`RecordTags.Number`) or a quoted
string only valid escapes (`RecordTags.Escape`).

Every cut is a `Split`, so no character is lost between two tokens, and every
step takes at least one character, so the scan ends.
-/

namespace RecordTags

open RecordTags.Text

/-! ## Extents -/

namespace Token

/-- A point and the digits behind it, if a point is next. -/
def fractionExtent (radix : Radix) (text : List Char) : Split text :=
  match text with
  | [] => .none []
  | c :: rest =>
    if c == '.' then (Split.run radix.isDigitOrUnderscore rest).cons c else .none (c :: rest)

/-- An exponent, if its mark is next: a sign and decimal digits may follow. -/
def exponentExtent (radix : Radix) (text : List Char) : Split text :=
  match text with
  | [] => .none []
  | c :: rest =>
    if radix.isExponentMark c then
      ((Split.one isSign rest).andThen (Split.run Radix.decimal.isDigitOrUnderscore)).cons c
    else .none (c :: rest)

/-- The digits, fraction and exponent of a numeral in a known base. -/
def digitsExtent (radix : Radix) (text : List Char) : Split text :=
  ((Split.run radix.isDigitOrUnderscore text).andThen (fractionExtent radix)).andThen
    (exponentExtent radix)

/-- What belongs to a numeral after a leading zero: a letter may select the base. -/
def afterZeroExtent (text : List Char) : Split text :=
  match text with
  | [] => .none []
  | letter :: rest =>
    match Radix.ofLetter? letter with
    | some radix => (digitsExtent radix rest).cons letter
    | none => digitsExtent .decimal (letter :: rest)

/-- The longest text that could be an unsigned numeral. -/
def unsignedExtent (text : List Char) : Split text :=
  match text with
  | [] => .none []
  | c :: rest =>
    if c == '0' then (afterZeroExtent rest).cons c else digitsExtent .decimal (c :: rest)

/-- What belongs to a numeral after its first character, a sign or a digit.
Whether the whole is a number is decided later. -/
def numberTail (first : Char) (text : List Char) : Split text :=
  if isSign first then unsignedExtent text
  else if first == '0' then afterZeroExtent text
  else digitsExtent .decimal text

/-- What belongs to a quoted string after its opening quote, up to and with
the closing one. A backslash protects the character behind it. Nothing if the
text ends first. -/
def quoteTail? (quote : Char) : (text : List Char) → Option (Split text)
  | [] => none
  | c :: rest =>
    if c == '\\' then
      match rest with
      | [] => none
      | escaped :: rest => (quoteTail? quote rest).map fun tail => (tail.cons escaped).cons c
    else if c == quote then some ⟨[c], rest, List.singleton_append⟩
    else (quoteTail? quote rest).map (·.cons c)

/-- Names and reserved words are told apart by their text. -/
def wordKind (word : List Char) : TokenKind :=
  if word == ['t', 'r', 'u', 'e'] || word == ['f', 'a', 'l', 's', 'e'] then .bool
  else if word == ['n', 'i', 'l'] then .nil
  else .identifier

/-! ## Steps -/

/-- What the scanner looks for next. -/
inductive Expect where
  /-- The start of an argument: a switch or a value. -/
  | argument
  /-- The name of a switch, whose first letter has been seen. -/
  | name
  /-- A value, behind `=` or `;`. -/
  | value
  /-- A separator, `=` or the end, behind a value. -/
  | separator
deriving DecidableEq, Repr

/-- The outcome of one step on a text that starts with one character and goes
on with `text`. -/
inductive Step (text : List Char) where
  /-- A token: the first character and what `tail` took of the rest. -/
  | token (kind : TokenKind) (tail : Split text) (next : Expect)
  /-- A character that cannot stand where it does, behind the text `before`. -/
  | bad (before : List Char) (character : Char)
  /-- The text ends inside quotes. -/
  | unterminated

/-- A token of a name or a number, unless what follows cannot follow one. -/
def closed {text : List Char} (kind : TokenKind) (first : Char) (tail : Split text) : Step text :=
  match tail.rest with
  | [] => .token kind tail .separator
  | c :: _ =>
    if isTerminator c then .token kind tail .separator else .bad (first :: tail.taken) c

def wordStep (first : Char) (text : List Char) : Step text :=
  let tail := Split.run isNameContinue text
  closed (wordKind (first :: tail.taken)) first tail

def literalStep (first : Char) (text : List Char) : Step text :=
  if isNameStart first then wordStep first text
  else if isNumericStart first then closed .number first (numberTail first text)
  else if first == '\x22' || first == '\x27' then
    match quoteTail? first text with
    | some tail => .token .string tail .separator
    | none => .unterminated
  else .bad [] first

/-- A switch mark in front of a name, or a literal. -/
def argumentStep (first : Char) (text : List Char) : Step text :=
  if first == '~' || first == '!' then
    if text.head?.any isNameStart then
      .token (if first == '!' then .disable else .enable) (.none text) .name
    else .bad [] first
  else literalStep first text

/-- A separator between values, arguments or a name and its value. -/
def separatorStep (first : Char) (text : List Char) : Step text :=
  if first == ',' then .token .argumentSeparator (.none text) .argument
  else if first == ';' then .token .listSeparator (.none text) .value
  else if first == '=' then .token .assign (.none text) .value
  else .bad [] first

def step (expect : Expect) (first : Char) (text : List Char) : Step text :=
  match expect with
  | .argument => argumentStep first text
  | .name => wordStep first text
  | .value => literalStep first text
  | .separator => separatorStep first text

/-! ## The scan -/

def atEnd (expect : Expect) (position : Nat) : Token :=
  match expect with
  | .value => ofFault .missingValue (.empty position)
  | .argument | .name | .separator => endAt position

/-- The tokens of `text`, which starts at byte `start` of the tag. -/
def scanFrom (expect : Expect) (start : Nat) (text : List Char) : List Token :=
  match text with
  | [] => [atEnd expect start]
  | first :: rest =>
    match step expect first rest with
    | .token kind tail next =>
      let token := ofText kind start (first :: tail.taken)
      have : tail.rest.length ≤ rest.length := tail.length_rest_le
      token :: scanFrom next token.span.stop tail.rest
    | .bad before character =>
      let position := start + byteLength before
      [ofFault (.badCharacter character) ⟨position, position + character.utf8Size⟩]
    | .unterminated =>
      [ofFault .unterminatedString ⟨start, start + byteLength (first :: rest)⟩]
termination_by text.length

/-- The tokens of a tag, the terminal token included. -/
def scan (text : String) : List Token := scanFrom .argument 0 text.toList

end Token

end RecordTags
