import RecordTags.Text.Character

/-!
Contract: how names are compared.

Owns: the words of a name, and the styles in which keys and field names are
brought to a common form before they are compared.

Words break at `_`, `-` and white space, before a capital behind a small letter
or a numeral, and before the last capital of a run of capitals if a small
letter follows it. Words are in small letters.
-/

namespace RecordTags

open RecordTags.Text

/-- How keys are matched with field names. -/
inductive NameStyle where
  /-- Words joined by `-`. -/
  | kebab
  /-- Words joined by `_`. -/
  | snake
  /-- The name as it is. -/
  | exact
deriving DecidableEq, Repr

namespace Name

/-- What separates words without being part of one. -/
def isBreak (c : Char) : Bool := c == '_' || c == '-' || isWhiteSpace c

/-- Whether a capital between its neighbours starts a word. -/
def startsWord (previous : Char) (next : Option Char) : Bool :=
  isLowercase previous || isNumeric previous ||
    (isUppercase previous && next.any isLowercase)

/-- The word that has been read so far, as a list of one or of none. -/
def finished (current : List Char) : List (List Char) :=
  if current.isEmpty then [] else [current]

/-- The words of a text, behind the character `previous` and a word of which
`current` has been read. -/
def wordsFrom (previous : Char) (current : List Char) : List Char → List (List Char)
  | [] => finished current
  | c :: rest =>
    if isBreak c then finished current ++ wordsFrom c [] rest
    else if isUppercase c && !current.isEmpty && startsWord previous rest.head? then
      current :: wordsFrom c (toLowercase c) rest
    else wordsFrom c (current ++ toLowercase c) rest

/-- The words of a name, in small letters. -/
def words (name : String) : List (List Char) := wordsFrom ' ' [] name.toList

/-- Words with a character between each two. -/
def join (separator : Char) (words : List (List Char)) : String :=
  String.ofList (List.intercalate [separator] words)

end Name

namespace NameStyle

/-- The form of a name that is compared. -/
def normalize (style : NameStyle) (name : String) : String :=
  match style with
  | kebab => Name.join '-' (Name.words name)
  | snake => Name.join '_' (Name.words name)
  | exact => name

end NameStyle

end RecordTags
