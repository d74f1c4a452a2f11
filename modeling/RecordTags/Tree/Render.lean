import RecordTags.Tree

/-!
Contract: the text of a tree.

Literals keep the spelling that the tree holds, so the text of the tree of a
tag is the tag.
-/

namespace RecordTags

/-- Texts with a separator between each two. -/
def joinWith (separator : Char) : List (List Char) → List Char
  | [] => []
  | [text] => text
  | text :: rest => text ++ separator :: joinWith separator rest

def argumentSeparator : Char := ','

def listSeparator : Char := ';'

def switchMark (enabled : Bool) : Char := if enabled then '~' else '!'

mutual

def Value.chars : Value → List Char
  | .nil _ => ['n', 'i', 'l']
  | .bool value _ => if value then ['t', 'r', 'u', 'e'] else ['f', 'a', 'l', 's', 'e']
  | .number literal => literal.text.toList
  | .string literal => literal.quoted.toList
  | .identifier identifier => identifier.name.toList
  | .slice values _ => joinWith listSeparator (elementChars values)
  | .switch name enabled _ => switchMark enabled :: name.name.toList

def elementChars : List Value → List (List Char)
  | [] => []
  | value :: rest => value.chars :: elementChars rest

end

/-- The characters of an argument. A switch carries its own name. -/
def Argument.chars (argument : Argument) : List Char :=
  match argument.name, argument.value with
  | _, .switch name enabled span => (Value.switch name enabled span).chars
  | none, value => value.chars
  | some name, value => name.name.toList ++ '=' :: value.chars

def Tree.chars (tree : Tree) : List Char :=
  joinWith argumentSeparator (tree.args.map Argument.chars)

def Value.render (value : Value) : String := String.ofList value.chars

def Argument.render (argument : Argument) : String := String.ofList argument.chars

def Tree.render (tree : Tree) : String := String.ofList tree.chars

end RecordTags
