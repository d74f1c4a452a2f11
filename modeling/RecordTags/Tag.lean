import RecordTags.Bind
import RecordTags.Tree.Build

/-!
Contract: tags, where they come from, and filling a record from one.

The tag `-` means that a record is to be left alone.
-/

namespace RecordTags

def Resolved.ofText (text : String) : Except TagError Resolved :=
  match Tree.parse text with
  | .error error => .error error
  | .ok tree => tree.resolve

structure Tag where
  name : String
  value : String
deriving DecidableEq, Repr

inductive TagSource where
  /-- Pairs in order; the first one with a key counts. -/
  | pairs (entries : List (String × String))
  /-- A map built from entries in order; the last one with a key counts. -/
  | map (entries : List (String × String))
deriving DecidableEq, Repr

namespace TagSource

def get? (source : TagSource) (key : String) : Option String :=
  match source with
  | pairs entries => List.lookup key entries
  | map entries => (Keyed.ofList entries).get? key

end TagSource

namespace Tag

/-- The text of a tag that is to be passed over. -/
def skipText : String := "-"

def lookup? (source : TagSource) (key : String) : Option Tag :=
  (source.get? key).map fun value => { name := key, value }

/-- Whether the tag leaves records alone. -/
def isIgnored (tag : Tag) : Bool := tag.value == skipText

def parse (tag : Tag) : Except TagError Tree := Tree.parse tag.value

def resolve (tag : Tag) : Except TagError Resolved := Resolved.ofText tag.value

def toJson (tag : Tag) : Json :=
  .object [("name", .string tag.name), ("value", .string tag.value)]

variable {F : Type} [Field F]

/-- Binds the tag with given options and in the mode they give. -/
def fillWith (tag : Tag) (options : BindOptions) (record : Record F) : Bound F :=
  if tag.isIgnored then { record, error := none }
  else
    match tag.resolve with
    | .error error => { record, error := some error }
    | .ok resolved => record.bindInMode options resolved

/-- Binds the tag with default options. -/
def fill (tag : Tag) (record : Record F) : Bound F :=
  if tag.isIgnored then { record, error := none }
  else
    match tag.resolve with
    | .error error => { record, error := some error }
    | .ok resolved => record.bind {} resolved

end Tag

end RecordTags
