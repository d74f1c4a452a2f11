import RecordTags.Binary

/-!
Contract: JSON values.

Owns: `Json`, and constructors for the shapes that encoders build.

Objects keep the order of their members and repeated names. Whole numbers and
doubles are apart, since encoders write them differently and decoders accept
them in different places.
-/

namespace RecordTags

inductive Json where
  | null
  | bool (value : Bool)
  | int (value : Int)
  | float (value : Binary64)
  | string (text : String)
  | array (items : List Json)
  | object (members : List (String × Json))
  /-- A grammatical value that denotes nothing: a number beyond every double,
  a string with half of a surrogate pair, or an object with such a name, of
  which the members `before` that name are kept. It may stand where nothing
  reads it. -/
  | unreadable (before : List (String × Json))

namespace Json

instance : Inhabited Json := ⟨.null⟩

/-- A value that may be absent. -/
def ofOption {α : Type} (encode : α → Json) (value : Option α) : Json :=
  (value.map encode).getD .null

def nat (n : Nat) : Json := .int n

def ofList {α : Type} (encode : α → Json) (values : List α) : Json := .array (values.map encode)

/-- A member that is left out when its value is absent. -/
def member? {α : Type} (name : String) (encode : α → Json) (value : Option α) :
    List (String × Json) :=
  (value.map fun value => (name, encode value)).toList

mutual

/-- The value with the members of every object in ascending order of names. -/
def sortKeys : Json → Json
  | .array items => .array (sortItems items)
  | .object members =>
    .object ((sortMembers members).mergeSort fun left right => left.1 ≤ right.1)
  | json => json

def sortItems : List Json → List Json
  | [] => []
  | item :: rest => item.sortKeys :: sortItems rest

def sortMembers : List (String × Json) → List (String × Json)
  | [] => []
  | (name, value) :: rest => (name, value.sortKeys) :: sortMembers rest

end

end Json

end RecordTags
