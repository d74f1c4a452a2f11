import RecordTags.Name

/-!
Contract: records, ordered lists of named fields.

Owns: access to fields by position and by name. A name is matched after
normalization of both sides, and the first field that matches counts.
-/

namespace RecordTags

/-- A record with fields of type `F`. -/
structure Record (F : Type) where
  fields : List (String × F)

namespace Record

variable {F : Type}

def count (record : Record F) : Nat := record.fields.length

def names (record : Record F) : List String := record.fields.map Prod.fst

def name? (record : Record F) (index : Nat) : Option String :=
  (record.fields[index]?).map Prod.fst

def field? (record : Record F) (index : Nat) : Option F :=
  (record.fields[index]?).map Prod.snd

/-- The record with another field at an index. Its name stays. -/
def setField (record : Record F) (index : Nat) (field : F) : Record F :=
  { fields := record.fields.modify index fun (name, _) => (name, field) }

/-- The index of the first field that a key addresses. -/
def indexOf? (record : Record F) (style : NameStyle) (key : String) : Option Nat :=
  record.names.findIdx? fun name => style.normalize name == style.normalize key

end Record

end RecordTags
