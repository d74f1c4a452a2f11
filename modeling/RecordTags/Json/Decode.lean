import RecordTags.Json

/-!
Contract: decoding of JSON values.

Owns:
- scalars, options and lists;
- structures, described by their members. A structure is written as an object,
  in which unknown members are passed over and known ones do not repeat, or as
  an array of its members in order;
- choices among names, written as the name or as an object with the name as
  its one member and null as its value.

Decoding goes from front to back and stops at the first value that does not
fit, so the reason it gives is the first one in the text.
-/

namespace RecordTags.Json

/-- Why a value cannot be decoded. -/
inductive Misfit where
  /-- A value of another shape or out of range, or a member that is missing or
  repeated. -/
  | shape
  /-- A type that no field can have. -/
  | unknownType (written : String)
deriving DecidableEq, Repr

abbrev Decoder (α : Type) := Json → Except Misfit α

/-! ## Scalars -/

def decodeString : Decoder String
  | .string text => .ok text
  | _ => .error .shape

def decodeBool : Decoder Bool
  | .bool value => .ok value
  | _ => .error .shape

/-- A natural number below 2 ^ 64. -/
def decodeNat : Decoder Nat
  | .int value => if 0 ≤ value && value < Nat.pow 2 64 then .ok value.toNat else .error .shape
  | _ => .error .shape

def decodeInt64 : Decoder Int64
  | .int value =>
    if -(Nat.pow 2 63 : Int) ≤ value && value < Nat.pow 2 63 then .ok (.ofInt value)
    else .error .shape
  | _ => .error .shape

def decodeUInt64 (json : Json) : Except Misfit UInt64 := (decodeNat json).map .ofNat

/-- A double; whole numbers are converted. -/
def decodeFloat : Decoder Binary64
  | .int value => .ok (.ofInt value)
  | .float value => .ok value
  | _ => .error .shape

/-- Null, or a value. -/
def decodeOption {α : Type} (decode : Decoder α) : Decoder (Option α)
  | .null => .ok none
  | json => (decode json).map some

def decodeList {α : Type} (decode : Decoder α) : Decoder (List α)
  | .array items => items.mapM decode
  | _ => .error .shape

/-! ## Choices -/

/-- One of the named values. -/
def decodeChoice {α : Type} (choices : List (String × α)) (json : Json) : Except Misfit α :=
  let name? := match json with
    | .string name => some name
    | .object [(name, .null)] => some name
    | _ => none
  match name?.bind fun name => List.lookup name choices with
  | some choice => .ok choice
  | none => .error .shape

/-! ## Structures -/

/-- When a member may be left out. -/
inductive Presence where
  | required
  /-- In an object, but not in an array. -/
  | optional
  /-- In an object, and at the end of an array. -/
  | defaulted
deriving DecidableEq, Repr

/-- A member of a structure: its name, whether it may be left out, and how its
value is decoded and stored. -/
structure Member (σ : Type) where
  name : String
  presence : Presence
  store : σ → Json → Except Misfit σ

/-- Decodes the members of an object in order. `seen` lists the known members
that have occurred. -/
def decodeMembers {σ : Type} (members : List (Member σ)) :
    (seen : List String) → σ → List (String × Json) → Except Misfit σ
  | seen, state, [] =>
    if members.all (fun known => known.presence != .required || seen.contains known.name) then
      .ok state
    else .error .shape
  | seen, state, (name, value) :: rest =>
    match members.find? (·.name == name) with
    | none => decodeMembers members seen state rest
    | some known =>
      if seen.contains name then .error .shape
      else
        match known.store state value with
        | .error misfit => .error misfit
        | .ok next => decodeMembers members (name :: seen) next rest

/-- Decodes the items of an array as members in order. -/
def decodeItems {σ : Type} : List (Member σ) → σ → List Json → Except Misfit σ
  | [], state, [] => .ok state
  | [], _, _ :: _ => .error .shape
  | known :: rest, state, [] =>
    if known.presence == .defaulted then decodeItems rest state [] else .error .shape
  | known :: rest, state, item :: items =>
    match known.store state item with
    | .error misfit => .error misfit
    | .ok next => decodeItems rest next items

/-- Decodes a structure, starting from `initial`, which holds the values of
members that are left out. Members before a name that cannot be read are
decoded first, since they come first in the text. -/
def decodeStructure {σ : Type} (members : List (Member σ)) (initial : σ) : Decoder σ
  | .object written => decodeMembers members [] initial written
  | .array items => decodeItems members initial items
  | .unreadable before =>
    match decodeMembers members [] initial before with
    | .error misfit => .error misfit
    | .ok _ => .error .shape
  | _ => .error .shape

end RecordTags.Json
