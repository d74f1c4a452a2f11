import RecordTags.Json.Decode
import RecordTags.Name

/-!
Contract: how arguments are bound into a record.
-/

namespace RecordTags

open RecordTags.Json

/-- What becomes of a keyword that no field answers to. -/
inductive UnknownKeys where
  /-- It is an error. -/
  | error
  /-- It is passed over. -/
  | ignore
deriving DecidableEq, Repr

/-- What a failure leaves behind. -/
inductive BindMode where
  /-- Everything that was written before it. -/
  | bestEffort
  /-- The record as it was. -/
  | atomic
deriving DecidableEq, Repr

structure BindOptions where
  naming : NameStyle := .kebab
  unknownKeys : UnknownKeys := .error
  mode : BindMode := .bestEffort
deriving DecidableEq, Repr

namespace NameStyle

def choices : List (String × NameStyle) :=
  [("kebab", kebab), ("snake", snake), ("exact", exact)]

def name : NameStyle → String
  | kebab => "kebab"
  | snake => "snake"
  | exact => "exact"

def decode : Decoder NameStyle := decodeChoice choices

end NameStyle

namespace UnknownKeys

def choices : List (String × UnknownKeys) := [("error", error), ("ignore", ignore)]

def name : UnknownKeys → String
  | error => "error"
  | ignore => "ignore"

def decode : Decoder UnknownKeys := decodeChoice choices

end UnknownKeys

namespace BindMode

def choices : List (String × BindMode) := [("bestEffort", bestEffort), ("atomic", atomic)]

def name : BindMode → String
  | bestEffort => "bestEffort"
  | atomic => "atomic"

def decode : Decoder BindMode := decodeChoice choices

end BindMode

namespace BindOptions

def toJson (options : BindOptions) : Json :=
  .object
    [("naming", .string options.naming.name), ("unknownKeys", .string options.unknownKeys.name),
      ("mode", .string options.mode.name)]

/-- Options that are left out have their defaults. -/
def decode : Decoder BindOptions :=
  decodeStructure
    [ { name := "naming", presence := .defaulted, store := fun options json =>
          (NameStyle.decode json).map fun naming => { options with naming } },
      { name := "unknownKeys", presence := .defaulted, store := fun options json =>
          (UnknownKeys.decode json).map fun unknownKeys => { options with unknownKeys } },
      { name := "mode", presence := .defaulted, store := fun options json =>
          (BindMode.decode json).map fun mode => { options with mode } } ]
    {}

end BindOptions

end RecordTags
