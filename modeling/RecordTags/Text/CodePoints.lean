/-!
Contract: finite sets of code points, written as runs.

Owns:
- `Run`, the code points `first, first + stride, …` up to `last`;
- membership of a code point or a character in a list of runs.

Does not own: any particular property table. Each table is a list of runs in
its own module under `RecordTags.Text.Property`.
-/

namespace RecordTags.Text

/-- The code points `first`, `first + stride`, … that do not exceed `last`.
Alternating upper- and lowercase letters make stride two as common as one. -/
structure Run where
  first : Nat
  last : Nat
  stride : Nat
deriving DecidableEq, Repr

def Run.contains (run : Run) (codePoint : Nat) : Bool :=
  run.first ≤ codePoint && codePoint ≤ run.last && (codePoint - run.first) % run.stride == 0

def isIn (table : List Run) (c : Char) : Bool :=
  table.any (·.contains c.toNat)

/-- A run moved by a fixed distance: the shape of a simple case mapping. -/
structure Shift where
  run : Run
  distance : Int
deriving DecidableEq, Repr

/-- Where the first shift whose run holds `codePoint` moves it, if any does. -/
def shifted? (table : List Shift) (codePoint : Nat) : Option Nat :=
  (table.find? (·.run.contains codePoint)).map fun shift =>
    ((codePoint : Int) + shift.distance).toNat

end RecordTags.Text
