import RecordTags.Keyed
import RecordTags.TagError

/-!
Contract: the split of a tag into positional and keyword arguments.

Owns: `Resolved` and `Tree.resolve`. Positional values keep the order of the
text. Named arguments are in ascending order of their keys as written, each key
once: of several arguments with one key the last one counts. A positional
argument behind a named one is refused.
-/

namespace RecordTags

/-- The arguments of a tag, positional and named. -/
structure Resolved where
  positional : List Value
  keyword : Keyed Argument
  ascending : keyword.Ascending

namespace Resolved

def empty : Resolved := { positional := [], keyword := [], ascending := Keyed.ascending_nil }

def get? (resolved : Resolved) (key : String) : Option Value :=
  (resolved.keyword.get? key).map Argument.value

def isEmpty (resolved : Resolved) : Bool :=
  resolved.positional.isEmpty && resolved.keyword.isEmpty

/-- Adds an argument behind those that are there. -/
def add (resolved : Resolved) (argument : Argument) : Except TagError Resolved :=
  match argument.key? with
  | some key =>
    .ok
      { resolved with
        keyword := resolved.keyword.insert key argument
        ascending := resolved.ascending.insert key argument }
  | none =>
    if resolved.keyword.isEmpty then
      .ok { resolved with positional := resolved.positional ++ [argument.value] }
    else .error (.argumentOrder argument.span)

end Resolved

def Tree.resolve (tree : Tree) : Except TagError Resolved :=
  tree.args.foldlM Resolved.add Resolved.empty

end RecordTags
