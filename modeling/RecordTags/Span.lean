/-!
Contract: a range of bytes in the text of a tag.

Owns: `Span`, its construction from two bounds in order, the span that covers
two spans, and its length.

A decoded span is kept as it was written, so its bounds need not be in order;
`Span.ofBounds?` is the constructor that insists on the order.
-/

namespace RecordTags

/-- The bytes from `start` up to, and without, `stop`. -/
structure Span where
  start : Nat
  stop : Nat
deriving DecidableEq, Repr

namespace Span

/-- The span between two bounds, unless they are out of order. -/
def ofBounds? (start stop : Nat) : Option Span :=
  if start ≤ stop then some ⟨start, stop⟩ else none

def empty (position : Nat) : Span := ⟨position, position⟩

/-- The smallest span that covers both. -/
def cover (left right : Span) : Span :=
  ⟨min left.start right.start, max left.stop right.stop⟩

def length (span : Span) : Nat := span.stop - span.start

def isEmpty (span : Span) : Bool := span.start == span.stop

def shift (distance : Nat) (span : Span) : Span :=
  ⟨span.start + distance, span.stop + distance⟩

end Span

end RecordTags
