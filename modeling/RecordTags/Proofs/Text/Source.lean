import RecordTags.Span
import RecordTags.Text.Split

/-!
Contract: the source of a span, the characters that stand between its bounds.

Owns:
- `cutAt?`, a text cut behind a number of bytes, and the character boundaries
  of a text, where it can be cut;
- `Span.source?`. A span whose bounds are out of order, beyond the text or
  inside a character has no source;
- the span of a text that starts at a byte.
-/

namespace RecordTags

namespace Text

/-- The text cut behind a number of bytes, if a character ends there. -/
def cutAt? : Nat → (text : List Char) → Option (Split text)
  | count, [] => if count = 0 then some (.none []) else none
  | count, c :: rest =>
    if count = 0 then some (.none (c :: rest))
    else if c.utf8Size ≤ count then (cutAt? (count - c.utf8Size) rest).map (·.cons c)
    else none

/-- A byte where a character starts, or the end of the text. -/
def IsBoundary (text : List Char) (position : Nat) : Prop := (cutAt? position text).isSome = true

theorem cutAt?_zero (text : List Char) : cutAt? 0 text = some (.none text) := by
  cases text <;> simp [cutAt?]

/-- A text is cut where two texts have been joined. -/
theorem cutAt?_append (left right : List Char) :
    cutAt? (byteLength left) (left ++ right) = some ⟨left, right, rfl⟩ := by
  induction left with
  | nil => exact cutAt?_zero right
  | cons c left inductionHypothesis =>
      have positive := c.utf8Size_pos
      show cutAt? (c.utf8Size + byteLength left) (c :: (left ++ right)) = _
      rw [cutAt?, if_neg (by omega), if_pos (by omega), Nat.add_sub_cancel_left,
        inductionHypothesis]
      rfl

/-- A cut takes as many bytes as it is asked for. -/
theorem byteLength_of_cutAt? {count : Nat} {text : List Char} {split : Split text}
    (cut : cutAt? count text = some split) : byteLength split.taken = count := by
  fun_induction cutAt? count text with
  | case1 =>
      cases cut
      rfl
  | case2 => contradiction
  | case3 =>
      cases cut
      rfl
  | case4 count c rest notZero fits inductionHypothesis =>
      obtain ⟨inner, innerCut, rfl⟩ := Option.map_eq_some_iff.1 cut
      have length := inductionHypothesis innerCut
      show c.utf8Size + byteLength inner.taken = count
      omega
  | case5 => contradiction

theorem byteLength_pos {text : List Char} (nonempty : text ≠ []) : 0 < byteLength text := by
  cases text with
  | nil => exact absurd rfl nonempty
  | cons c rest => exact Nat.add_pos_left c.utf8Size_pos _

theorem isBoundary_append (left right : List Char) :
    IsBoundary (left ++ right) (byteLength left) := by
  rw [IsBoundary, cutAt?_append]
  rfl

end Text

open RecordTags.Text

namespace Span

/-- The span of a text that starts at a byte. -/
def ofText (start : Nat) (text : List Char) : Span := ⟨start, start + byteLength text⟩

/-- The characters of a text between the bounds of the span. -/
def source? (span : Span) (text : List Char) : Option (List Char) :=
  if span.start ≤ span.stop then
    (cutAt? span.start text).bind fun front =>
      (cutAt? (span.stop - span.start) front.rest).map Split.taken
  else none

/-- The bounds are in order, inside the text and between characters. -/
structure Within (span : Span) (text : List Char) : Prop where
  ordered : span.start ≤ span.stop
  bounded : span.stop ≤ byteLength text
  starts : IsBoundary text span.start
  stops : IsBoundary text span.stop

/-- The span of a part has the part for its source. -/
theorem source?_ofText (before part after : List Char) :
    (ofText (byteLength before) part).source? (before ++ part ++ after) = some part := by
  have ordered : (ofText (byteLength before) part).start ≤ (ofText (byteLength before) part).stop :=
    Nat.le_add_right _ _
  rw [source?, if_pos ordered, List.append_assoc]
  show ((cutAt? (byteLength before) (before ++ (part ++ after))).bind fun front =>
    (cutAt? (byteLength before + byteLength part - byteLength before) front.rest).map
      Split.taken) = some part
  rw [cutAt?_append, Option.bind_some, Nat.add_sub_cancel_left, cutAt?_append]
  rfl

theorem source?_empty (text : List Char) : (empty (byteLength text)).source? text = some [] := by
  have found := source?_ofText text [] []
  rw [List.append_nil, List.append_nil] at found
  exact found

/-- A span has a source exactly where the source stands. -/
theorem source?_eq_some_iff {span : Span} {text part : List Char} :
    span.source? text = some part ↔
      ∃ before after, text = before ++ part ++ after ∧ span = ofText (byteLength before) part := by
  constructor
  · intro found
    unfold source? at found
    split at found
    next ordered =>
      obtain ⟨front, cutFront, inner⟩ := Option.bind_eq_some_iff.1 found
      obtain ⟨back, cutBack, rfl⟩ := Option.map_eq_some_iff.1 inner
      have startLength := byteLength_of_cutAt? cutFront
      have partLength := byteLength_of_cutAt? cutBack
      refine ⟨front.taken, back.rest, ?_, ?_⟩
      · rw [List.append_assoc, back.whole, front.whole]
      · rw [ofText, startLength, partLength, Nat.add_sub_cancel' ordered]
    next => contradiction
  · rintro ⟨before, after, rfl, rfl⟩
    exact source?_ofText before part after

/-- A span that has a source lies within the text. -/
theorem within_of_source? {span : Span} {text part : List Char}
    (found : span.source? text = some part) : span.Within text := by
  obtain ⟨before, after, rfl, rfl⟩ := source?_eq_some_iff.1 found
  refine ⟨Nat.le_add_right _ _, ?_, ?_, ?_⟩
  · show byteLength before + byteLength part ≤ byteLength (before ++ part ++ after)
    rw [byteLength_append, byteLength_append]
    exact Nat.le_add_right _ _
  · rw [List.append_assoc]
    exact isBoundary_append before (part ++ after)
  · show IsBoundary (before ++ part ++ after) (byteLength before + byteLength part)
    rw [← byteLength_append]
    exact isBoundary_append (before ++ part) after

end Span

end RecordTags
