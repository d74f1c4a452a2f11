import RecordTags.Proofs.Checked.Scanner
import RecordTags.Proofs.Escape.Pieces

/-!
Contract: the content of a quoted string, with every operation that can fail.

Owns:
- `unquote`, which cuts the quotes off and goes through the characters between
  them with their offsets. It insists on the quotes: a text without them, or too
  short to have two, is a failure. So is a backslash with nothing behind it, and a
  bad escape whose source or span cannot be had;
- that nothing fails on a string that the scanner has found, and that the content
  is that of `Escape.unquote`.

What keeps a backslash from being last is the scanner: it has passed over the
character behind every backslash, and found the closing quote after that.
-/

namespace RecordTags.Checked

open RecordTags.Text

/-- The distance from one offset up to another. -/
def difference? (stop start : Nat) : Option Nat :=
  if start ≤ stop then some (stop - start) else none

theorem difference?_add (start distance : Nat) :
    difference? (start + distance) start = some distance := by
  rw [difference?, if_pos (Nat.le_add_right _ _), Nat.add_sub_cancel_left]

/-- The failure of an escape between two bytes of the tag, in a string at `offset`. -/
def badEscape (quoted : List Char) (offset start stop : Nat) : Option TagError := do
  let source ← slice? quoted (← difference? start offset) (← difference? stop offset)
  let span ← Span.ofBounds? start stop
  return .invalidEscape (String.ofList source) span

/-- Digits at the head of a text that starts at an index of the inside: the digits, the byte of
the tag behind them, and the index and the text that follow. -/
def takeDigits (base offset : Nat) : (count stop index : Nat) → List Char →
    Option (List Char × Nat × Nat × List Char)
  | 0, stop, index, text => some ([], stop, index, text)
  | _ + 1, _, _, [] => none
  | count + 1, _, index, c :: rest =>
    if isDigitIn base c then
      let taken? := takeDigits base offset count (offset + 1 + index + c.utf8Size)
        (index + c.utf8Size) rest
      taken?.map fun (digits, behind) => (c :: digits, behind)
    else none

/-- How far the inside of a string is decoded: its content so far, and the index and the text that
are left of it. -/
structure Decoding where
  content : List Char
  index : Nat
  text : List Char

/-- Decodes a character or an escape. -/
def decodeNext (quoted : List Char) (offset : Nat) (state : Decoding) :
    Option (Except TagError (List Char) ⊕ Decoding) := do
  match state.text with
  | [] => return .inl (.ok state.content)
  | c :: rest =>
    let index := state.index + c.utf8Size
    if c != '\\' then return .inr ⟨state.content ++ [c], index, rest⟩
    else
      let start := offset + 1 + state.index
      match rest with
      | [] => none
      | letter :: rest =>
        let behind := offset + 1 + index + letter.utf8Size
        let index := index + letter.utf8Size
        match Escape.letterMeaning? letter with
        | some meaning => return .inr ⟨state.content ++ [meaning], index, rest⟩
        | none =>
          match Escape.numericEscape? letter with
          | none => return .inl (.error (← badEscape quoted offset start behind))
          | some numeric =>
            match takeDigits numeric.base offset numeric.count behind index rest with
            | none => return .inl (.error (← badEscape quoted offset start behind))
            | some (digits, stop, index, rest) =>
              match numeric.character? (numeric.codePoint digits) with
              | none => return .inl (.error (← badEscape quoted offset start stop))
              | some meaning => return .inr ⟨state.content ++ [meaning], index, rest⟩

noncomputable def decode (quoted : List Char) (offset : Nat) :
    Decoding → Option (Except TagError (List Char)) :=
  loop (decodeNext quoted offset)

/-- The text has at least two bytes, and starts and ends with the same quote. -/
def isEnclosed (quoted : List Char) : Bool :=
  2 ≤ byteLength quoted && quoted.head? == quoted.getLast? &&
    (quoted.head? == some '\x22' || quoted.head? == some '\x27')

/-- The content of a quoted string whose opening quote is at byte `offset`. -/
noncomputable def unquote (offset : Nat) (quoted : List Char) :
    Option (Except TagError String) := do
  if isEnclosed quoted then
    let inside ← slice? quoted 1 (← difference? (byteLength quoted) 1)
    let decoded ← decode quoted offset ⟨[], 0, inside⟩
    return decoded.map String.ofList
  else none

/-! ## Nothing fails -/

/-- The source of an escape can be cut out where it stands, and its bounds are in order. -/
theorem badEscape_eq {quoted source rest : List Char} {index : Nat} (offset : Nat)
    (facing : Facing quoted (1 + index) (source ++ rest)) :
    badEscape quoted offset (offset + 1 + index) (offset + 1 + (index + byteLength source)) =
      some (Escape.invalid (offset + 1 + index) source) := by
  have start : difference? (offset + 1 + index) offset = some (1 + index) := by
    rw [Nat.add_assoc, difference?_add]
  have stop : difference? (offset + 1 + (index + byteLength source)) offset =
      some (1 + index + byteLength source) := by
    rw [Nat.add_assoc, ← Nat.add_assoc 1, difference?_add]
  have ordered : Span.ofBounds? (offset + 1 + index) (offset + 1 + (index + byteLength source)) =
      some ⟨offset + 1 + index, offset + 1 + index + byteLength source⟩ := by
    rw [← Nat.add_assoc, Span.ofBounds?, if_pos (Nat.le_add_right _ _)]
  simp only [badEscape, start, stop, Option.bind_eq_bind, Option.bind_some, facing.slice?, ordered]
  rfl

/-- Digits move the index and the byte of the tag by their length. -/
theorem takeDigits_eq (base offset count index : Nat) (text : List Char) :
    takeDigits base offset count (offset + 1 + index) index text =
      (Escape.takeDigits? base count text).map fun (digits, rest) =>
        (digits, offset + 1 + index + byteLength digits, index + byteLength digits, rest) := by
  induction count generalizing index text with
  | zero => rfl
  | succ count inductionHypothesis =>
    cases text with
    | nil => rfl
    | cons c rest =>
      by_cases isDigit : isDigitIn base c = true
      · rw [takeDigits, Escape.takeDigits?, if_pos isDigit, if_pos isDigit, Nat.add_assoc _ index,
          inductionHypothesis, Option.map_map, Option.map_map]
        congr 1
        funext taken
        simp [Nat.add_assoc]
      · simp [takeDigits, Escape.takeDigits?, isDigit]

theorem facing_inside {quoted taken rest : List Char} {index : Nat}
    (facing : Facing quoted (1 + index) (taken ++ rest)) :
    Facing quoted (1 + (index + byteLength taken)) rest := by
  rw [← Nat.add_assoc]
  exact facing.advance

/-- One escape. The offsets that are kept of single characters add up to the length of what has
been read. -/
theorem decodeNext_escape (quoted : List Char) (offset : Nat) (content : List Char) (index : Nat)
    (letter : Char) (rest : List Char) :
    decodeNext quoted offset ⟨content, index, '\\' :: letter :: rest⟩ = do
      let unknown := badEscape quoted offset (offset + 1 + index)
        (offset + 1 + (index + byteLength ['\\', letter]))
      match Escape.letterMeaning? letter with
      | some meaning => return .inr ⟨content ++ [meaning], index + byteLength ['\\', letter], rest⟩
      | none =>
        match Escape.numericEscape? letter with
        | none => return .inl (.error (← unknown))
        | some numeric =>
          match Escape.takeDigits? numeric.base numeric.count rest with
          | none => return .inl (.error (← unknown))
          | some (digits, rest) =>
            let stop := index + byteLength ('\\' :: letter :: digits)
            match numeric.character? (numeric.codePoint digits) with
            | none =>
              let outside ← badEscape quoted offset (offset + 1 + index) (offset + 1 + stop)
              return .inl (.error outside)
            | some meaning => return .inr ⟨content ++ [meaning], stop, rest⟩ := by
  have letterIndex : index + '\\'.utf8Size + letter.utf8Size =
      index + byteLength ['\\', letter] := Nat.add_assoc _ _ _
  have letterEnd : offset + 1 + (index + '\\'.utf8Size) + letter.utf8Size =
      offset + 1 + (index + byteLength ['\\', letter]) := by
    rw [Nat.add_assoc, letterIndex]
  rw [decodeNext]
  simp only [bne_self_eq_false, Bool.false_eq_true, if_false, letterIndex, letterEnd,
    takeDigits_eq]
  cases Escape.letterMeaning? letter with
  | some meaning => rfl
  | none =>
    cases Escape.numericEscape? letter with
    | none => rfl
    | some numeric =>
      dsimp only
      cases Escape.takeDigits? numeric.base numeric.count rest with
      | none => rfl
      | some taken =>
        obtain ⟨digits, behind⟩ := taken
        have digitsIndex : index + byteLength ['\\', letter] + byteLength digits =
            index + byteLength ('\\' :: letter :: digits) := by
          simp [Nat.add_assoc]
        have digitsEnd : offset + 1 + (index + byteLength ['\\', letter]) + byteLength digits =
            offset + 1 + (index + byteLength ('\\' :: letter :: digits)) := by
          rw [Nat.add_assoc, digitsIndex]
        simp only [Option.map_some, digitsIndex, digitsEnd]

/-- A character of the content, whether it is kept with what is decoded or with what is left. -/
theorem map_content (content : List Char) (c : Char) (left : Except TagError (List Char)) :
    left.map (content ++ [c] ++ ·) = (left.map (c :: ·)).map (content ++ ·) := by
  cases left with
  | error error => rfl
  | ok text =>
    show Except.ok (content ++ [c] ++ text) = _
    rw [List.append_assoc]
    rfl

/-- A round that takes a character leaves the rest to the rounds behind it. -/
theorem decode_of_next {quoted content text rest : List Char} {offset index next : Nat} {c : Char}
    {left : Except TagError (List Char)}
    (goesOn : decodeNext quoted offset ⟨content, index, text⟩ =
      some (.inr ⟨content ++ [c], next, rest⟩))
    (decoded : decode quoted offset ⟨content ++ [c], next, rest⟩ =
      some (left.map (content ++ [c] ++ ·))) :
    decode quoted offset ⟨content, index, text⟩ =
      some ((left.map (c :: ·)).map (content ++ ·)) := by
  rw [decode, loop_of_next goesOn, ← map_content]
  exact decoded

/-- A round that finds a bad escape ends with its report. -/
theorem decode_of_bad {quoted content text source rest : List Char} {offset index start : Nat}
    (isStart : offset + 1 + index = start) (facing : Facing quoted (1 + index) (source ++ rest))
    (isBad : decodeNext quoted offset ⟨content, index, text⟩ = do
      let report ← badEscape quoted offset (offset + 1 + index)
        (offset + 1 + (index + byteLength source))
      return .inl (.error report)) :
    decode quoted offset ⟨content, index, text⟩ = some (.error (Escape.invalid start source)) := by
  rw [badEscape_eq offset facing, isStart] at isBad
  exact loop_of_done isBad

/-- What is left behind a numeric escape stands behind its last digit. -/
theorem facing_digits {quoted rest digits behind : List Char} {quote letter : Char}
    {base count index : Nat} (taken : Escape.takeDigits? base count rest = some (digits, behind))
    (facing : Facing quoted (1 + index) ('\\' :: letter :: (rest ++ [quote]))) :
    Facing quoted (1 + index) (('\\' :: letter :: digits) ++ (behind ++ [quote])) := by
  obtain ⟨rfl, -, -⟩ := Escape.takeDigits?_eq_some_iff.1 taken
  simpa using facing

/-- The offset behind a numeric escape, counted in one piece and from its first digit. -/
theorem offset_behind_digits {offset index start : Nat} (isStart : offset + 1 + index = start)
    (letter : Char) (digits : List Char) :
    offset + 1 + (index + byteLength ('\\' :: letter :: digits)) =
      start + byteLength ['\\', letter] + byteLength digits := by
  rw [← Nat.add_assoc, isStart, Nat.add_assoc, ← byteLength_append]
  rfl

/-- The inside of a string is decoded as far as it goes. The closing quote is still ahead, and
every backslash has a character behind it. -/
theorem decode_eq {quoted text : List Char} {quote : Char} {index : Nat} (offset : Nat)
    (content : List Char) (facing : Facing quoted (1 + index) (text ++ [quote]))
    (closes : IsQuoteTail quote (text ++ [quote])) :
    decode quoted offset ⟨content, index, text⟩ =
      some ((Escape.decodeFrom (offset + 1 + index) text).map (content ++ ·)) := by
  generalize isStart : offset + 1 + index = start
  fun_induction Escape.decodeFrom start text generalizing content index with
  | case1 start =>
    apply loop_of_done
    show some _ = some (Sum.inl (Except.ok (content ++ [])))
    rw [List.append_nil]
  | case2 start c rest notBackslash inductionHypothesis =>
    have whole : Facing quoted (1 + index) ([c] ++ (rest ++ [quote])) := facing
    have closesWhole : IsQuoteTail quote ([c] ++ (rest ++ [quote])) := closes
    refine decode_of_next (if_pos notBackslash) ?_
    apply inductionHypothesis _ (facing_inside whole)
    · exact Escape.isQuoteTail_of_append (by simpa using notBackslash) (by simp) closesWhole
    · rw [← Nat.add_assoc, isStart]
      rfl
  | case3 start c isBackslash =>
    -- the scanner would have taken the quote for the character behind the backslash
    obtain rfl : c = '\\' := by simpa using isBackslash
    have nothing : IsQuoteTail quote [] := Escape.isQuoteTail_of_escaped closes
    contradiction
  | case4 start c isBackslash letter rest letterEnd meaning isLetter =>
    rename_i inductionHypothesis
    obtain rfl : c = '\\' := by simpa using isBackslash
    have whole : Facing quoted (1 + index) (['\\', letter] ++ (rest ++ [quote])) := facing
    apply decode_of_next (by rw [decodeNext_escape]; simp only [isLetter]; rfl)
    apply inductionHypothesis _ (facing_inside whole) (Escape.isQuoteTail_of_escaped closes)
    rw [← Nat.add_assoc, isStart]
  | case5 start c isBackslash letter rest noLetter notNumeric =>
    obtain rfl : c = '\\' := by simpa using isBackslash
    have whole : Facing quoted (1 + index) (['\\', letter] ++ (rest ++ [quote])) := facing
    apply decode_of_bad isStart whole
    rw [decodeNext_escape]
    simp only [noLetter, notNumeric]
  | case6 start c isBackslash letter rest noLetter numeric isNumeric noDigits =>
    obtain rfl : c = '\\' := by simpa using isBackslash
    have whole : Facing quoted (1 + index) (['\\', letter] ++ (rest ++ [quote])) := facing
    apply decode_of_bad isStart whole
    rw [decodeNext_escape]
    simp only [noLetter, isNumeric, noDigits]
  | case7 start c isBackslash letter rest noLetter numeric isNumeric digits behind taken
      shorter noCharacter =>
    obtain rfl : c = '\\' := by simpa using isBackslash
    have whole := facing_digits taken facing
    apply decode_of_bad isStart whole
    rw [decodeNext_escape]
    simp only [noLetter, isNumeric, taken, noCharacter]
  | case8 start c isBackslash letter rest letterEnd noLetter numeric isNumeric digits behind taken
      shorter meaning isCharacter =>
    rename_i inductionHypothesis
    obtain rfl : c = '\\' := by simpa using isBackslash
    have whole := facing_digits taken facing
    have closesBehind := Escape.isQuoteTail_behind_digits isNumeric taken closes
    apply decode_of_next (by
      rw [decodeNext_escape]
      simp only [noLetter, isNumeric, taken, isCharacter]
      rfl)
    exact inductionHypothesis _ (facing_inside whole) closesBehind
      (offset_behind_digits isStart letter digits)

/-- Nothing fails on a quoted literal. -/
theorem unquote_eq {quoted : List Char} (isQuoted : IsQuoted quoted) (offset : Nat) :
    unquote offset quoted = some (Escape.unquote offset quoted) := by
  obtain ⟨quote, tail, rfl, isQuote, isTail⟩ := isQuoted
  obtain ⟨inside, rfl⟩ := Escape.exists_inside isTail
  have oneByte : quote.utf8Size = 1 := by rcases isQuote with rfl | rfl <;> rfl
  have length : byteLength (quote :: (inside ++ [quote])) = 1 + (1 + byteLength inside) := by
    simp [oneByte, Nat.add_comm]
  have enclosed : isEnclosed (quote :: (inside ++ [quote])) = true := by
    have atLeastTwo : 2 ≤ 1 + (1 + byteLength inside) := by omega
    rw [isEnclosed, length, ← List.cons_append, List.getLast?_concat]
    rcases isQuote with rfl | rfl <;> simp [atLeastTwo]
  have behindQuote : Facing (quote :: (inside ++ [quote])) (1 + 0) (inside ++ [quote]) :=
    ⟨[quote], rfl, by rw [byteLength_cons, oneByte, byteLength_nil]⟩
  have decoded : decode (quote :: (inside ++ [quote])) offset ⟨[], 0, inside⟩ =
      some (Escape.decodeFrom (offset + 1) inside) :=
    (decode_eq offset [] behindQuote isTail).trans (congrArg some (congrFun Except.map_id _))
  have sliced : slice? (quote :: (inside ++ [quote])) 1 (1 + byteLength inside) = some inside :=
    behindQuote.slice?
  rw [unquote, if_pos enclosed, length, difference?_add]
  simp only [Option.bind_eq_bind, Option.bind_some, sliced, decoded]
  rw [Escape.unquote, List.drop_one, List.tail_cons, List.dropLast_concat]
  rfl

end RecordTags.Checked
