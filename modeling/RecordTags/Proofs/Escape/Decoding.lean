import RecordTags.Proofs.Escape.Pieces

/-!
Contract: the content of a string is what its pieces denote.

Owns:
- one step of decoding: a piece adds its character or is the failure;
- from it, by induction over the pieces: the content of a string all of whose
  pieces denote characters, and the failure at the first one that does not;
- that the number of an escape fits into 32 bits, digit by digit.
-/

namespace RecordTags.Escape

open RecordTags.Text RecordTags.Number

/-! ## Decoding by pieces -/

/-- One step: the first piece adds its character, or decoding fails there. -/
theorem decodeFrom_of_isPiece {piece : Piece} {rest : List Char} (isPiece : IsPiece piece rest)
    (start : Nat) :
    decodeFrom start (piece.source ++ rest) =
      match piece.meaning with
      | some c => (decodeFrom (start + byteLength piece.source) rest).map (c :: ·)
      | none => .error (invalid start piece.source) := by
  have first := isPiece.firstPiece?
  generalize split : piece.source ++ rest = text at first
  fun_cases decodeFrom start text with
  | case1 => contradiction
  | case2 c behind notBackslash =>
      obtain rfl : piece = ⟨[c], some c⟩ := by
        simpa [firstPiece?, notBackslash, eq_comm] using first
      obtain rfl : rest = behind := List.append_cancel_left split
      rfl
  | case3 c isBackslash => simp [firstPiece?, isBackslash] at first
  | case4 c isBackslash letter behind letterEnd meaning known =>
      obtain rfl : piece = ⟨[c, letter], some meaning⟩ := by
        simpa [firstPiece?, isBackslash, known, eq_comm] using first
      obtain rfl : rest = behind := List.append_cancel_left split
      rfl
  | case5 c isBackslash letter behind unknown notNumeric =>
      obtain rfl : piece = ⟨[c, letter], none⟩ := by
        simpa [firstPiece?, isBackslash, unknown, notNumeric, eq_comm] using first
      rfl
  | case6 c isBackslash letter behind unknown numeric isNumeric missing =>
      obtain rfl : piece = ⟨[c, letter], none⟩ := by
        simpa [firstPiece?, isBackslash, unknown, isNumeric, missing, eq_comm] using first
      rfl
  | case7 c isBackslash letter behind unknown numeric isNumeric digits after taken _ noCharacter =>
      obtain rfl : piece = ⟨c :: letter :: digits, none⟩ := by
        simpa [firstPiece?, isBackslash, unknown, isNumeric, taken, noCharacter, eq_comm]
          using first
      rfl
  | case8 c isBackslash letter behind letterEnd unknown numeric isNumeric digits after taken _
      meaning character =>
      obtain rfl : piece = ⟨c :: letter :: digits, some meaning⟩ := by
        simpa [firstPiece?, isBackslash, unknown, isNumeric, taken, character, eq_comm] using first
      obtain rfl : rest = after := by
        rw [(takeDigits?_eq_some_iff.1 taken).1] at split
        exact List.append_cancel_left split
      have position : letterEnd + byteLength digits =
          start + byteLength (c :: letter :: digits) := by
        simp only [letterEnd, byteLength_cons, byteLength_nil]
        omega
      rw [position]

/-- Pieces that all denote characters are decoded to these. -/
theorem decodeFrom_of_all {text : List Char} {pieces : List Piece} (cut : Pieces text pieces)
    (all : ∀ piece ∈ pieces, piece.meaning ≠ none) (start : Nat) :
    decodeFrom start text = .ok (pieces.filterMap Piece.meaning) := by
  induction cut generalizing start with
  | nil =>
      rw [decodeFrom]
      rfl
  | @cons piece rest others isPiece _ inductionHypothesis =>
      obtain ⟨denotes, allOthers⟩ := List.forall_mem_cons.1 all
      obtain ⟨c, isMeaning⟩ := Option.ne_none_iff_exists'.1 denotes
      rw [decodeFrom_of_isPiece isPiece, isMeaning, inductionHypothesis allOthers,
        List.filterMap_cons_some isMeaning]
      rfl

/-- The first piece that denotes nothing is the failure, at its place. -/
theorem decodeFrom_of_first {text : List Char} {before after : List Piece} {bad : Piece}
    (cut : Pieces text (before ++ bad :: after)) (all : ∀ piece ∈ before, piece.meaning ≠ none)
    (denotesNothing : bad.meaning = none) (start : Nat) :
    decodeFrom start text =
      .error (invalid (start + byteLength (before.flatMap Piece.source)) bad.source) := by
  induction before generalizing text start with
  | nil =>
      cases cut with
      | cons isPiece _ =>
          rw [decodeFrom_of_isPiece isPiece, denotesNothing]
          rfl
  | cons piece before inductionHypothesis =>
      obtain ⟨denotes, allOthers⟩ := List.forall_mem_cons.1 all
      obtain ⟨c, isMeaning⟩ := Option.ne_none_iff_exists'.1 denotes
      cases cut with
      | cons isPiece behind =>
          rw [decodeFrom_of_isPiece isPiece, isMeaning, inductionHypothesis behind allOthers,
            List.flatMap_cons, byteLength_append, ← Nat.add_assoc]
          rfl

/-- All pieces denote characters, or one is the first that does not. -/
theorem all_or_exists_first (pieces : List Piece) :
    (∀ piece ∈ pieces, piece.meaning ≠ none) ∨
      ∃ before bad after, pieces = before ++ bad :: after ∧
        (∀ piece ∈ before, piece.meaning ≠ none) ∧ bad.meaning = none := by
  induction pieces with
  | nil => exact .inl (by simp)
  | cons piece others inductionHypothesis =>
      by_cases denotesNothing : piece.meaning = none
      · exact .inr ⟨[], piece, others, rfl, by simp, denotesNothing⟩
      · rcases inductionHypothesis with all | ⟨before, bad, after, rfl, all, isBad⟩
        · exact .inl (List.forall_mem_cons.2 ⟨denotesNothing, all⟩)
        · exact .inr ⟨piece :: before, bad, after, rfl,
            List.forall_mem_cons.2 ⟨denotesNothing, all⟩, isBad⟩

/-! ## Words of 32 bits -/

/-- The digits of an escape are taken in from the left. No number on the way, and not the number of
the whole escape, needs more than 32 bits. -/
theorem digits_lt_word {letter : Char} {numeric : NumericEscape} {text digits rest : List Char}
    (isNumeric : numericEscape? letter = some numeric)
    (taken : takeDigits? numeric.base numeric.count text = some (digits, rest)) :
    (∀ front, front <+: digits → ofDigits numeric.base (digitValues numeric.base front) < 2 ^ 32) ∧
      numeric.codePoint digits < 2 ^ 32 := by
  obtain ⟨-, complete, all⟩ := takeDigits?_eq_some_iff.1 taken
  have small : numeric.base ≤ 16 := (takesDigits_of_numericEscape? isNumeric).base_le
  have few : numeric.count ≤ 8 := by
    rcases numericEscape?_cases isNumeric with ⟨width, known, rfl⟩ | ⟨digit, -, rfl⟩
    · have narrow : ∀ entry ∈ widths, entry.2 ≤ 8 := by decide
      exact narrow _ known
    · show 2 ≤ 8
      decide
  have onTheWay : ∀ front, front <+: digits →
      ofDigits numeric.base (digitValues numeric.base front) < 2 ^ 32 := by
    intro front isFront
    have written : List.Forall₂ (WritesDigit numeric.base) front _ :=
      (forall₂_writes_iff small).2 ⟨fun c member => all c (isFront.subset member), rfl⟩
    have short : front.length ≤ 8 := Nat.le_trans isFront.length_le (complete ▸ few)
    calc ofDigits numeric.base (digitValues numeric.base front)
        < numeric.base ^ front.length := by
          rw [written.length_eq]
          exact ofDigits_lt (lt_of_writes written)
      _ ≤ 16 ^ front.length := Nat.pow_le_pow_left small _
      _ ≤ 16 ^ 8 := Nat.pow_le_pow_right (by decide) short
  refine ⟨onTheWay, ?_⟩
  have written : List.Forall₂ (WritesDigit numeric.base) digits _ :=
    (forall₂_writes_iff small).2 ⟨all, rfl⟩
  rcases numericEscape?_cases isNumeric with ⟨width, known, rfl⟩ | ⟨digit, writes, rfl⟩
  · rw [codePoint_of_written small written, ofDigits_zero_cons]
    exact onTheWay digits (List.prefix_refl digits)
  · have three : (digit :: digitValues 8 digits).length = 3 := by
      rw [List.length_cons, ← written.length_eq, complete]
    rw [codePoint_of_written small written]
    refine Nat.lt_trans (ofDigits_lt (lt_of_writes (.cons writes written))) ?_
    rw [three]
    show 8 ^ 3 < 2 ^ 32
    decide

/-! ## String tokens -/

/-- The inside of a string token is cut into pieces in exactly one way. Its content is the
characters of the pieces, or it is refused at the first piece that denotes none. -/
structure Decodes (start : Nat) (text : List Char) (pieces : List Piece) : Prop where
  quoted : ∃ quote inside, IsQuote quote ∧ text = quote :: inside ++ [quote] ∧
    Pieces inside pieces ∧ ∀ others, Pieces inside others → others = pieces
  outcome :
    ((∀ piece ∈ pieces, piece.meaning ≠ none) ∧
      unquote start text = .ok (String.ofList (pieces.filterMap Piece.meaning))) ∨
    ∃ before bad after error, pieces = before ++ bad :: after ∧
      (∀ piece ∈ before, piece.meaning ≠ none) ∧ bad.meaning = none ∧
      unquote start text = .error error ∧ error.code.id = "TAG1102" ∧
      error.span.start = start + 1 + byteLength (before.flatMap Piece.source) ∧
      error.span.stop = error.span.start + byteLength bad.source

theorem unquote_of_inside (start : Nat) (quote : Char) (inside : List Char) :
    unquote start (quote :: inside ++ [quote]) =
      (decodeFrom (start + 1) inside).map String.ofList := by
  rw [unquote, List.cons_append, List.drop_one, List.tail_cons, List.dropLast_concat]

/-- Every quoted literal is decoded or refused piece by piece. -/
theorem exists_decodes {text : List Char} (isQuoted : IsQuoted text) (start : Nat) :
    ∃ pieces, Decodes start text pieces := by
  obtain ⟨quote, tail, rfl, isQuote, isTail⟩ := isQuoted
  obtain ⟨inside, rfl⟩ := exists_inside isTail
  obtain ⟨pieces, cut⟩ := exists_pieces inside isTail
  refine ⟨pieces, ⟨quote, inside, isQuote, rfl, cut, fun _ again => again.unique cut⟩, ?_⟩
  rw [← List.cons_append, unquote_of_inside]
  rcases all_or_exists_first pieces with all | ⟨before, bad, after, rfl, all, isBad⟩
  · exact .inl ⟨all, by rw [decodeFrom_of_all cut all]; rfl⟩
  · refine .inr ⟨before, bad, after, invalid _ bad.source, rfl, all, isBad, ?_, rfl, rfl, rfl⟩
    rw [decodeFrom_of_first cut all isBad]
    rfl

/-- String tokens are decoded exactly, and the numbers of their escapes fit into 32 bits. -/
theorem strings_decoded {text : String} {token : Token} (member : token ∈ Token.scan text)
    (isString : token.kind = .string) :
    (∃ pieces, Decodes token.span.start token.text.toList pieces) ∧
      ∀ letter numeric behind digits rest, numericEscape? letter = some numeric →
        takeDigits? numeric.base numeric.count behind = some (digits, rest) →
        (∀ front, front <+: digits →
          ofDigits numeric.base (digitValues numeric.base front) < 2 ^ 32) ∧
        numeric.codePoint digits < 2 ^ 32 := by
  have spelled := (Token.scan_sequence text).spelled token member
  rw [Token.Spelled, isString] at spelled
  refine ⟨exists_decodes spelled _, ?_⟩
  intro letter numeric behind digits rest isNumeric taken
  exact digits_lt_word isNumeric taken

theorem strings_decoded_bothOutcomes :
    (Token.ofText .string 2 "'\\x41\\101\\u00e9\\''".toList ∈
        Token.scan "a='\\x41\\101\\u00e9\\'';\"é\\uD800\"" ∧
      ∃ pieces, Decodes 2 "'\\x41\\101\\u00e9\\''".toList pieces) ∧
    Token.ofText .string 21 "\"é\\uD800\"".toList ∈
        Token.scan "a='\\x41\\101\\u00e9\\'';\"é\\uD800\"" ∧
      ∃ pieces, Decodes 21 "\"é\\uD800\"".toList pieces := by
  have members :
      Token.ofText .string 2 "'\\x41\\101\\u00e9\\''".toList ∈
          Token.scan "a='\\x41\\101\\u00e9\\'';\"é\\uD800\"" ∧
        Token.ofText .string 21 "\"é\\uD800\"".toList ∈
          Token.scan "a='\\x41\\101\\u00e9\\'';\"é\\uD800\"" := by
    decide +kernel
  exact ⟨⟨members.1, (strings_decoded members.1 rfl).1⟩, members.2,
    (strings_decoded members.2 rfl).1⟩

end RecordTags.Escape
