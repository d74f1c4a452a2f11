import RecordTags.Proofs.Number.Extent
import RecordTags.Proofs.Token.Whole

/-!
Contract: a separator behind a text changes none of the tokens before it.

Owns:
- `Split.extend`, the same cut of a longer text;
- that each extent of the scanner is the same cut when a separator and anything
  behind it follow the text, and so is each step that gives a token.

A text that stands alone is thus scanned as it is in front of a separator. What
the scanner looks for at its end is not part of this.
-/

namespace RecordTags

namespace Text

/-! ## Cuts of a longer text -/

namespace Split

/-- The same cut of a longer text. -/
def extend {text : List Char} (split : Split text) (more : List Char) : Split (text ++ more) :=
  ⟨split.taken, split.rest ++ more, by rw [← List.append_assoc, split.whole]⟩

theorem eq_of_taken {text : List Char} {left right : Split text}
    (same : left.taken = right.taken) : left = right := by
  obtain ⟨taken, rest, whole⟩ := left
  obtain ⟨otherTaken, otherRest, otherWhole⟩ := right
  obtain rfl : taken = otherTaken := same
  obtain rfl : rest = otherRest := List.append_cancel_left (whole.trans otherWhole.symm)
  rfl

theorem run_extend {p : Char → Bool} {c : Char} (stops : p c = false) (text after : List Char) :
    run p (text ++ c :: after) = (run p text).extend (c :: after) := by
  apply eq_of_taken
  show (text ++ c :: after).takeWhile p = text.takeWhile p
  induction text with
  | nil => rw [List.nil_append, List.takeWhile_cons, stops]; rfl
  | cons first rest inductionHypothesis =>
      rw [List.cons_append, List.takeWhile_cons, List.takeWhile_cons, inductionHypothesis]

theorem one_extend {p : Char → Bool} {c : Char} (stops : p c = false) (text after : List Char) :
    one p (text ++ c :: after) = (one p text).extend (c :: after) := by
  cases text with
  | nil =>
      show one p (c :: after) = none (c :: after)
      simp only [one, stops, Bool.false_eq_true, if_false]
  | cons first rest =>
      show one p (first :: (rest ++ c :: after)) = _
      rw [one, one]
      split_ifs <;> rfl

theorem andThen_extend {text more : List Char} {next : (rest : List Char) → Split rest}
    (continues : ∀ rest, next (rest ++ more) = (next rest).extend more) (first : Split text) :
    (first.extend more).andThen next = (first.andThen next).extend more := by
  apply eq_of_taken
  show first.taken ++ (next (first.rest ++ more)).taken = first.taken ++ (next first.rest).taken
  rw [continues]
  rfl

end Split

end Text

open RecordTags.Text

namespace Token

/-! ## Extents -/

section

variable {c : Char} (separator : c ∈ [',', ';', '=']) (after : List Char)

include separator

theorem fractionExtent_extend (radix : Radix) (text : List Char) :
    fractionExtent radix (text ++ c :: after) =
      (fractionExtent radix text).extend (c :: after) := by
  have notDigit := Number.isDigitOrUnderscore_separator radix c separator
  cases text with
  | nil =>
      have notPoint : ∀ c ∈ [',', ';', '='], (c == '.') = false := by decide
      show fractionExtent radix (c :: after) = .none (c :: after)
      simp only [fractionExtent, notPoint c separator, Bool.false_eq_true, if_false]
  | cons first rest =>
      show fractionExtent radix (first :: (rest ++ c :: after)) = _
      rw [fractionExtent, fractionExtent]
      split_ifs
      · rw [Split.run_extend notDigit]
        rfl
      · rfl

theorem exponentExtent_extend (radix : Radix) (text : List Char) :
    exponentExtent radix (text ++ c :: after) =
      (exponentExtent radix text).extend (c :: after) := by
  have notDigit := Number.isDigitOrUnderscore_separator .decimal c separator
  have notSign := Number.isSign_separator c separator
  cases text with
  | nil =>
      have notMark := Number.isExponentMark_separator radix c separator
      show exponentExtent radix (c :: after) = .none (c :: after)
      simp only [exponentExtent, notMark, Bool.false_eq_true, if_false]
  | cons first rest =>
      show exponentExtent radix (first :: (rest ++ c :: after)) = _
      rw [exponentExtent, exponentExtent]
      split_ifs
      · rw [Split.one_extend notSign,
          Split.andThen_extend fun rest => Split.run_extend notDigit rest after]
        rfl
      · rfl

theorem digitsExtent_extend (radix : Radix) (text : List Char) :
    digitsExtent radix (text ++ c :: after) = (digitsExtent radix text).extend (c :: after) := by
  have notDigit := Number.isDigitOrUnderscore_separator radix c separator
  unfold digitsExtent
  rw [Split.run_extend notDigit,
    Split.andThen_extend (fractionExtent_extend separator after radix),
    Split.andThen_extend (exponentExtent_extend separator after radix)]

theorem afterZeroExtent_extend (text : List Char) :
    afterZeroExtent (text ++ c :: after) = (afterZeroExtent text).extend (c :: after) := by
  cases text with
  | nil =>
      have noLetter : ∀ c ∈ [',', ';', '='], Radix.ofLetter? c = none := by decide
      show afterZeroExtent (c :: after) = _
      simp only [afterZeroExtent, noLetter c separator]
      exact digitsExtent_extend separator after .decimal []
  | cons letter rest =>
      show afterZeroExtent (letter :: (rest ++ c :: after)) = _
      rw [afterZeroExtent, afterZeroExtent]
      cases Radix.ofLetter? letter with
      | some radix =>
          simp only [digitsExtent_extend separator after radix]
          rfl
      | none => exact digitsExtent_extend separator after .decimal (letter :: rest)

/-- A numeral is not extended by a text behind a character that stops it. -/
theorem unsignedExtent_extend (text : List Char) :
    unsignedExtent (text ++ c :: after) = (unsignedExtent text).extend (c :: after) := by
  cases text with
  | nil =>
      have notZero : ∀ c ∈ [',', ';', '='], (c == '0') = false := by decide
      show unsignedExtent (c :: after) = _
      simp only [unsignedExtent, notZero c separator, Bool.false_eq_true, if_false]
      exact digitsExtent_extend separator after .decimal []
  | cons first rest =>
      show unsignedExtent (first :: (rest ++ c :: after)) = _
      rw [unsignedExtent, unsignedExtent]
      split_ifs
      · rw [afterZeroExtent_extend separator]
        rfl
      · exact digitsExtent_extend separator after .decimal (first :: rest)

theorem numberTail_extend (first : Char) (text : List Char) :
    numberTail first (text ++ c :: after) = (numberTail first text).extend (c :: after) := by
  unfold numberTail
  split_ifs
  · exact unsignedExtent_extend separator after text
  · exact afterZeroExtent_extend separator after text
  · exact digitsExtent_extend separator after .decimal text

end

/-- A quote that is closed stays closed at the same place, whatever follows. -/
theorem quoteTail?_extend {quote : Char} {text : List Char} {tail : Split text}
    (found : quoteTail? quote text = some tail) (more : List Char) :
    quoteTail? quote (text ++ more) = some (tail.extend more) := by
  fun_induction quoteTail? quote text with
  | case1 => contradiction
  | case2 => contradiction
  | case3 c isBackslash escaped rest inductionHypothesis =>
      obtain ⟨inner, innerFound, rfl⟩ := Option.map_eq_some_iff.1 found
      show quoteTail? quote (c :: escaped :: (rest ++ more)) = _
      rw [quoteTail?, if_pos isBackslash, inductionHypothesis innerFound]
      rfl
  | case4 c rest notBackslash isQuote =>
      cases found
      show quoteTail? quote (c :: (rest ++ more)) = _
      rw [quoteTail?.eq_def]
      simp only [if_neg notBackslash, if_pos isQuote]
      rfl
  | case5 c rest notBackslash notQuote inductionHypothesis =>
      obtain ⟨inner, innerFound, rfl⟩ := Option.map_eq_some_iff.1 found
      show quoteTail? quote (c :: (rest ++ more)) = _
      rw [quoteTail?.eq_def]
      simp only [if_neg notBackslash, if_neg notQuote, inductionHypothesis innerFound]
      rfl

/-! ## Steps -/

section

variable {c : Char} (separator : c ∈ [',', ';', '=']) (after : List Char)

include separator

/-- A name or a number stays a token of the longer text. -/
theorem closed_extend {text : List Char} {kind emitted : TokenKind} {first : Char}
    {tail taken : Split text} {next : Expect}
    (stepped : closed kind first tail = .token emitted taken next) :
    closed kind first (tail.extend (c :: after)) =
      .token emitted (taken.extend (c :: after)) next := by
  obtain ⟨rfl, rfl, rfl⟩ := eq_of_closed_eq_token stepped
  unfold closed at stepped ⊢
  -- where the end of the text closed the token, the separator does
  cases rest : taken.rest with
  | nil =>
      have behind : (taken.extend (c :: after)).rest = c :: after := by
        show taken.rest ++ c :: after = _
        rw [rest, List.nil_append]
      simp only [behind, isTerminator_separator c separator, if_true]
  | cons head others =>
      have behind : (taken.extend (c :: after)).rest = head :: (others ++ c :: after) := by
        show taken.rest ++ c :: after = _
        rw [rest, List.cons_append]
      simp only [rest] at stepped
      simp only [behind]
      split_ifs at stepped ⊢
      rfl

theorem wordStep_extend {first : Char} {text : List Char} {kind : TokenKind} {tail : Split text}
    {next : Expect} (stepped : wordStep first text = .token kind tail next) :
    wordStep first (text ++ c :: after) = .token kind (tail.extend (c :: after)) next := by
  unfold wordStep
  rw [Split.run_extend (isNameContinue_separator c separator)]
  exact closed_extend separator after stepped

/-- A literal stays a token of the longer text. -/
theorem literalStep_extend {first : Char} {text : List Char} {kind : TokenKind}
    {tail : Split text} {next : Expect} (stepped : literalStep first text = .token kind tail next) :
    literalStep first (text ++ c :: after) = .token kind (tail.extend (c :: after)) next := by
  unfold literalStep at stepped ⊢
  split_ifs at stepped ⊢
  · exact wordStep_extend separator after stepped
  · rw [numberTail_extend separator]
    exact closed_extend separator after stepped
  · split at stepped
    next found =>
      cases stepped
      rw [quoteTail?_extend found]
    next => contradiction

/-- The first token of an argument stays one of the longer text. -/
theorem argumentStep_extend {first : Char} {text : List Char} {kind : TokenKind}
    {tail : Split text} {next : Expect}
    (stepped : argumentStep first text = .token kind tail next) :
    argumentStep first (text ++ c :: after) = .token kind (tail.extend (c :: after)) next := by
  unfold argumentStep at stepped ⊢
  by_cases isMark : (first == '~' || first == '!') = true
  · rw [if_pos isMark] at stepped ⊢
    by_cases ready : text.head?.any isNameStart = true
    · have stillReady : (text ++ c :: after).head?.any isNameStart = true := by
        cases text with
        | nil => contradiction
        | cons head rest => exact ready
      rw [if_pos ready] at stepped
      rw [if_pos stillReady]
      cases stepped
      rfl
    · rw [if_neg ready] at stepped
      contradiction
  · rw [if_neg isMark] at stepped ⊢
    exact literalStep_extend separator after stepped

/-- A step that gives a token gives the same one in front of a separator. -/
theorem step_extend {expect : Expect} {first : Char} {text : List Char} {kind : TokenKind}
    {tail : Split text} {next : Expect} (stepped : step expect first text = .token kind tail next) :
    step expect first (text ++ c :: after) = .token kind (tail.extend (c :: after)) next := by
  cases expect with
  | argument => exact argumentStep_extend separator after stepped
  | name => exact wordStep_extend separator after stepped
  | value => exact literalStep_extend separator after stepped
  | separator =>
      change separatorStep first text = _ at stepped
      change separatorStep first (text ++ c :: after) = _
      unfold separatorStep at stepped ⊢
      split_ifs at stepped ⊢ <;> cases stepped <;> rfl

/-- So does the scan, one token at a time. -/
theorem scanFrom_extend {expect : Expect} {first : Char} {text : List Char} {kind : TokenKind}
    {tail : Split text} {next : Expect} (stepped : step expect first text = .token kind tail next)
    (start : Nat) :
    scanFrom expect start (first :: text ++ c :: after) =
      ofText kind start (first :: tail.taken) ::
        scanFrom next (start + byteLength (first :: tail.taken)) (tail.rest ++ c :: after) := by
  rw [List.cons_append, scanFrom, step_extend separator after stepped]
  rfl

end

end Token

end RecordTags
