import Mathlib.Tactic.IntervalCases
import RecordTags.Proofs.Number.Numeral
import RecordTags.Proofs.Token.Sequence

/-!
Contract: the scanner takes every spelled token as a whole.

Owns: `Takes`, which says that the scanner takes a text as one token and goes
on behind it, and the texts that it takes: words and numbers in front of a
separator or the end, quoted literals in front of anything, the mark of a
switch in front of a word, and separators.

Does not own: what the tokens of a scan look like; that is
`RecordTags.Proofs.Token.Sequence`.
-/

namespace RecordTags

open RecordTags.Text

namespace Text

/-! ## Classes of characters that exclude each other -/

theorem isNameContinue_separator : ∀ c ∈ [',', ';', '='], isNameContinue c = false := by
  decide +kernel

theorem isTerminator_separator : ∀ c ∈ [',', ';', '='], isTerminator c = true := by
  decide

theorem mem_digits_of_isAsciiDigit {c : Char} (isDigit : isAsciiDigit c = true) :
    c ∈ ['0', '1', '2', '3', '4', '5', '6', '7', '8', '9'] := by
  have bounds : '0' ≤ c ∧ c ≤ '9' := by simpa [isAsciiDigit] using isDigit
  have lower : 48 ≤ c.toNat := bounds.1
  have upper : c.toNat ≤ 57 := bounds.2
  rw [← Char.ofNat_toNat c]
  generalize c.toNat = codePoint at lower upper
  interval_cases codePoint <;> decide

theorem isNameStart_of_isNumericStart {c : Char} (numeric : isNumericStart c = true) :
    isNameStart c = false := by
  have known : ∀ c ∈ ['+', '-', '0', '1', '2', '3', '4', '5', '6', '7', '8', '9'],
      isNameStart c = false := by
    decide +kernel
  rcases Bool.or_eq_true_iff.1 numeric with sign | isDigit
  · rcases Number.eq_of_isSign sign with rfl | rfl
    · exact known _ (by decide)
    · exact known _ (by decide)
  · have digit := mem_digits_of_isAsciiDigit isDigit
    exact known c (List.mem_cons_of_mem _ (List.mem_cons_of_mem _ digit))

theorem IsQuote.not_start {c : Char} (quote : IsQuote c) :
    isNameStart c = false ∧ isNumericStart c = false := by
  rcases quote with rfl | rfl <;> decide +kernel

theorem IsQuote.beq {c : Char} (quote : IsQuote c) : (c == '\x22' || c == '\x27') = true := by
  simpa [IsQuote] using quote

theorem IsQuote.ne_backslash {c : Char} (quote : IsQuote c) : c ≠ '\\' := by
  rcases quote with rfl | rfl <;> decide

/-- No word, number or quoted literal starts like a switch. -/
theorem ne_mark {c : Char}
    (start : isNameStart c = true ∨ isNumericStart c = true ∨ IsQuote c) :
    (c == '~' || c == '!') = false := by
  have known : ∀ c ∈ ['~', '!'], isNameStart c = false ∧ isNumericStart c = false ∧
      (c == '\x22' || c == '\x27') = false := by
    decide +kernel
  by_contra isMark
  rw [Bool.not_eq_false] at isMark
  obtain ⟨notName, notNumeric, notQuote⟩ := known c (by simpa using isMark)
  rcases start with name | numeric | quote
  · exact Bool.false_ne_true (notName.symm.trans name)
  · exact Bool.false_ne_true (notNumeric.symm.trans numeric)
  · exact Bool.false_ne_true (notQuote.symm.trans quote.beq)

theorem isWord_of_mem_reservedWords : ∀ word ∈ reservedWords, IsWord word := by
  decide +kernel

end Text

namespace Token

/-- Where the scanner looks for `expect`, it takes `text` as one token and goes
on with `rest`. -/
def Takes (expect : Expect) (kind : TokenKind) (text rest : List Char) : Prop :=
  ∀ start, scanFrom expect start (text ++ rest) =
    ofText kind start text :: scanFrom kind.expectAfter (start + byteLength text) rest

theorem takes_of_step {expect : Expect} {kind : TokenKind} {first : Char}
    {text rest : List Char} {tail : Split (text ++ rest)} (taken : tail.taken = text)
    (stepped : step expect first (text ++ rest) = .token kind tail kind.expectAfter) :
    Takes expect kind (first :: text) rest := by
  intro start
  rw [List.cons_append, scanFrom, stepped]
  simp only [taken, Split.rest_of_taken taken]
  rfl

theorem closed_of_separated {text : List Char} {tail : Split text} (kind : TokenKind)
    (first : Char) (separated : Separated tail.rest) :
    closed kind first tail = .token kind tail .separator := by
  unfold closed
  split
  next => rfl
  next c _ rest =>
    rw [rest] at separated
    rw [if_pos (separated.stops isTerminator_separator c rfl)]

/-- Where a value may come, everything but a switch is a literal. -/
theorem step_literal {expect : Expect} (looks : expect = .argument ∨ expect = .value)
    {first : Char} (notMark : (first == '~' || first == '!') = false) (text : List Char) :
    step expect first text = literalStep first text := by
  rcases looks with rfl | rfl
  · show argumentStep first text = literalStep first text
    rw [argumentStep, notMark, if_neg Bool.false_ne_true]
  · rfl

theorem step_word {expect : Expect} (notSeparator : expect ≠ .separator) {first : Char}
    (start : isNameStart first = true) (text : List Char) :
    step expect first text = wordStep first text := by
  have literal : literalStep first text = wordStep first text := by
    rw [literalStep, if_pos start]
  cases expect with
  | argument => rw [step_literal (.inl rfl) (ne_mark (.inl start)), literal]
  | name => rfl
  | value => exact literal
  | separator => exact absurd rfl notSeparator

/-! ## Words -/

/-- A word is taken whole where a name or a value may come. -/
theorem takes_word {expect : Expect} (notSeparator : expect ≠ .separator)
    {text rest : List Char} (word : IsWord text) (separated : Separated rest) :
    Takes expect (wordKind text) text rest := by
  cases text with
  | nil => exact word.elim
  | cons first tail =>
      obtain ⟨start, all⟩ := word
      have taken := Split.taken_run all (separated.stops isNameContinue_separator)
      apply takes_of_step taken
      rw [step_word notSeparator start, expectAfter_wordKind]
      show closed _ first (Split.run isNameContinue (tail ++ rest)) = _
      rw [closed_of_separated, taken]
      rw [Split.rest_of_taken taken]
      exact separated

theorem wordKind_of_isName {text : List Char} (name : IsName text) :
    wordKind text = .identifier := by
  have notReserved := name.2
  simp only [reservedWords, List.mem_cons, List.not_mem_nil, or_false, not_or] at notReserved
  simp [wordKind, notReserved]

theorem takes_name {expect : Expect} (notSeparator : expect ≠ .separator)
    {text rest : List Char} (name : IsName text) (separated : Separated rest) :
    Takes expect .identifier text rest := by
  rw [← wordKind_of_isName name]
  exact takes_word notSeparator name.1 separated

/-! ## Literals -/

/-- A number is taken whole where a value may come. -/
theorem takes_number {expect : Expect} (looks : expect = .argument ∨ expect = .value)
    {text rest : List Char} {readings : Readings} (start : StartsNumber text)
    (read : Readings.ofText text = .ok readings) (separated : Separated rest) :
    Takes expect .number text rest := by
  cases text with
  | nil => contradiction
  | cons first tail =>
      have numeric : isNumericStart first = true := start
      have taken := Number.taken_numberTail (Number.isSignedNumeral_of_ofText read) numeric
        separated
      apply takes_of_step taken
      rw [step_literal looks (ne_mark (.inr (.inl numeric))), literalStep,
        if_neg (by rw [isNameStart_of_isNumericStart numeric]; decide), if_pos numeric]
      apply closed_of_separated
      rw [Split.rest_of_taken taken]
      exact separated

/-- No number is cut: its extent is all of it, alone and in front of a separator, and so is the
first token. -/
theorem scan_of_number (text : String) (start : StartsNumber text.toList)
    (accepted : ∃ readings, Readings.ofText text.toList = .ok readings) :
    (∀ first tail, text.toList = first :: tail → (numberTail first tail).taken = tail) ∧
      scan text = [ofText .number 0 text.toList, endAt (byteLength text.toList)] ∧
      ∀ suffix : String, Separated suffix.toList →
        scan (text ++ suffix) = ofText .number 0 text.toList ::
          scanFrom .separator (byteLength text.toList) suffix.toList := by
  obtain ⟨readings, read⟩ := accepted
  have scanned : ∀ suffix : String, Separated suffix.toList →
      scan (text ++ suffix) = ofText .number 0 text.toList ::
        scanFrom .separator (byteLength text.toList) suffix.toList := by
    intro suffix separated
    have taken := takes_number (.inl rfl) start read separated 0
    rw [Nat.zero_add] at taken
    rw [scan, String.toList_append]
    exact taken
  refine ⟨?_, ?_, scanned⟩
  · intro first tail isText
    rw [isText] at start read
    have taken := Number.taken_numberTail (Number.isSignedNumeral_of_ofText read) start
      separated_nil
    rwa [List.append_nil] at taken
  · have whole := scanned "" separated_nil
    rw [String.append_empty] at whole
    rw [whole, String.toList_empty, scanFrom]
    rfl

theorem scan_of_number_hexadecimal :
    scan "-0x_1.8p+3" = [ofText .number 0 "-0x_1.8p+3".toList, endAt 10] ∧
      (scan ("-0x_1.8p+3" ++ "=x")).head? = some (ofText .number 0 "-0x_1.8p+3".toList) := by
  have start : StartsNumber "-0x_1.8p+3".toList := by decide
  obtain ⟨-, alone, inFront⟩ := scan_of_number "-0x_1.8p+3" start ⟨_, rfl⟩
  refine ⟨alone, ?_⟩
  rw [inFront "=x" (separated_cons (by decide) ['x'])]
  rfl

/-- The quote that closes a literal is found, whatever follows. -/
theorem quoteTail?_of_isQuoteTail {quote : Char} (notBackslash : quote ≠ '\\')
    {text : List Char} (tail : IsQuoteTail quote text) (rest : List Char) :
    ∃ split, quoteTail? quote (text ++ rest) = some split ∧ split.taken = text := by
  induction tail with
  | close =>
      refine ⟨⟨[quote], rest, rfl⟩, ?_, rfl⟩
      show quoteTail? quote (quote :: rest) = _
      rw [quoteTail?.eq_def]
      simp only [beq_eq_false_iff_ne.2 notBackslash, beq_self_eq_true, if_true]
      rfl
  | @escaped c text tail inductionHypothesis =>
      obtain ⟨inner, found, taken⟩ := inductionHypothesis
      refine ⟨(inner.cons c).cons '\\', ?_, ?_⟩
      · show quoteTail? quote ('\\' :: c :: (text ++ rest)) = _
        rw [quoteTail?, if_pos (by decide), found]
        rfl
      · rw [Split.taken_cons, Split.taken_cons, taken]
  | @plain c text notBackslash notQuote tail inductionHypothesis =>
      obtain ⟨inner, found, taken⟩ := inductionHypothesis
      refine ⟨inner.cons c, ?_, ?_⟩
      · show quoteTail? quote (c :: (text ++ rest)) = _
        rw [quoteTail?.eq_def]
        simp only [beq_eq_false_iff_ne.2 notBackslash, beq_eq_false_iff_ne.2 notQuote, found]
        rfl
      · rw [Split.taken_cons, taken]

theorem takes_quoted {expect : Expect} (looks : expect = .argument ∨ expect = .value)
    {text : List Char} (isQuoted : IsQuoted text) (rest : List Char) :
    Takes expect .string text rest := by
  obtain ⟨quote, tail, rfl, isQuote, isTail⟩ := isQuoted
  obtain ⟨split, found, taken⟩ := quoteTail?_of_isQuoteTail isQuote.ne_backslash isTail rest
  apply takes_of_step taken
  rw [step_literal looks (ne_mark (.inr (.inr isQuote))), literalStep,
    if_neg (by rw [isQuote.not_start.1]; decide), if_neg (by rw [isQuote.not_start.2]; decide),
    if_pos isQuote.beq, found]
  rfl

/-! ## Marks and separators -/

theorem takes_single {expect : Expect} {kind : TokenKind} {c : Char} {rest : List Char}
    (stepped : step expect c rest = .token kind (.none rest) kind.expectAfter) :
    Takes expect kind [c] rest :=
  takes_of_step rfl stepped

/-- The mark of a switch is taken in front of a name. -/
theorem takes_mark (enabled : Bool) {name rest : List Char} (word : IsWord name) :
    Takes .argument (if enabled then .enable else .disable) [if enabled then '~' else '!']
      (name ++ rest) := by
  have ready : (name ++ rest).head?.any isNameStart = true := by
    cases name with
    | nil => exact word.elim
    | cons first tail => exact word.1
  cases enabled with
  | true =>
      apply takes_single
      show argumentStep '~' (name ++ rest) = _
      rw [argumentStep, if_pos (by decide), if_pos ready]
      rfl
  | false =>
      apply takes_single
      show argumentStep '!' (name ++ rest) = _
      rw [argumentStep, if_pos (by decide), if_pos ready]
      rfl

theorem takes_argumentSeparator (rest : List Char) :
    Takes .separator .argumentSeparator [','] rest :=
  takes_single rfl

theorem takes_listSeparator (rest : List Char) : Takes .separator .listSeparator [';'] rest :=
  takes_single rfl

theorem takes_assign (rest : List Char) : Takes .separator .assign ['='] rest :=
  takes_single rfl

end Token

end RecordTags
