import RecordTags.Escape
import RecordTags.Proofs.Number.Literal
import RecordTags.Proofs.Token.Sequence

/-!
Contract: what stands between quotes, piece by piece.

Owns:
- `IsPiece`, the grammar of the pieces: a character, an escape with a meaning,
  an escape whose digits denote no character, and a backslash with a letter
  that is no escape;
- that the inside of a string token is cut into pieces in exactly one way;
- the content of a string as the characters of its pieces, and its failure as
  the first piece that denotes none.

## Two views of a backslash

The scanner passes over one character behind each backslash, whatever it is,
and looks for the closing quote behind it. An escape may be longer than that.
The digits behind its first two characters are no backslashes, so the scanner
passes over them one by one and comes out at the end of the escape:
`IsPiece.isQuoteTail` is the fact that keeps the two views together.
-/

namespace RecordTags.Escape

open RecordTags.Text RecordTags.Number

/-! ## The grammar -/

/-- A piece as it is written, and the character that it denotes, if it denotes one. -/
structure Piece where
  source : List Char
  meaning : Option Char
deriving DecidableEq, Repr

/-- The letters that denote a character by themselves. -/
def letters : List (Char × Char) :=
  [('a', '\x07'), ('b', '\x08'), ('f', '\x0c'), ('n', '\n'), ('r', '\r'), ('t', '\t'),
    ('v', '\x0b'), ('\\', '\\'), ('\x27', '\x27'), ('\x22', '\x22')]

/-- The letters in front of hexadecimal digits, and how many digits follow each. -/
def widths : List (Char × Nat) := [('x', 2), ('u', 4), ('U', 8)]

/-- The letter is followed by digits of a base. The first of three octal digits is the letter. -/
inductive TakesDigits : Char → (base count : Nat) → Prop where
  | hexadecimal {mark : Char} {width : Nat} (known : (mark, width) ∈ widths) :
      TakesDigits mark 16 width
  | octal {mark : Char} {digit : Nat} (writes : WritesDigit 8 mark digit) : TakesDigits mark 8 2

/-- The text starts with so many digits of the base. -/
def DigitsAhead (base count : Nat) (text : List Char) : Prop :=
  ∃ digits values rest, text = digits ++ rest ∧ digits.length = count ∧
    List.Forall₂ (WritesDigit base) digits values

/-- The character with a number. Surrogates and numbers above the last code point have none. -/
def scalar? (number : Nat) : Option Char :=
  if number.isValidChar then some (Char.ofNat number) else none

/-- A piece in front of a text. -/
inductive IsPiece : Piece → (rest : List Char) → Prop where
  | plain {c : Char} {rest : List Char} (notBackslash : c ≠ '\\') : IsPiece ⟨[c], some c⟩ rest
  | letter {letter meaning : Char} {rest : List Char} (known : (letter, meaning) ∈ letters) :
      IsPiece ⟨['\\', letter], some meaning⟩ rest
  | hexadecimal {mark : Char} {width : Nat} {digits rest : List Char} {values : List Nat}
      (known : (mark, width) ∈ widths) (written : List.Forall₂ (WritesDigit 16) digits values)
      (complete : digits.length = width) :
      IsPiece ⟨'\\' :: mark :: digits, scalar? (ofDigits 16 values)⟩ rest
  | octal {digits rest : List Char} {values : List Nat}
      (written : List.Forall₂ (WritesDigit 8) digits values) (complete : digits.length = 3) :
      IsPiece
        ⟨'\\' :: digits, if ofDigits 8 values ≤ 0xFF then scalar? (ofDigits 8 values) else none⟩
        rest
  | incomplete {mark : Char} {base count : Nat} {rest : List Char}
      (takes : TakesDigits mark base count) (missing : ¬ DigitsAhead base count rest) :
      IsPiece ⟨['\\', mark], none⟩ rest
  | unknown {letter : Char} {rest : List Char} (noMeaning : ∀ meaning, (letter, meaning) ∉ letters)
      (noDigits : ∀ base count, ¬ TakesDigits letter base count) :
      IsPiece ⟨['\\', letter], none⟩ rest

/-- A text cut into pieces. -/
inductive Pieces : List Char → List Piece → Prop where
  | nil : Pieces [] []
  | cons {piece : Piece} {rest : List Char} {others : List Piece} (isPiece : IsPiece piece rest)
      (behind : Pieces rest others) : Pieces (piece.source ++ rest) (piece :: others)

/-! ## Letters and digits -/

theorem letterMeaning?_eq_some_iff {letter meaning : Char} :
    letterMeaning? letter = some meaning ↔ (letter, meaning) ∈ letters := by
  constructor
  · intro found
    unfold letterMeaning? at found
    split at found <;> cases found <;> decide
  · intro known
    have meanings : ∀ entry ∈ letters, letterMeaning? entry.1 = some entry.2 := by decide
    exact meanings _ known

theorem numericEscape?_of_width {mark : Char} {width : Nat} (known : (mark, width) ∈ widths) :
    numericEscape? mark = some ⟨width, 16, 0, 0x10FFFF⟩ := by
  have numerics : ∀ entry ∈ widths,
      numericEscape? entry.1 = some ⟨entry.2, 16, 0, 0x10FFFF⟩ := by
    decide
  exact numerics _ known

theorem numericEscape?_of_octal {mark : Char} {digit : Nat} (writes : WritesDigit 8 mark digit) :
    numericEscape? mark = some ⟨2, 8, digit, 0xFF⟩ := by
  have found := (digitValue?_eq_some_iff (by decide)).2 writes
  unfold numericEscape?
  split
  · contradiction
  · contradiction
  · contradiction
  · rw [found, Option.map_some]

theorem numericEscape?_cases {mark : Char} {numeric : NumericEscape}
    (found : numericEscape? mark = some numeric) :
    (∃ width, (mark, width) ∈ widths ∧ numeric = ⟨width, 16, 0, 0x10FFFF⟩) ∨
      ∃ digit, WritesDigit 8 mark digit ∧ numeric = ⟨2, 8, digit, 0xFF⟩ := by
  unfold numericEscape? at found
  split at found
  · exact .inl ⟨2, by decide, (Option.some.inj found).symm⟩
  · exact .inl ⟨4, by decide, (Option.some.inj found).symm⟩
  · exact .inl ⟨8, by decide, (Option.some.inj found).symm⟩
  · obtain ⟨digit, isDigit, rfl⟩ := Option.map_eq_some_iff.1 found
    exact .inr ⟨digit, (digitValue?_eq_some_iff (by decide)).1 isDigit, rfl⟩

theorem TakesDigits.numericEscape? {mark : Char} {base count : Nat}
    (takes : TakesDigits mark base count) :
    ∃ numeric, Escape.numericEscape? mark = some numeric ∧ numeric.base = base ∧
      numeric.count = count := by
  cases takes with
  | hexadecimal known => exact ⟨_, numericEscape?_of_width known, rfl, rfl⟩
  | octal writes => exact ⟨_, numericEscape?_of_octal writes, rfl, rfl⟩

theorem takesDigits_of_numericEscape? {mark : Char} {numeric : NumericEscape}
    (found : numericEscape? mark = some numeric) : TakesDigits mark numeric.base numeric.count := by
  rcases numericEscape?_cases found with ⟨width, known, rfl⟩ | ⟨digit, writes, rfl⟩
  · exact .hexadecimal known
  · exact .octal writes

/-- No letter with a meaning takes digits. -/
theorem TakesDigits.letterMeaning? {mark : Char} {base count : Nat}
    (takes : TakesDigits mark base count) : Escape.letterMeaning? mark = none := by
  by_contra hasMeaning
  obtain ⟨meaning, found⟩ := Option.ne_none_iff_exists'.1 hasMeaning
  have noNumeric : ∀ entry ∈ letters, Escape.numericEscape? entry.1 = none := by decide
  obtain ⟨numeric, isNumeric, -⟩ := takes.numericEscape?
  rw [noNumeric _ (letterMeaning?_eq_some_iff.1 found)] at isNumeric
  contradiction

/-- So many digits are taken, and the text is cut behind them. -/
theorem takeDigits?_eq_some_iff {base count : Nat} {text digits rest : List Char} :
    takeDigits? base count text = some (digits, rest) ↔
      text = digits ++ rest ∧ digits.length = count ∧ ∀ c ∈ digits, isDigitIn base c = true := by
  induction count generalizing text digits with
  | zero =>
      rw [takeDigits?, Option.some.injEq, Prod.mk.injEq]
      constructor
      · rintro ⟨rfl, rfl⟩
        exact ⟨rfl, rfl, by simp⟩
      · rintro ⟨rfl, isEmpty, -⟩
        obtain rfl := List.length_eq_zero_iff.1 isEmpty
        exact ⟨rfl, rfl⟩
  | succ count inductionHypothesis =>
      constructor
      · intro taken
        cases text with
        | nil => contradiction
        | cons c tail =>
            rw [takeDigits?] at taken
            split at taken
            next isDigit =>
              obtain ⟨⟨inner, innerRest⟩, found, same⟩ := Option.map_eq_some_iff.1 taken
              cases same
              obtain ⟨rfl, complete, all⟩ := inductionHypothesis.1 found
              exact ⟨rfl, congrArg Nat.succ complete, List.forall_mem_cons.2 ⟨isDigit, all⟩⟩
            next => contradiction
      · rintro ⟨rfl, complete, all⟩
        cases digits with
        | nil => contradiction
        | cons c inner =>
            obtain ⟨isDigit, allInner⟩ := List.forall_mem_cons.1 all
            have found := inductionHypothesis.2 ⟨rfl, Nat.succ.inj complete, allInner⟩
            rw [List.cons_append, takeDigits?, if_pos isDigit, found, Option.map_some]

theorem takeDigits?_of_written {base count : Nat} (small : base ≤ 16) {digits : List Char}
    {values : List Nat} (written : List.Forall₂ (WritesDigit base) digits values)
    (complete : digits.length = count) (rest : List Char) :
    takeDigits? base count (digits ++ rest) = some (digits, rest) :=
  takeDigits?_eq_some_iff.2 ⟨rfl, complete, ((forall₂_writes_iff small).1 written).1⟩

theorem digitsAhead_iff {base count : Nat} (small : base ≤ 16) {text : List Char} :
    DigitsAhead base count text ↔ takeDigits? base count text ≠ none := by
  rw [Option.ne_none_iff_exists']
  constructor
  · rintro ⟨digits, values, rest, rfl, complete, written⟩
    exact ⟨_, takeDigits?_of_written small written complete rest⟩
  · rintro ⟨⟨digits, rest⟩, taken⟩
    obtain ⟨split, complete, all⟩ := takeDigits?_eq_some_iff.1 taken
    exact ⟨digits, _, rest, split, complete, (forall₂_writes_iff small).2 ⟨all, rfl⟩⟩

theorem TakesDigits.base_le {mark : Char} {base count : Nat}
    (takes : TakesDigits mark base count) : base ≤ 16 := by
  cases takes <;> decide

/-! ## The number of an escape -/

theorem codePoint_of_written {base : Nat} (small : base ≤ 16) {digits : List Char}
    {values : List Nat} (written : List.Forall₂ (WritesDigit base) digits values)
    (count leading greatest : Nat) :
    NumericEscape.codePoint ⟨count, base, leading, greatest⟩ digits =
      ofDigits base (leading :: values) := by
  obtain ⟨-, rfl⟩ := (forall₂_writes_iff small).1 written
  rfl

theorem character?_eq (numeric : NumericEscape) (number : Nat) :
    numeric.character? number = if number ≤ numeric.greatest then scalar? number else none := by
  unfold NumericEscape.character? scalar?
  by_cases small : number ≤ numeric.greatest <;> simp [small]

/-- No number above the last code point is a character. -/
theorem scalar?_eq_ite (number : Nat) :
    scalar? number = if number ≤ 0x10FFFF then scalar? number else none := by
  split_ifs with small
  · rfl
  · have notValid : ¬ number.isValidChar := by
      rintro (low | ⟨-, high⟩) <;> omega
    rw [scalar?, if_neg notValid]

/-! ## The first piece -/

/-- The piece at the head of a text, as decoding finds it. A backslash at the end is none. -/
def firstPiece? (text : List Char) : Option Piece :=
  match text with
  | [] => none
  | c :: afterBackslash =>
    if c != '\\' then some ⟨[c], some c⟩
    else
      match afterBackslash with
      | [] => none
      | letter :: rest =>
        match letterMeaning? letter with
        | some meaning => some ⟨[c, letter], some meaning⟩
        | none =>
          match numericEscape? letter with
          | none => some ⟨[c, letter], none⟩
          | some numeric =>
            match takeDigits? numeric.base numeric.count rest with
            | none => some ⟨[c, letter], none⟩
            | some (digits, _) =>
              some ⟨c :: letter :: digits, numeric.character? (numeric.codePoint digits)⟩

/-- An escape behind its backslash, where the letter has no meaning of its own. -/
theorem firstPiece?_of_numeric {letter : Char} {numeric : NumericEscape} {rest : List Char}
    (isNumeric : numericEscape? letter = some numeric) :
    firstPiece? ('\\' :: letter :: rest) =
      match takeDigits? numeric.base numeric.count rest with
      | none => some ⟨['\\', letter], none⟩
      | some (digits, _) =>
        some ⟨'\\' :: letter :: digits, numeric.character? (numeric.codePoint digits)⟩ := by
  have noMeaning := (takesDigits_of_numericEscape? isNumeric).letterMeaning?
  simp only [firstPiece?, noMeaning, isNumeric]
  rfl

/-- Decoding finds every piece of the grammar. -/
theorem IsPiece.firstPiece? {piece : Piece} {rest : List Char} (isPiece : IsPiece piece rest) :
    Escape.firstPiece? (piece.source ++ rest) = some piece := by
  cases isPiece with
  | plain notBackslash => simp [Escape.firstPiece?, notBackslash]
  | letter known => simp [Escape.firstPiece?, letterMeaning?_eq_some_iff.2 known]
  | hexadecimal known written complete =>
      rw [List.cons_append, List.cons_append,
        firstPiece?_of_numeric (numericEscape?_of_width known),
        takeDigits?_of_written (Nat.le_refl 16) written complete]
      simp only [codePoint_of_written (Nat.le_refl 16) written, ofDigits_zero_cons, character?_eq,
        ← scalar?_eq_ite]
  | @octal digits _ values written complete =>
      obtain ⟨first, others, rfl⟩ := List.exists_cons_of_length_eq_add_one complete
      obtain ⟨value, otherValues, writes, writtenOthers, rfl⟩ :=
        List.forall₂_cons_left_iff.1 written
      rw [List.cons_append, List.cons_append,
        firstPiece?_of_numeric (numericEscape?_of_octal writes),
        takeDigits?_of_written (by decide) writtenOthers (Nat.succ.inj complete)]
      simp only [codePoint_of_written (show 8 ≤ 16 by decide) writtenOthers, character?_eq]
  | incomplete takes missing =>
      obtain ⟨numeric, isNumeric, rfl, rfl⟩ := takes.numericEscape?
      have noDigits := not_not.1 (mt (digitsAhead_iff takes.base_le).2 missing)
      rw [List.cons_append, List.cons_append, List.nil_append, firstPiece?_of_numeric isNumeric,
        noDigits]
  | @unknown letter _ noMeaning noDigits =>
      have isUnknown : letterMeaning? letter = none := by
        by_contra hasMeaning
        obtain ⟨meaning, found⟩ := Option.ne_none_iff_exists'.1 hasMeaning
        exact noMeaning meaning (letterMeaning?_eq_some_iff.1 found)
      have notNumeric : numericEscape? letter = none := by
        by_contra isNumeric
        obtain ⟨numeric, found⟩ := Option.ne_none_iff_exists'.1 isNumeric
        exact noDigits _ _ (takesDigits_of_numericEscape? found)
      simp [Escape.firstPiece?, isUnknown, notNumeric]

/-- A text has a first piece unless it is empty or a backslash alone. -/
theorem exists_isPiece {text : List Char} (notEmpty : text ≠ []) (notBackslash : text ≠ ['\\']) :
    ∃ piece rest, text = piece.source ++ rest ∧ IsPiece piece rest := by
  obtain ⟨c, behind, rfl⟩ := List.exists_cons_of_ne_nil notEmpty
  by_cases isBackslash : c = '\\'
  · subst isBackslash
    obtain ⟨letter, rest, rfl⟩ : ∃ letter rest, behind = letter :: rest :=
      List.exists_cons_of_ne_nil fun isEmpty => notBackslash (by rw [isEmpty])
    by_cases hasMeaning : ∃ meaning, (letter, meaning) ∈ letters
    · obtain ⟨meaning, known⟩ := hasMeaning
      exact ⟨⟨['\\', letter], some meaning⟩, rest, rfl, .letter known⟩
    · by_cases takesDigits : ∃ base count, TakesDigits letter base count
      · obtain ⟨base, count, takes⟩ := takesDigits
        by_cases ahead : DigitsAhead base count rest
        · obtain ⟨digits, values, rest, rfl, complete, written⟩ := ahead
          cases takes with
          | hexadecimal known => exact ⟨_, rest, rfl, .hexadecimal known written complete⟩
          | octal writes =>
              exact ⟨_, rest, rfl, .octal (.cons writes written) (congrArg Nat.succ complete)⟩
        · exact ⟨⟨['\\', letter], none⟩, rest, rfl, .incomplete takes ahead⟩
      · simp only [not_exists] at hasMeaning takesDigits
        exact ⟨⟨['\\', letter], none⟩, rest, rfl, .unknown hasMeaning takesDigits⟩
  · exact ⟨⟨[c], some c⟩, behind, rfl, .plain isBackslash⟩

theorem IsPiece.source_ne_nil {piece : Piece} {rest : List Char} (isPiece : IsPiece piece rest) :
    piece.source ≠ [] := by
  cases isPiece <;> exact List.cons_ne_nil _ _

/-- There is at most one way to cut a text. -/
theorem Pieces.unique {text : List Char} {pieces others : List Piece} (cut : Pieces text pieces)
    (cutAgain : Pieces text others) : pieces = others := by
  induction cut generalizing others with
  | nil =>
      generalize isEmpty : ([] : List Char) = text at cutAgain
      cases cutAgain with
      | nil => rfl
      | cons isPiece _ =>
          exact absurd (List.append_eq_nil_iff.1 isEmpty.symm).1 isPiece.source_ne_nil
  | @cons piece rest _ isPiece _ inductionHypothesis =>
      generalize same : piece.source ++ rest = text at cutAgain
      cases cutAgain with
      | nil => exact absurd (List.append_eq_nil_iff.1 same).1 isPiece.source_ne_nil
      | @cons other _ _ isOther behind =>
          have first := isPiece.firstPiece?
          rw [same, isOther.firstPiece?] at first
          obtain rfl := Option.some.inj first
          obtain rfl := List.append_cancel_left same
          rw [inductionHypothesis behind]

/-! ## The closing quote -/

/-- A literal ends with its quote. -/
theorem exists_inside {quote : Char} {tail : List Char} (isTail : IsQuoteTail quote tail) :
    ∃ inside, tail = inside ++ [quote] := by
  induction isTail with
  | close => exact ⟨[], rfl⟩
  | escaped c _ inductionHypothesis =>
      obtain ⟨inside, rfl⟩ := inductionHypothesis
      exact ⟨'\\' :: c :: inside, rfl⟩
  | @plain c _ _ _ _ inductionHypothesis =>
      obtain ⟨inside, rfl⟩ := inductionHypothesis
      exact ⟨c :: inside, rfl⟩

theorem isQuoteTail_of_escaped {quote c : Char} {rest : List Char}
    (tail : IsQuoteTail quote ('\\' :: c :: rest)) : IsQuoteTail quote rest := by
  cases tail with
  | escaped _ inner => exact inner
  | plain notBackslash _ _ => contradiction

/-- The scanner passes over what holds no backslash, as long as something follows. -/
theorem isQuoteTail_of_append {quote : Char} {front back : List Char}
    (noBackslash : ∀ c ∈ front, c ≠ '\\') (nonempty : back ≠ [])
    (tail : IsQuoteTail quote (front ++ back)) : IsQuoteTail quote back := by
  induction front with
  | nil => exact tail
  | cons c front inductionHypothesis =>
      obtain ⟨notBackslash, others⟩ := List.forall_mem_cons.1 noBackslash
      apply inductionHypothesis others
      rw [List.cons_append] at tail
      generalize same : front ++ back = behind at tail
      cases tail with
      | close => exact absurd (List.append_eq_nil_iff.1 same).2 nonempty
      | escaped => contradiction
      | plain _ _ inner => exact inner

theorem ne_backslash_of_written {base : Nat} (small : base ≤ 16) {digits : List Char}
    {values : List Nat} (written : List.Forall₂ (WritesDigit base) digits values) :
    ∀ c ∈ digits, c ≠ '\\' := by
  rintro c member rfl
  have isDigit := ((forall₂_writes_iff small).1 written).1 _ member
  have isWide := isDigitIn_mono small isDigit
  contradiction

/-- The digits of a numeric escape are no backslashes, so the quote still closes behind them. -/
theorem isQuoteTail_behind_digits {quote letter : Char} {numeric : NumericEscape}
    {rest digits behind : List Char} (isNumeric : numericEscape? letter = some numeric)
    (taken : takeDigits? numeric.base numeric.count rest = some (digits, behind))
    (closes : IsQuoteTail quote ('\\' :: letter :: (rest ++ [quote]))) :
    IsQuoteTail quote (behind ++ [quote]) := by
  obtain ⟨rfl, -, areDigits⟩ := takeDigits?_eq_some_iff.1 taken
  have small := (takesDigits_of_numericEscape? isNumeric).base_le
  have behindLetter := isQuoteTail_of_escaped closes
  rw [List.append_assoc] at behindLetter
  apply isQuoteTail_of_append _ (by simp) behindLetter
  rintro c member rfl
  have isDigit := isDigitIn_mono small (areDigits _ member)
  contradiction

/-- The scanner comes out at the end of every piece. -/
theorem IsPiece.isQuoteTail {quote : Char} {piece : Piece} {rest behind : List Char}
    (isPiece : IsPiece piece rest) (nonempty : behind ≠ [])
    (tail : IsQuoteTail quote (piece.source ++ behind)) : IsQuoteTail quote behind := by
  cases isPiece with
  | plain notBackslash => exact isQuoteTail_of_append (by simpa using notBackslash) nonempty tail
  | letter | incomplete | unknown => exact isQuoteTail_of_escaped tail
  | hexadecimal _ written _ =>
      have noBackslash := ne_backslash_of_written (Nat.le_refl 16) written
      exact isQuoteTail_of_append noBackslash nonempty (isQuoteTail_of_escaped tail)
  | octal written complete =>
      obtain ⟨first, others, rfl⟩ := List.exists_cons_of_length_eq_add_one complete
      have noBackslash := ne_backslash_of_written (by decide) written
      exact isQuoteTail_of_append (List.forall_mem_cons.1 noBackslash).2 nonempty
        (isQuoteTail_of_escaped tail)

/-- What the scanner takes for the inside of a string can be cut into pieces. -/
theorem exists_pieces {quote : Char} (text : List Char)
    (closed : IsQuoteTail quote (text ++ [quote])) : ∃ pieces, Pieces text pieces := by
  by_cases isEmpty : text = []
  · subst isEmpty
    exact ⟨[], .nil⟩
  · have notBackslash : text ≠ ['\\'] := by
      rintro rfl
      have nothing : IsQuoteTail quote [] := isQuoteTail_of_escaped closed
      contradiction
    obtain ⟨piece, rest, rfl, isPiece⟩ := exists_isPiece isEmpty notBackslash
    have shorter : rest.length < (piece.source ++ rest).length := by
      have positive := List.length_pos_of_ne_nil isPiece.source_ne_nil
      rw [List.length_append]
      omega
    rw [List.append_assoc] at closed
    obtain ⟨pieces, cut⟩ := exists_pieces rest (isPiece.isQuoteTail (by simp) closed)
    exact ⟨piece :: pieces, .cons isPiece cut⟩
termination_by text.length

end RecordTags.Escape
