import Mathlib.Algebra.Group.Int.Defs
import Mathlib.Algebra.Group.Nat.Defs
import RecordTags.Proofs.Number.Fractional

/-!
Contract: which texts are numbers, what they are read as, and why the others
are refused.

Owns:
- the grammar of the texts that have readings;
- the integer readings of every integer literal;
- the code that a text without readings is refused with.

Does not own: the readings of literals with a point or an exponent.

## Overflow

A text that has no integer reading is refused as an overflow only if two things
come together: an integer reader has found a number that is too large, and the
text can be read as a decimal floating-point literal although it has neither
point nor exponent. Neither is a property of integer literals. Behind a base
letter the second one fails, and so it does where the double is infinite; and
the reader of base eight may find a number that is too large in front of a
digit that its base does not have, in a text that is no literal at all. These
are `ReadsAsDecimal` and `OverrunsOctal`.
-/

namespace RecordTags

namespace Number

open RecordTags.Text

/-! ## Signs -/

/-- What may stand in front of a numeral. -/
def signs : List (List Char) := [[], ['+'], ['-']]

theorem signAndBody_append {sign body : List Char} (isSign : sign ∈ signs)
    (notSign : ∀ c ∈ body.head?, Text.isSign c = false) :
    (signAndBody (sign ++ body)).2 = body := by
  simp only [signs, List.mem_cons, List.not_mem_nil, or_false] at isSign
  rcases isSign with rfl | rfl | rfl
  · cases body with
    | nil => rfl
    | cons c rest => rw [List.nil_append, signAndBody_of_not_isSign (notSign c rfl)]
  · rfl
  · rfl

theorem exists_sign (text : List Char) : ∃ sign ∈ signs, text = sign ++ (signAndBody text).2 := by
  rcases signed : signAndBody text with ⟨negative, body⟩
  rcases signAndBody_cases signed with ⟨sign, isSign, rfl, -⟩ | ⟨rfl, -, -⟩
  · rcases List.mem_pair.1 isSign with rfl | rfl
    · exact ⟨['+'], by decide, rfl⟩
    · exact ⟨['-'], by decide, rfl⟩
  · exact ⟨[], by decide, rfl⟩

/-- A text that is read as a double is a numeral behind an optional sign, and shows by its
characters whether it has a point or an exponent. -/
theorem exists_readFloat?_iff {text : List Char} {fractional : Bool} :
    (∃ x, readFloat? text = some x) ∧ Readings.looksFractional text = fractional ↔
      ∃ sign ∈ signs, ∃ body radix digits, text = sign ++ body ∧
        FloatBody radix fractional body digits ∧ (digits.toDouble radix).isInfinite = false := by
  constructor
  · rintro ⟨⟨x, read⟩, rfl⟩
    obtain ⟨radix, fractional, digits, spelled, isFinite, -⟩ := readFloat?_eq_some_iff.1 read
    obtain ⟨sign, isSign, whole⟩ := exists_sign text
    rw [← looksFractional_signAndBody, spelled.looksFractional]
    exact ⟨sign, isSign, _, radix, digits, whole, spelled,
      (isFinite_iff_of_code_le (code_toDouble_le digits radix)).1 isFinite⟩
  · rintro ⟨sign, isSign, body, radix, digits, rfl, spelled, notInfinite⟩
    have isBody := signAndBody_append isSign spelled.notSign
    have isFinite := (isFinite_iff_of_code_le (code_toDouble_le digits radix)).2 notInfinite
    rw [← looksFractional_signAndBody, isBody]
    refine ⟨⟨_, readFloat?_eq_some_iff.2 ⟨radix, fractional, digits, ?_, isFinite, rfl⟩⟩,
      spelled.looksFractional⟩
    rwa [isBody]

end Number

namespace Readings

open RecordTags.Text Number

theorem ofText_of_unread {text : List Char} {signed unsigned : Unread}
    (notSigned : readSigned text = .error signed)
    (notUnsigned : readUnsigned text = .error unsigned) :
    ofText text = ofFloatText (signed == .tooLarge || unsigned == .tooLarge) text := by
  rw [ofText, notSigned, notUnsigned]

/-- A text that is refused has neither integer reading, and goes on to the reader of doubles. -/
theorem unread_of_rejected {text : List Char} {fault : NumberFault}
    (rejected : ofText text = .error fault) :
    ∃ signed unsigned, readSigned text = .error signed ∧ readUnsigned text = .error unsigned ∧
      ofFloatText (signed == .tooLarge || unsigned == .tooLarge) text = .error fault := by
  cases notSigned : readSigned text with
  | ok n => simp [ofText, notSigned] at rejected
  | error signed =>
      cases notUnsigned : readUnsigned text with
      | ok n => simp [ofText, notSigned, notUnsigned] at rejected
      | error unsigned =>
          rw [ofText_of_unread notSigned notUnsigned] at rejected
          exact ⟨signed, unsigned, rfl, rfl, rejected⟩

/-- A text that is read is an integer, or looks like a floating-point number and is one. -/
theorem exists_ofText_iff {text : List Char} :
    (∃ readings, ofText text = .ok readings) ↔
      (∃ n, readSigned text = .ok n) ∨ (∃ n, readUnsigned text = .ok n) ∨
        (∃ x, readFloat? text = some x) ∧ looksFractional text = true := by
  cases signed : readSigned text with
  | ok n =>
      simp only [ofText, signed]
      exact ⟨fun _ => .inl ⟨n, rfl⟩, fun _ => ⟨_, rfl⟩⟩
  | error notSigned =>
      cases unsigned : readUnsigned text with
      | ok n =>
          simp only [ofText, signed, unsigned]
          exact ⟨fun _ => .inr (.inl ⟨n, rfl⟩), fun _ => ⟨_, rfl⟩⟩
      | error notUnsigned =>
          rw [ofText_of_unread signed unsigned, ofFloatText]
          cases float : readFloat? text with
          | none => simp
          | some x =>
              cases looksFractional text with
              | true => simp
              | false =>
                  simp only [Bool.false_eq_true, if_false]
                  split_ifs <;> simp

/-- A text is a number exactly if it is an integer literal in range, or has a point or an exponent
and a double that is not infinite. -/
theorem accepted_iff (text : List Char) :
    (∃ readings, ofText text = .ok readings) ↔
      (∃ value, UnsignedLiteral text value ∧ value < 2 ^ 64) ∨
      (∃ value, SignedLiteral text value ∧ -2 ^ 63 ≤ value ∧ value < 2 ^ 63) ∨
      ∃ sign ∈ signs, ∃ body radix digits, text = sign ++ body ∧
        FloatBody radix true body digits ∧ (digits.toDouble radix).isInfinite = false := by
  have bounds : signedBound < unsignedBound := by decide
  rw [exists_ofText_iff, exists_readFloat?_iff]
  constructor
  · rintro (⟨n, read⟩ | ⟨n, read⟩ | float)
    · rcases readSigned_eq_ok_iff.1 read with ⟨value, literal, below, -⟩ | ⟨literal, inRange⟩
      · exact .inl ⟨value, literal, Nat.lt_trans below bounds⟩
      · exact .inr (.inl ⟨n, literal, inRange⟩)
    · obtain ⟨literal, below⟩ := readUnsigned_eq_ok_iff.1 read
      exact .inl ⟨n, literal, below⟩
    · exact .inr (.inr float)
  · rintro (⟨value, literal, below⟩ | ⟨value, literal, inRange⟩ | float)
    · exact .inr (.inl ⟨value, readUnsigned_eq_ok_iff.2 ⟨literal, below⟩⟩)
    · exact .inl ⟨value, readSigned_eq_ok_iff.2 (.inr ⟨literal, inRange⟩)⟩
    · exact .inr (.inr float)

/-! ## Integers -/

/-- An integer literal, signed or not, is read as an integer or not at all. -/
theorem ofFloatText_of_literal {text : List Char} {value : Nat}
    (literal : UnsignedLiteral (signAndBody text).2 value) (overflowed : Bool) :
    ∃ fault, ofFloatText overflowed text = .error fault := by
  unfold ofFloatText
  cases read : readFloat? text with
  | none => exact ⟨_, rfl⟩
  | some x =>
      obtain ⟨radix, fractional, digits, spelled, -⟩ := readFloat?_eq_some_iff.1 read
      have notFractional := literal.fractional_eq_false spelled
      rw [← spelled.looksFractional, looksFractional_signAndBody] at notFractional
      simp only [notFractional, Bool.false_eq_true, if_false]
      split_ifs
      · exact ⟨_, rfl⟩
      · exact ⟨_, rfl⟩

/-- The text is accepted with the two integer readings, each of which may be missing. -/
def ReadsAs (text : List Char) (int : Option Int) (uint : Option Nat) : Prop :=
  ∃ readings, ofText text = .ok readings ∧ readings.int.map Int64.toInt = int ∧
    readings.uint.map UInt64.toNat = uint

/-- What a text is accepted with when its signed reading is in range. -/
theorem readsAs_of_signed {text : List Char} {n : Int} (read : readSigned text = .ok n)
    (lower : -2 ^ 63 ≤ n) (upper : n < 2 ^ 63) :
    ReadsAs text (some n) (if n = 0 then some 0 else (readUnsigned text).toOption) := by
  refine ⟨_, by rw [ofText, read], ?_, ?_⟩
  · rw [Option.map_some, Int64.toInt_ofInt_of_le lower upper]
  · dsimp only
    split_ifs with isZero
    · rfl
    · cases unsigned : readUnsigned text with
      | error => rfl
      | ok value =>
          have below : value < UInt64.size := lt_of_readUnsigned unsigned
          simp only [Except.toOption, Option.map_some, UInt64.toNat_ofNat_of_lt' below]

/-- What an unsigned literal is accepted with when it fits 64 bits. -/
theorem readsAs_of_unsignedLiteral {text : List Char} {value : Nat}
    (literal : UnsignedLiteral text value) (below : value < 2 ^ 64) :
    ReadsAs text (if value < 2 ^ 63 then some (value : Int) else none) (some value) := by
  have unsigned : readUnsigned text = .ok value := readUnsigned_eq_ok_iff.2 ⟨literal, below⟩
  have signed := readSigned_of_unsignedLiteral literal
  by_cases small : value < 2 ^ 63
  · have read := readsAs_of_signed (signed.trans (if_pos small)) (by omega) (by omega)
    rw [unsigned] at read
    rw [if_pos small]
    convert read using 1
    split_ifs with isZero
    · simpa using isZero
    · rfl
  · rw [if_neg small]
    refine ⟨_, by rw [ofText, signed.trans (if_neg small), unsigned], rfl, ?_⟩
    rw [Option.map_some, UInt64.toNat_ofNat_of_lt' below]

theorem readsAs_of_signedLiteral {text : List Char} {value : Int}
    (literal : SignedLiteral text value) (lower : -2 ^ 63 ≤ value) (upper : value < 2 ^ 63) :
    ReadsAs text (some value) (if value = 0 then some 0 else none) := by
  have signed : readSigned text = .ok value :=
    readSigned_eq_ok_iff.2 (.inr ⟨literal, lower, upper⟩)
  have read := readsAs_of_signed signed lower upper
  rwa [readUnsigned_of_signedLiteral literal] at read

/-- An integer literal whose value is out of range. -/
def OutOfRange (text : List Char) : Prop :=
  (∃ value, UnsignedLiteral text value ∧ 2 ^ 64 ≤ value) ∨
    ∃ value, SignedLiteral text value ∧ ¬ (-2 ^ 63 ≤ value ∧ value < 2 ^ 63)

theorem OutOfRange.unread {text : List Char} (outside : OutOfRange text) :
    readSigned text = .error .tooLarge ∧ ∃ unread, readUnsigned text = .error unread := by
  rcases outside with ⟨value, literal, exceeds⟩ | ⟨value, literal, outside⟩
  · have bounds : signedBound < 2 ^ 64 := by decide
    rw [readSigned_of_unsignedLiteral literal, readUnsigned_of_literal literal]
    exact ⟨if_neg (by omega), _, if_neg (Nat.not_lt.2 exceeds)⟩
  · rw [readSigned_of_signedLiteral literal, readUnsigned_of_signedLiteral literal]
    exact ⟨if_neg outside, _, rfl⟩

theorem OutOfRange.exists_literal {text : List Char} (outside : OutOfRange text) :
    ∃ value, UnsignedLiteral (signAndBody text).2 value := by
  rcases outside with ⟨value, literal, -⟩ | ⟨value, literal, -⟩
  · exact ⟨value, by rwa [literal.signAndBody]⟩
  · obtain ⟨negative, body, magnitude, signed, isLiteral, -⟩ := literal.exists_body
    exact ⟨magnitude, by rwa [signed]⟩

theorem OutOfRange.rejected {text : List Char} (outside : OutOfRange text) :
    ∃ fault, ofText text = .error fault := by
  obtain ⟨notSigned, unread, notUnsigned⟩ := outside.unread
  obtain ⟨value, literal⟩ := outside.exists_literal
  rw [ofText_of_unread notSigned notUnsigned]
  exact ofFloatText_of_literal literal _

/-- Integer literals are read exactly. The two readers of integers accept nothing else, and no
literal out of range is accepted as something else. -/
theorem integers_exact (text : List Char) :
    (∀ value, UnsignedLiteral text value → value < 2 ^ 64 →
      ReadsAs text (if value < 2 ^ 63 then some (value : Int) else none) (some value)) ∧
    (∀ value, SignedLiteral text value → -2 ^ 63 ≤ value → value < 2 ^ 63 →
      ReadsAs text (some value) (if value = 0 then some 0 else none)) ∧
    (OutOfRange text → ∃ fault, ofText text = .error fault) ∧
    (∀ value, readUnsigned text = .ok value ↔ UnsignedLiteral text value ∧ value < 2 ^ 64) ∧
    (∀ value, readSigned text = .ok value ↔
      (∃ magnitude : Nat, UnsignedLiteral text magnitude ∧ magnitude < 2 ^ 63 ∧
        value = magnitude) ∨
      (SignedLiteral text value ∧ -2 ^ 63 ≤ value ∧ value < 2 ^ 63)) := by
  refine ⟨?_, ?_, OutOfRange.rejected, ?_, ?_⟩
  · intro value literal below
    exact readsAs_of_unsignedLiteral literal below
  · intro value literal lower upper
    exact readsAs_of_signedLiteral literal lower upper
  · intro value
    exact readUnsigned_eq_ok_iff
  · intro value
    exact readSigned_eq_ok_iff

theorem integers_exact_extremes :
    ReadsAs "0xFFFF_ffff_FFFF_ffff".toList none (some (2 ^ 64 - 1)) ∧
      ReadsAs "-0_1000000000000000000000".toList (some (-2 ^ 63)) none ∧
      ∃ fault, ofText "+9_223_372_036_854_775_808".toList = .error fault := by
  have greatest : UnsignedLiteral "0xFFFF_ffff_FFFF_ffff".toList (2 ^ 64 - 1) :=
    .based (show 'x' ∈ Radix.hexadecimal.letters by decide)
      (moreDigits_digitValues (classes_isGroupDigit .hexadecimal) (by decide) (by decide))
      (by decide)
  have least : SignedLiteral "-0_1000000000000000000000".toList (-2 ^ 63) :=
    .minus (.octal
      (moreDigits_digitValues (classes_isAsciiDigit (by decide)) (by decide) (by decide)))
  have beyond : SignedLiteral "+9_223_372_036_854_775_808".toList (2 ^ 63) :=
    .plus (.decimal (show WritesDigit 10 '9' 9 by decide) (by decide)
      (moreDigits_digitValues (classes_isAsciiDigit (by decide)) (by decide) (by decide)))
  refine ⟨?_, ?_, ?_⟩
  · exact (integers_exact _).1 _ greatest (by decide)
  · exact (integers_exact _).2.1 _ least (by decide) (by decide)
  · exact (integers_exact _).2.2.1 (.inr ⟨_, beyond, by decide⟩)

/-! ## Overflow -/

/-- Decimal digits behind an optional sign, of a number that a double can be nearest to. A leading
zero does not matter here. -/
def ReadsAsDecimal (text : List Char) : Prop :=
  ∃ sign ∈ signs, ∃ body digits, text = sign ++ body ∧ Digits 10 body digits ∧ digits ≠ [] ∧
    (nearestDouble (ofDigits 10 digits) 0).isInfinite = false

/-- A leading zero, and behind it a digit that base eight lacks, but only after digits whose number
is already too large. -/
def OverrunsOctal (text : List Char) : Prop :=
  ∃ sign ∈ signs, ∃ rest digits, text = sign ++ '0' :: rest ∧ MoreDigits 10 rest digits ∧
    (∃ digit ∈ digits, 8 ≤ digit) ∧ 2 ^ 64 ≤ ofDigits 8 (digits.takeWhile (· < 8))

/-- A numeral without point and exponent is a run of decimal digits. -/
theorem floatBody_plain_iff {radix : Radix} {body : List Char} {digits : FloatDigits} :
    FloatBody radix false body digits ↔ radix = .decimal ∧
      ∃ whole, Digits 10 body whole ∧ whole ≠ [] ∧ digits = ⟨whole, [], false, []⟩ := by
  constructor
  · intro spelled
    generalize isPlain : false = fractional at spelled
    cases spelled with
    | hexadecimal => contradiction
    | @decimal point present _ _ scaled =>
        obtain ⟨rfl, rfl⟩ : point = false ∧ present = false := by
          simpa using isPlain.symm
        obtain ⟨isMantissa, isExponent⟩ := scaled
        cases isMantissa with
        | plain isWhole nonempty =>
            cases isExponent
            rw [List.append_nil]
            exact ⟨rfl, _, isWhole, nonempty, rfl⟩
  · rintro ⟨rfl, whole, isDigits, nonempty, rfl⟩
    rw [← List.append_nil body]
    exact .decimal (.mk (.plain isDigits nonempty) .absent)

theorem toDouble_plain (whole : List Nat) :
    (FloatDigits.mk whole [] false []).toDouble .decimal = nearestDouble (ofDigits 10 whole) 0 := by
  show nearestDouble (ofDigits 10 (whole ++ [])) _ = _
  rw [List.append_nil]
  rfl

/-- A text reads as decimal digits when it has a double and does not look fractional. -/
theorem readsAsDecimal_iff {text : List Char} :
    ReadsAsDecimal text ↔ (∃ x, readFloat? text = some x) ∧ looksFractional text = false := by
  rw [exists_readFloat?_iff]
  constructor
  · rintro ⟨sign, isSign, body, whole, rfl, isDigits, nonempty, notInfinite⟩
    rw [← toDouble_plain] at notInfinite
    exact ⟨sign, isSign, body, _, _, rfl,
      floatBody_plain_iff.2 ⟨rfl, whole, isDigits, nonempty, rfl⟩, notInfinite⟩
  · rintro ⟨sign, isSign, body, radix, digits, rfl, spelled, notInfinite⟩
    obtain ⟨rfl, whole, isDigits, nonempty, rfl⟩ := floatBody_plain_iff.1 spelled
    rw [toDouble_plain] at notInfinite
    exact ⟨sign, isSign, body, whole, rfl, isDigits, nonempty, notInfinite⟩

theorem ofFloatText_eq_overflow_iff {overflowed : Bool} {text : List Char} :
    ofFloatText overflowed text = .error .integerOverflow ↔
      overflowed = true ∧ ReadsAsDecimal text := by
  rw [readsAsDecimal_iff]
  unfold ofFloatText
  cases readFloat? text with
  | none => simp
  | some x => cases looksFractional text <;> cases overflowed <;> simp

/-! ### Digits that base eight lacks -/

/-- Behind a leading zero a digit that base eight lacks makes a text no literal. -/
theorem not_literal_of_stray {rest : List Char} {digits : List Nat}
    (more : MoreDigits 10 rest digits) (stray : ∃ digit ∈ digits, 8 ≤ digit) {value : Nat} :
    ¬ UnsignedLiteral ('0' :: rest) value := by
  intro literal
  cases literal with
  | decimal writes nonzero _ => exact ne_zero_of_writes writes nonzero rfl
  | based selects _ _ =>
      have noLetter := more.noLetter _ List.mem_cons_self
      rw [ofLetter?_eq_some_iff.2 selects] at noLetter
      contradiction
  | octal octal =>
      obtain ⟨digit, member, large⟩ := stray
      rw [more.unique (by decide) (octal.mono (by decide))] at member
      exact absurd (octal.lt digit member) (Nat.not_lt.2 large)

/-- A character is a digit in a base when the digit that it writes is less. -/
theorem isDigitIn_eq_of_writes {base wider : Nat} (le : base ≤ wider) (small : wider ≤ 16)
    {c : Char} {digit : Nat} (writes : WritesDigit wider c digit) :
    isDigitIn base c = decide (digit < base) := by
  have baseSmall : base ≤ 16 := Nat.le_trans le small
  rw [Bool.eq_iff_iff, decide_eq_true_eq]
  constructor
  · intro isDigit
    obtain ⟨second, found⟩ := Option.isSome_iff_exists.1 isDigit
    have writesSecond := (digitValue?_eq_some_iff baseSmall).1 found
    rw [writes.unique small baseSmall writesSecond]
    exact writesSecond.1
  · intro below
    exact isDigitIn_of_writes baseSmall ⟨below, writes.2⟩

/-- The octal digits in front of the first digit that base eight lacks. -/
theorem digitValues_octal {kept : List Char} {digits : List Nat}
    (written : List.Forall₂ (WritesDigit 10) kept digits) :
    digitValues 8 (kept.takeWhile (isDigitIn 8)) = digits.takeWhile (· < 8) := by
  induction written with
  | nil => rfl
  | @cons c digit rest others writes _ inductionHypothesis =>
      have isDigit := isDigitIn_eq_of_writes (by decide : 8 ≤ 10) (by decide) writes
      rw [List.takeWhile_cons, List.takeWhile_cons, isDigit]
      by_cases octal : digit < 8
      · have found : digitValue? 8 c = some digit :=
          (digitValue?_eq_some_iff (by decide)).2 ⟨octal, writes.2⟩
        simp only [octal, decide_true, if_true, digitValues, List.filterMap_cons, found]
        rw [← inductionHypothesis]
        rfl
      · simp only [octal, decide_false, Bool.false_eq_true, if_false]
        rfl

/-- Digits of base eight up to the first digit that the base lacks. -/
theorem readDigits_octal {rest : List Char} {digits : List Nat} (more : MoreDigits 10 rest digits)
    (stray : ∃ digit ∈ digits, 8 ≤ digit) :
    readDigits 8 0 rest =
      if unsignedBound ≤ ofDigits 8 (digits.takeWhile (· < 8)) then .error .tooLarge
      else .error .malformed := by
  obtain ⟨grouped, written⟩ := (moreDigits_iff (classes_isAsciiDigit (Nat.le_refl 10))).1 more
  have notAll : (rest.filter (· != '_')).all (isDigitIn 8) = false := by
    by_contra isAll
    have all := List.all_eq_true.1 (Bool.not_eq_false _ ▸ isAll)
    have octal := moreDigits_digitValues (classes_isAsciiDigit (by decide)) grouped all
    exact not_literal_of_stray more stray (.octal octal)
  rw [readDigits_eq (by decide) (by decide), digitValues_octal written, extend_zero, notAll]
  rfl

theorem readSigned_of_unread {text : List Char} {unread : Unread}
    (notUnsigned : readUnsigned (signAndBody text).2 = .error unread) :
    readSigned text = .error unread := by
  simp only [readSigned, notUnsigned]

/-- A numeral in base eight with a digit that the base lacks is not read, for the same reason
behind a sign and without one. -/
theorem unread_of_stray {sign rest : List Char} {digits : List Nat} (isSign : sign ∈ signs)
    (more : MoreDigits 10 rest digits) (stray : ∃ digit ∈ digits, 8 ≤ digit) :
    ∃ unread, readSigned (sign ++ '0' :: rest) = .error unread ∧
      (unread = .tooLarge ↔ unsignedBound ≤ ofDigits 8 (digits.takeWhile (· < 8))) ∧
      (readUnsigned (sign ++ '0' :: rest) = .error unread ∨
        readUnsigned (sign ++ '0' :: rest) = .error .malformed) := by
  have notSign : ∀ c ∈ ('0' :: rest).head?, Text.isSign c = false := by
    simp
    decide
  have isBody := signAndBody_append isSign notSign
  have notUnsigned : ∃ unread, readUnsigned ('0' :: rest) = .error unread ∧
      (unread = .tooLarge ↔ unsignedBound ≤ ofDigits 8 (digits.takeWhile (· < 8))) := by
    rw [readUnsigned_zero more, readDigits_octal more stray]
    split_ifs with exceeds
    · exact ⟨_, rfl, by simp [exceeds]⟩
    · exact ⟨_, rfl, by simp [exceeds]⟩
  obtain ⟨unread, notUnsigned, tooLarge⟩ := notUnsigned
  refine ⟨unread, readSigned_of_unread (by rwa [isBody]), tooLarge, ?_⟩
  simp only [signs, List.mem_cons, List.not_mem_nil, or_false] at isSign
  rcases isSign with rfl | rfl | rfl
  · exact .inl notUnsigned
  · exact .inr rfl
  · exact .inr rfl

theorem OverrunsOctal.unread {text : List Char} (overruns : OverrunsOctal text) :
    readSigned text = .error .tooLarge ∧ ∃ unread, readUnsigned text = .error unread := by
  obtain ⟨sign, isSign, rest, digits, rfl, more, stray, exceeds⟩ := overruns
  obtain ⟨unread, notSigned, tooLarge, notUnsigned⟩ := unread_of_stray isSign more stray
  rw [tooLarge.2 exceeds] at notSigned
  exact ⟨notSigned, notUnsigned.elim (fun read => ⟨_, read⟩) fun read => ⟨_, read⟩⟩

/-- Decimal digits are a literal, or a zero in front of a digit that base eight lacks. -/
theorem literal_or_stray {body : List Char} {digits : List Nat} (isDigits : Digits 10 body digits)
    (nonempty : digits ≠ []) :
    (∃ value, UnsignedLiteral body value) ∨
      ∃ rest others, body = '0' :: rest ∧ MoreDigits 10 rest others ∧
        ∃ digit ∈ others, 8 ≤ digit := by
  cases isDigits with
  | absent => contradiction
  | @present c value rest others writes more =>
      by_cases isZero : value = 0
      · subst isZero
        rw [writes.eq_zero]
        by_cases stray : ∃ digit ∈ others, 8 ≤ digit
        · exact .inr ⟨rest, others, rfl, more, stray⟩
        · refine .inl ⟨_, .octal (more.rebase fun digit member => ?_)⟩
          exact Nat.lt_of_not_le fun large => stray ⟨digit, member, large⟩
      · exact .inl ⟨_, .decimal writes isZero more⟩

/-- The two ways to overflow exclude each other: a text that overruns base eight is no literal. -/
theorem OverrunsOctal.not_outOfRange {text : List Char} (overruns : OverrunsOctal text) :
    ¬ OutOfRange text := by
  intro outside
  obtain ⟨sign, isSign, rest, digits, rfl, more, stray, -⟩ := overruns
  obtain ⟨value, literal⟩ := outside.exists_literal
  rw [signAndBody_append isSign (by simp; decide)] at literal
  exact not_literal_of_stray more stray literal

/-- A literal without an integer reading is out of range. -/
theorem outOfRange_of_literal {text : List Char} {value : Nat} {signed unsigned : Unread}
    (literal : UnsignedLiteral (signAndBody text).2 value)
    (notSigned : readSigned text = .error signed)
    (notUnsigned : readUnsigned text = .error unsigned) : OutOfRange text := by
  have ofSigned : ∀ {n}, SignedLiteral text n → OutOfRange text := by
    intro n isLiteral
    refine .inr ⟨n, isLiteral, fun inRange => ?_⟩
    rw [readSigned_eq_ok_iff.2 (.inr ⟨isLiteral, inRange⟩)] at notSigned
    contradiction
  rcases isText : signAndBody text with ⟨negative, body⟩
  rw [isText] at literal
  rcases signAndBody_cases isText with ⟨sign, isSign, rfl, -⟩ | ⟨rfl, -, -⟩
  · rcases List.mem_pair.1 isSign with rfl | rfl
    · exact ofSigned (.plus literal)
    · exact ofSigned (.minus literal)
  · refine .inl ⟨value, literal, Nat.le_of_not_lt fun below => ?_⟩
    rw [readUnsigned_eq_ok_iff.2 ⟨literal, below⟩] at notUnsigned
    contradiction

/-- Where an integer reader finds a number that is too large in decimal digits, they are a literal
out of range, or have a digit that base eight lacks. -/
theorem outOfRange_or_overrunsOctal {text : List Char} {signed unsigned : Unread}
    (decimal : ReadsAsDecimal text) (notSigned : readSigned text = .error signed)
    (notUnsigned : readUnsigned text = .error unsigned)
    (overflowed : (signed == .tooLarge || unsigned == .tooLarge) = true) :
    OutOfRange text ∨ OverrunsOctal text := by
  obtain ⟨sign, isSign, body, digits, rfl, isDigits, nonempty, -⟩ := decimal
  have isBody := signAndBody_append isSign isDigits.notSign
  rcases literal_or_stray isDigits nonempty with
    ⟨value, literal⟩ | ⟨rest, others, rfl, more, stray⟩
  · exact .inl (outOfRange_of_literal (by rwa [isBody]) notSigned notUnsigned)
  · obtain ⟨unread, isSigned, tooLarge, isUnsigned⟩ := unread_of_stray isSign more stray
    rw [notSigned] at isSigned
    rw [notUnsigned] at isUnsigned
    cases isSigned
    -- behind a sign the unsigned reader finds no number, so the signed one has found it too large
    have signedTooLarge : signed = .tooLarge := by
      rcases isUnsigned with same | malformed
      · cases same
        simpa using overflowed
      · cases malformed
        simpa using overflowed
    exact .inr ⟨sign, isSign, rest, others, rfl, more, stray, tooLarge.1 signedTooLarge⟩

/-- The texts that are refused as integers that are too large. -/
theorem ofText_eq_overflow_iff (text : List Char) :
    ofText text = .error .integerOverflow ↔
      ReadsAsDecimal text ∧ (OutOfRange text ∨ OverrunsOctal text) := by
  constructor
  · intro rejected
    obtain ⟨signed, unsigned, notSigned, notUnsigned, overflows⟩ := unread_of_rejected rejected
    obtain ⟨overflowed, decimal⟩ := ofFloatText_eq_overflow_iff.1 overflows
    exact ⟨decimal, outOfRange_or_overrunsOctal decimal notSigned notUnsigned overflowed⟩
  · rintro ⟨decimal, exceeds⟩
    have unread : readSigned text = .error .tooLarge ∧
        ∃ unread, readUnsigned text = .error unread :=
      exceeds.elim OutOfRange.unread OverrunsOctal.unread
    obtain ⟨notSigned, unread, notUnsigned⟩ := unread
    rw [ofText_of_unread notSigned notUnsigned, ofFloatText_eq_overflow_iff]
    exact ⟨rfl, decimal⟩

/-- The code of every text that is refused. A literal out of range is an overflow only if it is also
read as a decimal double, and a text that overruns base eight is one too. -/
theorem codes_of_rejected (text : List Char) :
    ((∃ fault, ofText text = .error fault ∧ fault.code.id = "TAG1201") ↔
      ReadsAsDecimal text ∧ (OutOfRange text ∨ OverrunsOctal text)) ∧
    ((∃ fault, ofText text = .error fault ∧ fault.code.id = "TAG1202") ↔
      (∀ readings, ofText text ≠ .ok readings) ∧
        ¬ (ReadsAsDecimal text ∧ (OutOfRange text ∨ OverrunsOctal text))) := by
  rw [← ofText_eq_overflow_iff]
  cases ofText text with
  | ok readings => simp
  | error fault => cases fault <;> simp [NumberFault.code, Code.id]

/-- Being out of range is neither enough for the code of an overflow nor needed for it. -/
theorem overflow_misreported :
    (OutOfRange "0x10000000000000000".toList ∧
      ∃ fault, ofText "0x10000000000000000".toList = .error fault ∧ fault.code.id = "TAG1202") ∧
    (¬ OutOfRange "020000000000000000000008".toList ∧
      ∃ fault, ofText "020000000000000000000008".toList = .error fault ∧
        fault.code.id = "TAG1201") := by
  have literal : UnsignedLiteral "0x10000000000000000".toList (2 ^ 64) :=
    .based (show 'x' ∈ Radix.hexadecimal.letters by decide)
      (moreDigits_digitValues (classes_isGroupDigit .hexadecimal) (by decide) (by decide))
      (by decide)
  have more : MoreDigits 10 "20000000000000000000008".toList _ :=
    moreDigits_digitValues (classes_isAsciiDigit (Nat.le_refl 10)) (by decide) (by decide)
  have overruns : OverrunsOctal "020000000000000000000008".toList :=
    ⟨[], by decide, _, _, rfl, more, ⟨8, by decide, by decide⟩, by decide⟩
  exact ⟨⟨.inl ⟨_, literal, by decide⟩, _, rfl, rfl⟩, overruns.not_outOfRange, _, rfl, rfl⟩

end Readings

end RecordTags
