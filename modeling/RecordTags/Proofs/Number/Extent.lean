import Mathlib.Data.List.TakeWhile
import RecordTags.Number.Readings
import RecordTags.Token.Scan

/-!
Contract: the scanner never cuts a numeral.

Owns:
- the spellings that the scanner takes for a numeral: digits with at most one
  point and at most one exponent, in the base that a letter behind a leading
  zero selects;
- that such a spelling is taken as a whole in front of a separator or the end.

Does not own: which spellings have readings.
-/

namespace RecordTags

namespace Text

/-! ## Cuts -/

/-- Nothing follows, or a separator that ends every name and number. -/
def Separated (rest : List Char) : Prop := ∀ c ∈ rest.head?, c ∈ [',', ';', '=']

theorem separated_nil : Separated [] := by
  intro c member
  contradiction

theorem separated_cons {c : Char} (separator : c ∈ [',', ';', '=']) (rest : List Char) :
    Separated (c :: rest) := by
  intro head member
  cases member
  exact separator

theorem Separated.stops {rest : List Char} (separated : Separated rest) {P : Char → Prop}
    (all : ∀ c ∈ [',', ';', '='], P c) : ∀ c ∈ rest.head?, P c :=
  fun c member => all c (separated c member)

namespace Split

theorem taken_run {p : Char → Bool} {text rest : List Char} (all : ∀ c ∈ text, p c = true)
    (stops : ∀ c ∈ rest.head?, p c = false) : (run p (text ++ rest)).taken = text := by
  have nothing : rest.takeWhile p = [] := by
    cases rest with
    | nil => rfl
    | cons c tail => rw [List.takeWhile_cons, stops c rfl]; rfl
  show (text ++ rest).takeWhile p = text
  rw [List.takeWhile_append_of_pos all, nothing, List.append_nil]

theorem one_of_stops {p : Char → Bool} {text : List Char}
    (stops : ∀ c ∈ text.head?, p c = false) : one p text = none text := by
  cases text with
  | nil => rfl
  | cons c tail => rw [one, stops c rfl, if_neg Bool.false_ne_true]

theorem one_of_cons {p : Char → Bool} {c : Char} (holds : p c = true) (rest : List Char) :
    one p (c :: rest) = ⟨[c], rest, rfl⟩ := by
  rw [one, if_pos holds]

/-- What is left behind a text that was taken as a whole. -/
theorem rest_of_taken {text rest : List Char} {split : Split (text ++ rest)}
    (taken : split.taken = text) : split.rest = rest := by
  have whole := split.whole
  rw [taken] at whole
  exact List.append_cancel_left whole

theorem taken_andThen {text : List Char} (first : Split text)
    (next : (rest : List Char) → Split rest) :
    (first.andThen next).taken = first.taken ++ (next first.rest).taken := rfl

theorem taken_cons (c : Char) {text : List Char} (split : Split text) :
    (split.cons c).taken = c :: split.taken := rfl

end Split

end Text

open RecordTags.Text

namespace Number

/-! ## Spellings -/

/-- Digits and underscores, with at most one point among them. -/
inductive IsMantissa (radix : Radix) : List Char → Prop where
  | whole {digits : List Char} (all : ∀ c ∈ digits, radix.isDigitOrUnderscore c = true) :
      IsMantissa radix digits
  | point {digits fraction : List Char}
      (all : ∀ c ∈ digits, radix.isDigitOrUnderscore c = true)
      (allFraction : ∀ c ∈ fraction, radix.isDigitOrUnderscore c = true) :
      IsMantissa radix (digits ++ '.' :: fraction)

/-- Nothing, or the mark of an exponent, an optional sign and decimal digits. -/
inductive IsExponent (radix : Radix) : List Char → Prop where
  | absent : IsExponent radix []
  | unsigned {mark : Char} {digits : List Char} (isMark : radix.isExponentMark mark = true)
      (all : ∀ c ∈ digits, Radix.decimal.isDigitOrUnderscore c = true) :
      IsExponent radix (mark :: digits)
  | signed {mark sign : Char} {digits : List Char} (isMark : radix.isExponentMark mark = true)
      (isSign : isSign sign = true)
      (all : ∀ c ∈ digits, Radix.decimal.isDigitOrUnderscore c = true) :
      IsExponent radix (mark :: sign :: digits)

inductive IsScaled (radix : Radix) : List Char → Prop where
  | mk {mantissa exponent : List Char} (isMantissa : IsMantissa radix mantissa)
      (isExponent : IsExponent radix exponent) : IsScaled radix (mantissa ++ exponent)

/-- A numeral without sign: a base letter behind a zero and digits of that base, or
decimal digits. -/
inductive IsNumeral : List Char → Prop where
  | based {letter : Char} {radix : Radix} {text : List Char}
      (selects : Radix.ofLetter? letter = some radix) (scaled : IsScaled radix text) :
      IsNumeral ('0' :: letter :: text)
  | decimal {text : List Char} (scaled : IsScaled .decimal text) : IsNumeral text

inductive IsSignedNumeral : List Char → Prop where
  | signed {sign : Char} {text : List Char} (isSign : isSign sign = true)
      (numeral : IsNumeral text) : IsSignedNumeral (sign :: text)
  | unsigned {first : Char} {text : List Char} (notSign : isSign first = false)
      (numeral : IsNumeral (first :: text)) : IsSignedNumeral (first :: text)

theorem IsMantissa.isScaled {radix : Radix} {text : List Char}
    (isMantissa : IsMantissa radix text) : IsScaled radix text := by
  rw [← List.append_nil text]
  exact .mk isMantissa .absent

/-! ## Characters -/

theorem isDigitIn_of_isAsciiDigit {base : Nat} (atLeastTen : 10 ≤ base) {c : Char}
    (isDigit : isAsciiDigit c = true) : isDigitIn base c = true := by
  have bounds : '0' ≤ c ∧ c ≤ '9' := by simpa [isAsciiDigit] using isDigit
  have value : c.toNat - '0'.toNat < base := by
    have upper : c.toNat ≤ '9'.toNat := bounds.2
    have nine : '9'.toNat = '0'.toNat + 9 := rfl
    omega
  simpa [isDigitIn, digitValue?, bounds] using value

theorem isDigitOrUnderscore_of_isAsciiDigit {c : Char} (isDigit : isAsciiDigit c = true) :
    Radix.decimal.isDigitOrUnderscore c = true := by
  have inBase : isDigitIn Radix.decimal.base c = true :=
    isDigitIn_of_isAsciiDigit (Nat.le_refl 10) isDigit
  rw [Radix.isDigitOrUnderscore, inBase, Bool.or_true]

theorem isDigitOrUnderscore_separator (radix : Radix) :
    ∀ c ∈ [',', ';', '='], radix.isDigitOrUnderscore c = false := by
  cases radix <;> decide

theorem isDigitOrUnderscore_point (radix : Radix) : radix.isDigitOrUnderscore '.' = false := by
  cases radix <;> decide

theorem isExponentMark_separator (radix : Radix) :
    ∀ c ∈ [',', ';', '='], radix.isExponentMark c = false := by
  cases radix <;> decide

theorem mem_marks_of_isExponentMark {radix : Radix} {c : Char}
    (isMark : radix.isExponentMark c = true) :
    (radix = .decimal ∧ c ∈ ['e', 'E']) ∨ (radix = .hexadecimal ∧ c ∈ ['p', 'P']) := by
  cases radix with
  | decimal => exact .inl ⟨rfl, by simpa [Radix.isExponentMark] using isMark⟩
  | hexadecimal => exact .inr ⟨rfl, by simpa [Radix.isExponentMark] using isMark⟩
  | binary | octal => contradiction

/-- The mark of an exponent is neither a digit nor a point. -/
theorem not_isDigit_of_isExponentMark {radix : Radix} {c : Char}
    (isMark : radix.isExponentMark c = true) :
    radix.isDigitOrUnderscore c = false ∧ c ≠ '.' := by
  rcases mem_marks_of_isExponentMark isMark with ⟨rfl, mark⟩ | ⟨rfl, mark⟩
  · revert c
    decide
  · revert c
    decide

theorem eq_of_isSign {c : Char} (sign : isSign c = true) : c = '+' ∨ c = '-' := by
  simpa [isSign] using sign

theorem isSign_separator : ∀ c ∈ [',', ';', '='], isSign c = false := by
  decide

theorem isSign_of_isDigitOrUnderscore {c : Char}
    (isDigit : Radix.decimal.isDigitOrUnderscore c = true) : isSign c = false := by
  by_contra sign
  rw [Bool.not_eq_false] at sign
  rcases eq_of_isSign sign with rfl | rfl <;> contradiction

theorem mem_letters_of_ofLetter? {c : Char} {radix : Radix}
    (selects : Radix.ofLetter? c = some radix) : c ∈ ['b', 'B', 'o', 'O', 'x', 'X'] := by
  unfold Radix.ofLetter? at selects
  split_ifs at selects with isBinary isOctal isHexadecimal
  · simp only [Bool.or_eq_true, beq_iff_eq] at isBinary
    rcases isBinary with rfl | rfl <;> decide
  · simp only [Bool.or_eq_true, beq_iff_eq] at isOctal
    rcases isOctal with rfl | rfl <;> decide
  · simp only [Bool.or_eq_true, beq_iff_eq] at isHexadecimal
    rcases isHexadecimal with rfl | rfl <;> decide

/-! ## Extents of spellings -/

theorem taken_fractionExtent_absent {radix : Radix} {rest : List Char}
    (stops : ∀ c ∈ rest.head?, c ≠ '.') : (Token.fractionExtent radix rest).taken = [] := by
  cases rest with
  | nil => rfl
  | cons c tail =>
      have notPoint : (c == '.') = false := by simpa using stops c rfl
      simp only [Token.fractionExtent, notPoint]
      rfl

theorem taken_fractionExtent_point {radix : Radix} {fraction rest : List Char}
    (all : ∀ c ∈ fraction, radix.isDigitOrUnderscore c = true)
    (stops : ∀ c ∈ rest.head?, radix.isDigitOrUnderscore c = false) :
    (Token.fractionExtent radix ('.' :: fraction ++ rest)).taken = '.' :: fraction := by
  show '.' :: (Split.run radix.isDigitOrUnderscore (fraction ++ rest)).taken = '.' :: fraction
  rw [Split.taken_run all stops]

/-- A mantissa is taken whole, if what follows stops it. -/
theorem taken_mantissa {radix : Radix} {mantissa rest : List Char}
    (isMantissa : IsMantissa radix mantissa)
    (stops : ∀ c ∈ rest.head?, radix.isDigitOrUnderscore c = false ∧ c ≠ '.') :
    ((Split.run radix.isDigitOrUnderscore (mantissa ++ rest)).andThen
      (Token.fractionExtent radix)).taken = mantissa := by
  have stopsDigits : ∀ c ∈ rest.head?, radix.isDigitOrUnderscore c = false :=
    fun c member => (stops c member).1
  cases isMantissa with
  | whole all =>
      have taken := Split.taken_run all stopsDigits
      rw [Split.taken_andThen, Split.rest_of_taken taken, taken,
        taken_fractionExtent_absent fun c member => (stops c member).2, List.append_nil]
  | @point digits fraction all allFraction =>
      have stopsPoint : ∀ c ∈ ('.' :: fraction ++ rest).head?,
          radix.isDigitOrUnderscore c = false := by
        intro c member
        cases member
        exact isDigitOrUnderscore_point radix
      rw [List.append_assoc]
      have taken := Split.taken_run all stopsPoint
      rw [Split.taken_andThen, Split.rest_of_taken taken, taken,
        taken_fractionExtent_point allFraction stopsDigits]

/-- An exponent is taken whole. -/
theorem taken_exponentExtent {radix : Radix} {exponent rest : List Char}
    (isExponent : IsExponent radix exponent) (separated : Separated rest) :
    (Token.exponentExtent radix (exponent ++ rest)).taken = exponent := by
  have stops := separated.stops (isDigitOrUnderscore_separator .decimal)
  cases isExponent with
  | absent =>
      cases rest with
      | nil => rfl
      | cons c tail =>
          have notMark : radix.isExponentMark c = false :=
            separated.stops (isExponentMark_separator radix) c rfl
          simp only [List.nil_append, Token.exponentExtent, notMark]
          rfl
  | @unsigned mark digits isMark all =>
      have notSign : ∀ c ∈ (digits ++ rest).head?, isSign c = false := by
        intro c member
        cases digits with
        | nil => exact isSign_separator c (separated c member)
        | cons head tail =>
            cases member
            exact isSign_of_isDigitOrUnderscore (all c List.mem_cons_self)
      simp only [List.cons_append, Token.exponentExtent, isMark, if_true]
      rw [Split.taken_cons, Split.taken_andThen, Split.one_of_stops notSign]
      show mark :: (Split.run _ (digits ++ rest)).taken = mark :: digits
      rw [Split.taken_run all stops]
  | @signed mark sign digits isMark isSign all =>
      simp only [List.cons_append, Token.exponentExtent, isMark, if_true]
      rw [Split.taken_cons, Split.taken_andThen, Split.one_of_cons isSign]
      show mark :: sign :: (Split.run _ (digits ++ rest)).taken = mark :: sign :: digits
      rw [Split.taken_run all stops]

/-- An exponent, or what follows a numeral without one, stops the mantissa. -/
theorem IsExponent.stops {radix : Radix} {exponent rest : List Char}
    (isExponent : IsExponent radix exponent) (separated : Separated rest) :
    ∀ c ∈ (exponent ++ rest).head?, radix.isDigitOrUnderscore c = false ∧ c ≠ '.' := by
  intro c member
  cases isExponent with
  | absent =>
      refine ⟨isDigitOrUnderscore_separator radix c (separated c member), ?_⟩
      rintro rfl
      exact absurd (separated '.' member) (by decide)
  | unsigned isMark all =>
      cases member
      exact not_isDigit_of_isExponentMark isMark
  | signed isMark isSign all =>
      cases member
      exact not_isDigit_of_isExponentMark isMark

theorem taken_digitsExtent {radix : Radix} {text rest : List Char} (scaled : IsScaled radix text)
    (separated : Separated rest) : (Token.digitsExtent radix (text ++ rest)).taken = text := by
  obtain ⟨isMantissa, isExponent⟩ := scaled
  rw [List.append_assoc]
  have taken := taken_mantissa isMantissa (isExponent.stops separated)
  rw [Token.digitsExtent, Split.taken_andThen, Split.rest_of_taken taken, taken,
    taken_exponentExtent isExponent separated]

/-- No decimal digit selects a base. -/
theorem ofLetter?_of_isDigitOrUnderscore {c : Char}
    (isDigit : Radix.decimal.isDigitOrUnderscore c = true) : Radix.ofLetter? c = none := by
  by_contra selects
  obtain ⟨radix, selects⟩ := Option.ne_none_iff_exists'.1 selects
  have letter := mem_letters_of_ofLetter? selects
  have noLetter : ∀ c ∈ ['b', 'B', 'o', 'O', 'x', 'X'],
      Radix.decimal.isDigitOrUnderscore c = false := by
    decide
  rw [noLetter c letter] at isDigit
  contradiction

theorem IsMantissa.ofLetter? {text : List Char} (isMantissa : IsMantissa .decimal text) :
    ∀ c ∈ text, Radix.ofLetter? c = none := by
  intro c member
  cases isMantissa with
  | whole all => exact ofLetter?_of_isDigitOrUnderscore (all c member)
  | point all allFraction =>
      rcases List.mem_append.1 member with inDigits | behind
      · exact ofLetter?_of_isDigitOrUnderscore (all c inDigits)
      · rcases List.mem_cons.1 behind with rfl | inFraction
        · decide
        · exact ofLetter?_of_isDigitOrUnderscore (allFraction c inFraction)

theorem IsExponent.ofLetter? {text : List Char} (isExponent : IsExponent .decimal text) :
    ∀ c ∈ text, Radix.ofLetter? c = none := by
  have ofMark : ∀ mark, Radix.decimal.isExponentMark mark = true →
      Radix.ofLetter? mark = none := by
    intro mark isMark
    rcases mem_marks_of_isExponentMark isMark with ⟨-, member⟩ | ⟨isHexadecimal, -⟩
    · clear isMark
      revert mark
      decide
    · contradiction
  intro c member
  cases isExponent with
  | absent => exact absurd member List.not_mem_nil
  | unsigned isMark all =>
      rcases List.mem_cons.1 member with rfl | inDigits
      · exact ofMark c isMark
      · exact ofLetter?_of_isDigitOrUnderscore (all c inDigits)
  | signed isMark isSign all =>
      rcases List.mem_cons.1 member with rfl | behind
      · exact ofMark c isMark
      · rcases List.mem_cons.1 behind with rfl | inDigits
        · rcases eq_of_isSign isSign with rfl | rfl <;> rfl
        · exact ofLetter?_of_isDigitOrUnderscore (all c inDigits)

/-- No decimal numeral starts like the letter of a base. -/
theorem IsScaled.ofLetter?_head {text rest : List Char} (scaled : IsScaled .decimal text)
    (separated : Separated rest) : ∀ c ∈ (text ++ rest).head?, Radix.ofLetter? c = none := by
  have inText : ∀ c ∈ text, Radix.ofLetter? c = none := by
    obtain ⟨isMantissa, isExponent⟩ := scaled
    exact List.forall_mem_append.2 ⟨isMantissa.ofLetter?, isExponent.ofLetter?⟩
  have atSeparator : ∀ c ∈ [',', ';', '='], Radix.ofLetter? c = none := by decide
  intro c member
  cases text with
  | nil => exact atSeparator c (separated c member)
  | cons head tail =>
      cases member
      exact inText c List.mem_cons_self

/-- A digit in front of a numeral can be left out. -/
theorem IsScaled.tail {radix : Radix} {digit : Char} {text : List Char}
    (scaled : IsScaled radix (digit :: text)) (isDigit : radix.isDigitOrUnderscore digit = true) :
    IsScaled radix text := by
  generalize whole : digit :: text = full at scaled
  obtain @⟨digits, exponent, isMantissa, isExponent⟩ := scaled
  cases isMantissa with
  | whole all =>
      cases digits with
      | nil =>
          cases isExponent with
          | absent => contradiction
          | unsigned isMark _ | signed isMark _ _ =>
              cases whole
              rw [(not_isDigit_of_isExponentMark isMark).1] at isDigit
              contradiction
      | cons head tail =>
          cases whole
          exact .mk (.whole fun c member => all c (List.mem_cons_of_mem _ member)) isExponent
  | @point digits fraction all allFraction =>
      cases digits with
      | nil =>
          cases whole
          rw [isDigitOrUnderscore_point] at isDigit
          contradiction
      | cons head tail =>
          cases whole
          exact .mk (.point (fun c member => all c (List.mem_cons_of_mem _ member)) allFraction)
            isExponent

/-- What belongs to a numeral behind a leading zero is taken whole. -/
theorem taken_afterZeroExtent {text rest : List Char} (numeral : IsNumeral ('0' :: text))
    (separated : Separated rest) : (Token.afterZeroExtent (text ++ rest)).taken = text := by
  cases numeral with
  | @based letter radix digits selects scaled =>
      simp only [List.cons_append, Token.afterZeroExtent]
      rw [selects]
      show letter :: (Token.digitsExtent radix (digits ++ rest)).taken = letter :: digits
      rw [taken_digitsExtent scaled separated]
  | decimal scaled =>
      have tail : IsScaled .decimal text := scaled.tail (by decide)
      have noLetter := tail.ofLetter?_head separated
      have taken := taken_digitsExtent tail separated
      cases whole : text ++ rest with
      | nil =>
          rw [whole] at taken
          rw [← taken]
          rfl
      | cons head behind =>
          rw [whole] at taken noLetter
          rw [← taken, Token.afterZeroExtent, noLetter head rfl]

/-- A numeral without sign is taken whole. -/
theorem taken_unsignedExtent {text rest : List Char} (numeral : IsNumeral text)
    (separated : Separated rest) : (Token.unsignedExtent (text ++ rest)).taken = text := by
  cases text with
  | nil =>
      have scaled : IsScaled .decimal [] := (IsMantissa.whole (by simp)).isScaled
      have taken := taken_digitsExtent scaled separated
      cases rest with
      | nil => rfl
      | cons c tail =>
          have notZero : (c == '0') = false :=
            (by decide : ∀ c ∈ [',', ';', '='], (c == '0') = false) c (separated c rfl)
          rw [List.nil_append] at taken ⊢
          rw [Token.unsignedExtent, notZero]
          exact taken
  | cons first tail =>
      simp only [List.cons_append, Token.unsignedExtent]
      split
      next isZero =>
        rw [eq_of_beq isZero] at numeral ⊢
        rw [Split.taken_cons, taken_afterZeroExtent numeral separated]
      next notZero =>
        cases numeral with
        | based => contradiction
        | decimal scaled => exact taken_digitsExtent scaled separated

/-- A numeral is taken whole, with a sign or without one. -/
theorem taken_numberTail {first : Char} {text rest : List Char}
    (numeral : IsSignedNumeral (first :: text)) (start : isNumericStart first = true)
    (separated : Separated rest) : (Token.numberTail first (text ++ rest)).taken = text := by
  unfold Token.numberTail
  split_ifs with sign isZero
  · cases numeral with
    | signed isSign numeral => exact taken_unsignedExtent numeral separated
    | unsigned notSign => rw [notSign] at sign; contradiction
  · rw [eq_of_beq isZero] at numeral
    cases numeral with
    | signed isSign => contradiction
    | unsigned _ numeral => exact taken_afterZeroExtent numeral separated
  · have isDigit : isAsciiDigit first = true := by simpa [isNumericStart, sign] using start
    cases numeral with
    | signed isSign => exact absurd isSign sign
    | unsigned _ numeral =>
        cases numeral with
        | based => contradiction
        | decimal scaled =>
            exact taken_digitsExtent (scaled.tail (isDigitOrUnderscore_of_isAsciiDigit isDigit))
              separated

end Number

end RecordTags
