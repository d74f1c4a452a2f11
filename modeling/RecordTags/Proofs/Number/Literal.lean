import Mathlib.Algebra.Group.Nat.Defs
import Mathlib.Data.List.Forall2
import Mathlib.Data.List.Induction
import RecordTags.Proofs.Number.Numeral

/-!
Contract: the grammar of numeric literals.

Owns:
- runs of digits in which single underscores stand between digits only;
- integer literals with their values, and literals with a point or an exponent
  with the digits that they write;
- that the grouping rule and the text without its underscores decide together
  whether a text is a run of digits.

Does not own: what is read from a literal, which is
`RecordTags.Proofs.Number.Integral` for integers and
`RecordTags.Proofs.Number.Fractional` for doubles.

## Two descriptions of underscores

The readers check the underscores of the whole text in one pass and drop them
all before they look at the digits. The grammar has every underscore between
two digits of one run. The first description forgets where the underscores
were, so it can only be compared with the second one run at a time:
`moreDigits_iff` for a run that continues a digit, `digits_iff` for one that
starts anew.
-/

namespace RecordTags

/-- The letters that select a base behind a leading zero. -/
def Radix.letters : Radix → List Char
  | binary => ['b', 'B']
  | octal => ['o', 'O']
  | decimal => []
  | hexadecimal => ['x', 'X']

namespace Number

open RecordTags.Text

/-! ## Runs of digits -/

/-- The character writes the digit in a base. Letters may have either case. -/
def WritesDigit (base : Nat) (c : Char) (digit : Nat) : Prop :=
  digit < base ∧ (c = digit.digitChar ∨ c = digit.digitChar.toUpper)

instance (base : Nat) (c : Char) (digit : Nat) : Decidable (WritesDigit base c digit) :=
  inferInstanceAs (Decidable (_ ∧ _))

/-- What may follow a digit: more digits, each alone or behind one underscore. -/
inductive MoreDigits (base : Nat) : List Char → List Nat → Prop where
  | done : MoreDigits base [] []
  | digit {c : Char} {value : Nat} {text : List Char} {digits : List Nat}
      (writes : WritesDigit base c value) (more : MoreDigits base text digits) :
      MoreDigits base (c :: text) (value :: digits)
  | grouped {c : Char} {value : Nat} {text : List Char} {digits : List Nat}
      (writes : WritesDigit base c value) (more : MoreDigits base text digits) :
      MoreDigits base ('_' :: c :: text) (value :: digits)

/-- A run of digits that may be empty. No underscore stands before its first digit. -/
inductive Digits (base : Nat) : List Char → List Nat → Prop where
  | absent : Digits base [] []
  | present {c : Char} {value : Nat} {text : List Char} {digits : List Nat}
      (writes : WritesDigit base c value) (more : MoreDigits base text digits) :
      Digits base (c :: text) (value :: digits)

/-! ## Integer literals -/

/-- An unsigned integer literal and its value. A base letter and a leading zero count as digits,
so an underscore may follow either. -/
inductive UnsignedLiteral : List Char → Nat → Prop where
  | decimal {c : Char} {value : Nat} {text : List Char} {digits : List Nat}
      (writes : WritesDigit 10 c value) (nonzero : value ≠ 0)
      (more : MoreDigits 10 text digits) :
      UnsignedLiteral (c :: text) (ofDigits 10 (value :: digits))
  | based {letter : Char} {radix : Radix} {text : List Char} {digits : List Nat}
      (selects : letter ∈ radix.letters) (more : MoreDigits radix.base text digits)
      (nonempty : digits ≠ []) :
      UnsignedLiteral ('0' :: letter :: text) (ofDigits radix.base digits)
  | octal {text : List Char} {digits : List Nat} (more : MoreDigits 8 text digits) :
      UnsignedLiteral ('0' :: text) (ofDigits 8 digits)

/-- A sign in front of an unsigned literal, and the value of the whole. -/
inductive SignedLiteral : List Char → Int → Prop where
  | plus {text : List Char} {value : Nat} (literal : UnsignedLiteral text value) :
      SignedLiteral ('+' :: text) value
  | minus {text : List Char} {value : Nat} (literal : UnsignedLiteral text value) :
      SignedLiteral ('-' :: text) (-(value : Int))

/-! ## Literals with a point or an exponent -/

/-- The digits of a literal with a point or an exponent. -/
structure FloatDigits where
  whole : List Nat
  fraction : List Nat
  exponentNegative : Bool
  exponent : List Nat

/-- How the digits before the point, behind it and of the exponent are written. -/
structure Runs where
  whole : List Char → List Nat → Prop
  fraction : List Char → List Nat → Prop
  exponent : List Char → List Nat → Prop

/-- At least one digit, with or without a point. -/
inductive Mantissa (runs : Runs) : (point : Bool) → List Char → (whole fraction : List Nat) → Prop
  where
  | plain {text : List Char} {whole : List Nat} (before : runs.whole text whole)
      (nonempty : whole ≠ []) : Mantissa runs false text whole []
  | pointed {left right : List Char} {whole fraction : List Nat} (before : runs.whole left whole)
      (behind : runs.fraction right fraction) (nonempty : whole ≠ [] ∨ fraction ≠ []) :
      Mantissa runs true (left ++ '.' :: right) whole fraction

/-- Nothing, or the mark of an exponent, an optional sign and at least one digit. -/
inductive Exponent (runs : Runs) (marks : List Char) :
    (present : Bool) → List Char → (negative : Bool) → List Nat → Prop where
  | absent : Exponent runs marks false [] false []
  | unsigned {mark : Char} {text : List Char} {digits : List Nat} (isMark : mark ∈ marks)
      (written : runs.exponent text digits) (nonempty : digits ≠ []) :
      Exponent runs marks true (mark :: text) false digits
  | signed {mark sign : Char} {text : List Char} {digits : List Nat} (isMark : mark ∈ marks)
      (isSign : sign ∈ ['+', '-']) (written : runs.exponent text digits)
      (nonempty : digits ≠ []) :
      Exponent runs marks true (mark :: sign :: text) (sign == '-') digits

/-- A mantissa and an exponent. -/
inductive Scaled (runs : Runs) (marks : List Char) :
    (point present : Bool) → List Char → FloatDigits → Prop where
  | mk {point present negative : Bool} {mantissa scale : List Char}
      {whole fraction exponent : List Nat}
      (isMantissa : Mantissa runs point mantissa whole fraction)
      (isExponent : Exponent runs marks present scale negative exponent) :
      Scaled runs marks point present (mantissa ++ scale) ⟨whole, fraction, negative, exponent⟩

/-- The runs of a decimal literal. -/
def Runs.decimal : Runs := ⟨Digits 10, Digits 10, Digits 10⟩

/-- The runs of a literal in base sixteen. The base letter counts as a digit, so an underscore may
follow it; the exponent is decimal. -/
def Runs.hexadecimal : Runs := ⟨MoreDigits 16, Digits 16, Digits 10⟩

/-- A numeral without a sign, and whether it has a point or an exponent. Behind the base letter of
base sixteen there must be an exponent. -/
inductive FloatBody : Radix → (fractional : Bool) → List Char → FloatDigits → Prop where
  | decimal {point present : Bool} {text : List Char} {digits : FloatDigits}
      (scaled : Scaled .decimal ['e', 'E'] point present text digits) :
      FloatBody .decimal (point || present) text digits
  | hexadecimal {point : Bool} {letter : Char} {text : List Char} {digits : FloatDigits}
      (isLetter : letter ∈ Radix.hexadecimal.letters)
      (scaled : Scaled .hexadecimal ['p', 'P'] point true text digits) :
      FloatBody .hexadecimal true ('0' :: letter :: text) digits

theorem Exponent.head {runs : Runs} {marks text : List Char} {present negative : Bool}
    {digits : List Nat} (isExponent : Exponent runs marks present text negative digits) :
    text = [] ∨ ∃ mark ∈ marks, ∃ rest, text = mark :: rest := by
  cases isExponent with
  | absent => exact .inl rfl
  | unsigned isMark _ _ | signed isMark _ _ _ => exact .inr ⟨_, isMark, _, rfl⟩

/-! ## Characters that write digits -/

/-- Digits are ASCII characters. -/
theorem lt_of_digitValue? {c : Char} {digit : Nat} (found : digitValue? 16 c = some digit) :
    c.toNat < 128 := by
  obtain ⟨value, -⟩ := Option.filter_eq_some_iff.1 found
  simp only [Bool.and_eq_true, decide_eq_true_eq] at value
  split_ifs at value with isDecimal isSmall isCapital
  · exact Nat.lt_of_le_of_lt isDecimal.2 (by decide)
  · exact Nat.lt_of_le_of_lt isSmall.2 (by decide)
  · exact Nat.lt_of_le_of_lt isCapital.2 (by decide)

theorem spelled_of_digitValue? {c : Char} {digit : Nat} (found : digitValue? 16 c = some digit) :
    c = digit.digitChar ∨ c = digit.digitChar.toUpper := by
  have spelled : ∀ codePoint < 128, ∀ digit ∈ digitValue? 16 (Char.ofNat codePoint),
      Char.ofNat codePoint = digit.digitChar ∨
        Char.ofNat codePoint = digit.digitChar.toUpper := by
    decide +kernel
  have ofCodePoint := spelled c.toNat (lt_of_digitValue? found) digit
  rw [Char.ofNat_toNat] at ofCodePoint
  exact ofCodePoint found

/-- The value of a character is the digit that it writes. -/
theorem digitValue?_eq_some_iff {base : Nat} (small : base ≤ 16) {c : Char} {digit : Nat} :
    digitValue? base c = some digit ↔ WritesDigit base c digit := by
  have narrowed : digitValue? base c = (digitValue? 16 c).filter (· < base) := by
    simp only [digitValue?, Option.filter_filter]
    congr 1
    funext value
    simp
    omega
  rw [narrowed, Option.filter_eq_some_iff, decide_eq_true_eq]
  constructor
  · rintro ⟨found, below⟩
    exact ⟨below, spelled_of_digitValue? found⟩
  · rintro ⟨below, spelled⟩
    have written : ∀ digit < 16, digitValue? 16 digit.digitChar = some digit ∧
        digitValue? 16 digit.digitChar.toUpper = some digit := by
      decide
    obtain ⟨lower, upper⟩ := written digit (Nat.lt_of_lt_of_le below small)
    refine ⟨?_, below⟩
    rcases spelled with rfl | rfl
    · exact lower
    · exact upper

/-- A character writes at most one digit. -/
theorem WritesDigit.unique {base other : Nat} (small : base ≤ 16) (otherSmall : other ≤ 16)
    {c : Char} {digit second : Nat} (writes : WritesDigit base c digit)
    (writesSecond : WritesDigit other c second) : digit = second := by
  have widen : ∀ {base digit}, base ≤ 16 → WritesDigit base c digit →
      digitValue? 16 c = some digit := by
    rintro base digit small ⟨below, spelled⟩
    exact (digitValue?_eq_some_iff (Nat.le_refl 16)).2 ⟨Nat.lt_of_lt_of_le below small, spelled⟩
  exact Option.some.inj ((widen small writes).symm.trans (widen otherSmall writesSecond))

theorem WritesDigit.eq_zero {base : Nat} {c : Char} (writes : WritesDigit base c 0) : c = '0' := by
  rcases writes.2 with rfl | rfl
  · rfl
  · rfl

/-- A base is selected by its letters. -/
theorem ofLetter?_eq_some_iff {c : Char} {radix : Radix} :
    Radix.ofLetter? c = some radix ↔ c ∈ radix.letters := by
  constructor
  · intro selects
    have known : ∀ c ∈ ['b', 'B', 'o', 'O', 'x', 'X'], ∀ radix ∈ Radix.ofLetter? c,
        c ∈ radix.letters := by
      decide
    exact known c (mem_letters_of_ofLetter? selects) radix selects
  · intro letter
    have known : ∀ c ∈ radix.letters, Radix.ofLetter? c = some radix := by
      cases radix <;> decide
    exact known c letter

theorem isDigitIn_of_writes {base : Nat} (small : base ≤ 16) {c : Char} {digit : Nat}
    (writes : WritesDigit base c digit) : isDigitIn base c = true := by
  rw [isDigitIn, (digitValue?_eq_some_iff small).2 writes]
  rfl

/-- Characters write digits when they belong to the base and have them for values. -/
theorem forall₂_writes_iff {base : Nat} (small : base ≤ 16) {kept : List Char}
    {digits : List Nat} :
    List.Forall₂ (WritesDigit base) kept digits ↔
      (∀ c ∈ kept, isDigitIn base c = true) ∧ digitValues base kept = digits := by
  induction kept generalizing digits with
  | nil =>
      constructor
      · rintro ⟨⟩
        exact ⟨fun c member => absurd member List.not_mem_nil, rfl⟩
      · rintro ⟨-, rfl⟩
        exact .nil
  | cons c rest inductionHypothesis =>
      rw [List.forall₂_cons_left_iff, List.forall_mem_cons, digitValues, List.filterMap_cons,
        isDigitIn]
      constructor
      · rintro ⟨digit, others, writes, written, rfl⟩
        obtain ⟨all, values⟩ := inductionHypothesis.1 written
        rw [(digitValue?_eq_some_iff small).2 writes]
        exact ⟨⟨rfl, all⟩, by rw [← values]; rfl⟩
      · rintro ⟨⟨isDigit, all⟩, values⟩
        obtain ⟨digit, found⟩ := Option.isSome_iff_exists.1 isDigit
        rw [found] at values
        exact ⟨digit, _, (digitValue?_eq_some_iff small).1 found,
          inductionHypothesis.2 ⟨all, rfl⟩, values.symm⟩

theorem lt_of_writes {base : Nat} {digits : List Char} {values : List Nat}
    (written : List.Forall₂ (WritesDigit base) digits values) : ∀ value ∈ values, value < base := by
  induction written with
  | nil => simp
  | cons writes _ inductionHypothesis =>
      exact List.forall_mem_cons.2 ⟨writes.1, inductionHypothesis⟩

/-- A number is below the base to the power of its digits. -/
theorem ofDigits_lt {base : Nat} {values : List Nat} (below : ∀ value ∈ values, value < base) :
    ofDigits base values < base ^ values.length := by
  induction values using List.reverseRecOn with
  | nil => exact Nat.one_pos
  | append_singleton values last inductionHypothesis =>
      obtain ⟨others, isLast⟩ := List.forall_mem_append.1 below
      rw [ofDigits_append_singleton, List.length_append, List.length_singleton, Nat.pow_succ]
      calc ofDigits base values * base + last
          < ofDigits base values * base + base := by
            exact Nat.add_lt_add_left (isLast last (List.mem_singleton_self last)) _
        _ = (ofDigits base values + 1) * base := (Nat.succ_mul _ _).symm
        _ ≤ base ^ values.length * base := Nat.mul_le_mul_right _ (inductionHypothesis others)

/-! ## The grouping rule on runs -/

/-- A text without underscores is grouped. -/
theorem groupedFrom_of_not_mem {isDigit : Char → Bool} {before : Before} {text : List Char}
    (noUnderscore : '_' ∉ text) (notBehind : before ≠ .underscore) :
    groupedFrom isDigit before text = true := by
  induction text generalizing before with
  | nil => simpa [groupedFrom] using notBehind
  | cons c rest inductionHypothesis =>
      obtain ⟨notHere, notLater⟩ := not_or.1 (mt List.mem_cons.2 noUnderscore)
      have isOther : (c == '_') = false := beq_eq_false_iff_ne.2 (Ne.symm notHere)
      rw [groupedFrom, isOther]
      split
      · exact inductionHypothesis notLater (by decide)
      · have behind : groupedFrom isDigit .other rest = true :=
          inductionHypothesis notLater (by decide)
        simpa [notBehind] using behind

theorem groupedFrom_append_cons {isDigit : Char → Bool} {before : Before} {c : Char}
    (notDigit : isDigit c = false) (notUnderscore : c ≠ '_') (left right : List Char) :
    groupedFrom isDigit before (left ++ c :: right) =
      (groupedFrom isDigit before left && groupedFrom isDigit .other right) := by
  induction left generalizing before with
  | nil => simp [groupedFrom, notDigit, notUnderscore]
  | cons head rest inductionHypothesis =>
      simp only [List.cons_append, groupedFrom, inductionHypothesis]
      split_ifs <;> simp [Bool.and_assoc]

theorem groupedFrom_cons_other {isDigit : Char → Bool} {c : Char} (notDigit : isDigit c = false)
    (notUnderscore : c ≠ '_') (rest : List Char) :
    groupedFrom isDigit .other (c :: rest) = groupedFrom isDigit .other rest :=
  groupedFrom_append_cons notDigit notUnderscore [] rest

theorem groupedFrom_start (isDigit : Char → Bool) (text : List Char) :
    groupedFrom isDigit .start text = groupedFrom isDigit .other text := by
  cases text with
  | nil => rfl
  | cons c rest => rfl

theorem filter_cons_of_ne {c : Char} (notUnderscore : c ≠ '_') (rest : List Char) :
    (c :: rest).filter (· != '_') = c :: rest.filter (· != '_') :=
  List.filter_cons_of_pos (by simpa using notUnderscore)

/-- A class of digits that the grouping rule can look for in a base: it has all digits of the base,
and may have more. -/
structure Classes (base : Nat) (isDigit : Char → Bool) : Prop where
  small : base ≤ 16
  digit : ∀ c, isDigitIn base c = true → isDigit c = true
  underscore : isDigit '_' = false

section Grouping

variable {base : Nat} {isDigit : Char → Bool} (classes : Classes base isDigit)
include classes

theorem isDigit_of_writes {c : Char} {digit : Nat} (writes : WritesDigit base c digit) :
    isDigit c = true :=
  classes.digit c (isDigitIn_of_writes classes.small writes)

theorem ne_underscore_of_writes {c : Char} {digit : Nat} (writes : WritesDigit base c digit) :
    c ≠ '_' := by
  rintro rfl
  have isUnderscore := isDigit_of_writes classes writes
  rw [classes.underscore] at isUnderscore
  contradiction

/-- What follows a digit is grouped, and writes its digits without the underscores. -/
theorem MoreDigits.grouped_and_written {text : List Char} {digits : List Nat}
    (more : MoreDigits base text digits) :
    groupedFrom isDigit .digit text = true ∧
      List.Forall₂ (WritesDigit base) (text.filter (· != '_')) digits := by
  induction more with
  | done => exact ⟨rfl, .nil⟩
  | @digit c value text digits writes more inductionHypothesis =>
      rw [groupedFrom, if_pos (isDigit_of_writes classes writes),
        filter_cons_of_ne (ne_underscore_of_writes classes writes)]
      exact ⟨inductionHypothesis.1, .cons writes inductionHypothesis.2⟩
  | @grouped c value text digits writes more inductionHypothesis =>
      rw [List.filter_cons_of_neg (by decide),
        filter_cons_of_ne (ne_underscore_of_writes classes writes)]
      refine ⟨?_, .cons writes inductionHypothesis.2⟩
      simpa [groupedFrom, classes.underscore, isDigit_of_writes classes writes] using
        inductionHypothesis.1

/-- A text whose kept characters are digits is a run, of the kind that what stands before it calls
for. -/
theorem moreDigits_or_digits {text : List Char} {digits : List Nat}
    (written : List.Forall₂ (WritesDigit base) (text.filter (· != '_')) digits) :
    (groupedFrom isDigit .digit text = true → MoreDigits base text digits) ∧
      (groupedFrom isDigit .underscore text = true → MoreDigits base ('_' :: text) digits) ∧
      (groupedFrom isDigit .other text = true → Digits base text digits) := by
  -- the three starts are shown together, since an underscore leads from the first to the second
  induction text generalizing digits with
  | nil =>
      cases written
      exact ⟨fun _ => .done, fun ended => absurd ended Bool.false_ne_true, fun _ => .absent⟩
  | cons c rest inductionHypothesis =>
      by_cases isUnderscore : c = '_'
      · subst isUnderscore
        rw [List.filter_cons_of_neg (by decide)] at written
        simp only [groupedFrom, classes.underscore]
        refine ⟨fun grouped => ?_, fun grouped => ?_, fun grouped => ?_⟩
        · exact (inductionHypothesis written).2.1 (by simpa using grouped)
        · simp at grouped
        · simp at grouped
      · rw [filter_cons_of_ne isUnderscore] at written
        obtain ⟨digit, others, writes, writtenRest, rfl⟩ :=
          List.forall₂_cons_left_iff.1 written
        have more := (inductionHypothesis writtenRest).1
        simp only [groupedFrom, isDigit_of_writes classes writes, if_true]
        exact ⟨fun grouped => .digit writes (more grouped),
          fun grouped => .grouped writes (more grouped),
          fun grouped => .present writes (more grouped)⟩

theorem moreDigits_iff {text : List Char} {digits : List Nat} :
    MoreDigits base text digits ↔ groupedFrom isDigit .digit text = true ∧
      List.Forall₂ (WritesDigit base) (text.filter (· != '_')) digits :=
  ⟨fun more => more.grouped_and_written classes,
    fun ⟨grouped, written⟩ => (moreDigits_or_digits classes written).1 grouped⟩

/-- The digits of a run are the ones that its kept characters stand for. -/
theorem moreDigits_digitValues {text : List Char} (grouped : groupedFrom isDigit .digit text = true)
    (all : ∀ c ∈ text.filter (· != '_'), isDigitIn base c = true) :
    MoreDigits base text (digitValues base (text.filter (· != '_'))) :=
  (moreDigits_iff classes).2 ⟨grouped, (forall₂_writes_iff classes.small).2 ⟨all, rfl⟩⟩

/-- A run of digits is a grouped text that writes them without its underscores. -/
theorem digits_iff {text : List Char} {digits : List Nat} :
    Digits base text digits ↔ groupedFrom isDigit .other text = true ∧
      List.Forall₂ (WritesDigit base) (text.filter (· != '_')) digits := by
  constructor
  · intro isDigits
    cases isDigits with
    | absent => exact ⟨rfl, .nil⟩
    | present writes more =>
      have all := (MoreDigits.digit writes more).grouped_and_written classes
      rw [groupedFrom, if_pos (isDigit_of_writes classes writes)] at all ⊢
      exact all
  · rintro ⟨grouped, written⟩
    exact (moreDigits_or_digits classes written).2.2 grouped

end Grouping

/-! ## Classes of digits -/

/-- The digits that the grouping rule looks for. Below base sixteen they are the decimal ones,
whatever the base. -/
def isGroupDigit : Radix → Char → Bool
  | .hexadecimal => isDigitIn 16
  | _ => isAsciiDigit

theorem classes_isDigitIn {base : Nat} (small : base ≤ 16) : Classes base (isDigitIn 16) :=
  ⟨small, fun _ => isDigitIn_mono small, by decide⟩

theorem isAsciiDigit_of_isDigitIn {base : Nat} (small : base ≤ 10) {c : Char}
    (isDigit : isDigitIn base c = true) : isAsciiDigit c = true := by
  obtain ⟨digit, found⟩ := Option.isSome_iff_exists.1 (isDigitIn_mono small isDigit)
  obtain ⟨below, spelled⟩ := (digitValue?_eq_some_iff (by decide)).1 found
  have known : ∀ digit < 10, isAsciiDigit digit.digitChar = true ∧
      isAsciiDigit digit.digitChar.toUpper = true := by
    decide
  obtain ⟨lower, upper⟩ := known digit below
  rcases spelled with rfl | rfl
  · exact lower
  · exact upper

theorem classes_isAsciiDigit {base : Nat} (small : base ≤ 10) : Classes base isAsciiDigit :=
  ⟨Nat.le_trans small (by decide), fun _ => isAsciiDigit_of_isDigitIn small, by decide⟩

theorem classes_isGroupDigit (radix : Radix) : Classes radix.base (isGroupDigit radix) := by
  cases radix with
  | hexadecimal => exact classes_isDigitIn (Nat.le_refl 16)
  | binary | octal | decimal => exact classes_isAsciiDigit (by decide)

/-! ## The grouping rule by base -/

theorem isGrouped_of_letter {text rest : List Char} {letter : Char} {radix : Radix}
    (body : (signAndBody text).2 = '0' :: letter :: rest) (selects : letter ∈ radix.letters) :
    isGrouped text = groupedFrom (isGroupDigit radix) .digit rest := by
  unfold isGrouped
  rw [body]
  simp only [ofLetter?_eq_some_iff.2 selects]
  cases radix with
  | hexadecimal | binary | octal => rfl
  | decimal => exact absurd selects List.not_mem_nil

theorem isGrouped_of_noLetter {text : List Char}
    (noLetter : ∀ letter rest, (signAndBody text).2 = '0' :: letter :: rest →
      Radix.ofLetter? letter = none) :
    isGrouped text = groupedFrom isAsciiDigit .other (signAndBody text).2 := by
  rw [← groupedFrom_start]
  unfold isGrouped
  dsimp only
  split
  next letter rest body => rw [noLetter letter rest body, body]
  next => rfl

theorem isGrouped_of_not_mem {text : List Char} (noUnderscore : '_' ∉ (signAndBody text).2) :
    isGrouped text = true := by
  by_cases noLetter : ∀ letter rest, (signAndBody text).2 = '0' :: letter :: rest →
      Radix.ofLetter? letter = none
  · rw [isGrouped_of_noLetter noLetter]
    exact groupedFrom_of_not_mem noUnderscore (by decide)
  · simp only [not_forall] at noLetter
    obtain ⟨letter, rest, body, isLetter⟩ := noLetter
    obtain ⟨radix, selects⟩ := Option.ne_none_iff_exists'.1 isLetter
    rw [isGrouped_of_letter body (ofLetter?_eq_some_iff.1 selects)]
    rw [body] at noUnderscore
    simp only [List.mem_cons, not_or] at noUnderscore
    exact groupedFrom_of_not_mem noUnderscore.2.2 (by decide)

/-! ## Bases -/

theorem base_pos (radix : Radix) : 0 < radix.base := by cases radix <;> decide

theorem base_le (radix : Radix) : radix.base ≤ 16 := by cases radix <;> decide

theorem MoreDigits.ne_nil {base : Nat} {text : List Char} {digits : List Nat}
    (more : MoreDigits base text digits) (nonempty : digits ≠ []) : text ≠ [] := by
  rintro rfl
  cases more
  exact nonempty rfl

/-- Digits are also digits of every base that exceeds them. -/
theorem MoreDigits.rebase {base other : Nat} {text : List Char} {digits : List Nat}
    (more : MoreDigits base text digits) (below : ∀ digit ∈ digits, digit < other) :
    MoreDigits other text digits := by
  induction more with
  | done => exact .done
  | digit writes _ inductionHypothesis =>
      obtain ⟨first, others⟩ := List.forall_mem_cons.1 below
      exact .digit ⟨first, writes.2⟩ (inductionHypothesis others)
  | grouped writes _ inductionHypothesis =>
      obtain ⟨first, others⟩ := List.forall_mem_cons.1 below
      exact .grouped ⟨first, writes.2⟩ (inductionHypothesis others)

theorem MoreDigits.lt {base : Nat} {text : List Char} {digits : List Nat}
    (more : MoreDigits base text digits) : ∀ digit ∈ digits, digit < base := by
  induction more with
  | done => exact fun digit member => absurd member List.not_mem_nil
  | digit writes _ inductionHypothesis | grouped writes _ inductionHypothesis =>
      exact List.forall_mem_cons.2 ⟨writes.1, inductionHypothesis⟩

theorem MoreDigits.mono {base wider : Nat} (le : base ≤ wider) {text : List Char}
    {digits : List Nat} (more : MoreDigits base text digits) : MoreDigits wider text digits :=
  more.rebase fun digit member => Nat.lt_of_lt_of_le (more.lt digit member) le

theorem MoreDigits.isDigitOrUnderscore (radix : Radix) {text : List Char} {digits : List Nat}
    (more : MoreDigits radix.base text digits) :
    ∀ c ∈ text, radix.isDigitOrUnderscore c = true := by
  apply forall_of_filter
  obtain ⟨-, written⟩ := (moreDigits_iff (classes_isGroupDigit radix)).1 more
  intro c member
  have isDigit := ((forall₂_writes_iff (base_le radix)).1 written).1 c member
  rw [Radix.isDigitOrUnderscore, isDigit, Bool.or_true]

theorem MoreDigits.unique {base : Nat} (small : base ≤ 16) {text : List Char}
    {digits others : List Nat} (more : MoreDigits base text digits)
    (moreOthers : MoreDigits base text others) : digits = others := by
  have values : ∀ {digits}, MoreDigits base text digits →
      digitValues base (text.filter (· != '_')) = digits := by
    intro digits more
    obtain ⟨-, written⟩ := (moreDigits_iff (classes_isDigitIn small)).1 more
    exact ((forall₂_writes_iff small).1 written).2
  exact (values more).symm.trans (values moreOthers)

theorem MoreDigits.noLetter {text : List Char} {digits : List Nat}
    (more : MoreDigits 10 text digits) : ∀ c ∈ text, Radix.ofLetter? c = none := by
  intro c member
  exact ofLetter?_of_isDigitOrUnderscore (more.isDigitOrUnderscore .decimal c member)

theorem Digits.isDigitOrUnderscore (radix : Radix) {text : List Char} {digits : List Nat}
    (isDigits : Digits radix.base text digits) :
    ∀ c ∈ text, radix.isDigitOrUnderscore c = true := by
  cases isDigits with
  | absent => exact fun c member => absurd member List.not_mem_nil
  | present writes more => exact (MoreDigits.digit writes more).isDigitOrUnderscore radix

end Number

end RecordTags
