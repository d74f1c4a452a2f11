import RecordTags.Proofs.Number.Extent

/-!
Contract: every text with readings is spelled as a numeral.

Owns:
- the spelling of texts that have an integer reading;
- the spelling of texts that have a floating-point reading;
- their union, the spelling of texts with any reading.

The floating-point reader looks at the text without its underscores. An
underscore may be put back anywhere among digits, but not between the mark of
an exponent and its sign, nor inside `0x`; that it never stands there follows
from the grouping rule, which wants digits on both sides.

Does not own: the converse. A numeral may be out of range or badly grouped.
-/

namespace RecordTags.Number

open RecordTags.Text

/-! ## Integers -/

/-- Only digits of the base and underscores are read. -/
theorem forall_of_readDigits {radix : Radix} {total value : Nat} {digits : List Char}
    (read : readDigits radix.base total digits = .ok value) :
    ∀ c ∈ digits, radix.isDigitOrUnderscore c = true := by
  induction digits generalizing total with
  | nil => simp
  | cons c rest inductionHypothesis =>
      rw [readDigits] at read
      split at read
      next isUnderscore =>
        refine List.forall_mem_cons.2 ⟨?_, inductionHypothesis read⟩
        rw [Radix.isDigitOrUnderscore, isUnderscore, Bool.true_or]
      next =>
        split at read
        next => contradiction
        next digit isDigit =>
          split at read
          next =>
            refine List.forall_mem_cons.2 ⟨?_, inductionHypothesis read⟩
            rw [Radix.isDigitOrUnderscore, isDigitIn, isDigit, Option.isSome_some, Bool.or_true]
          next => contradiction

theorem isDigitIn_mono {base wider : Nat} (le : base ≤ wider) {c : Char}
    (isDigit : isDigitIn base c = true) : isDigitIn wider c = true := by
  unfold isDigitIn digitValue? at *
  obtain ⟨value, found⟩ := Option.isSome_iff_exists.1 isDigit
  obtain ⟨isValue, below⟩ := Option.filter_eq_some_iff.1 found
  refine Option.isSome_iff_exists.2 ⟨value, Option.filter_eq_some_iff.2 ⟨isValue, ?_⟩⟩
  have small : value < base := by simpa using below
  simpa using Nat.lt_of_lt_of_le small le

theorem isDigitOrUnderscore_of_octal {c : Char}
    (isDigit : Radix.octal.isDigitOrUnderscore c = true) :
    Radix.decimal.isDigitOrUnderscore c = true := by
  unfold Radix.isDigitOrUnderscore at *
  rcases Bool.or_eq_true_iff.1 isDigit with isUnderscore | isOctal
  · rw [isUnderscore, Bool.true_or]
  · have isDecimal : isDigitIn Radix.decimal.base c = true := isDigitIn_mono (by decide) isOctal
    rw [isDecimal, Bool.or_true]

/-- The three ways in which a text shows its base, each of which excludes the others. -/
theorem baseAndDigits_cases {text digits : List Char} {radix : Radix}
    (split : baseAndDigits text = (radix, digits)) :
    (∃ letter, Radix.ofLetter? letter = some radix ∧ digits ≠ [] ∧
        text = '0' :: letter :: digits) ∨
      (radix = .octal ∧ text = '0' :: digits) ∨
      (radix = .decimal ∧ (∀ rest, text ≠ '0' :: rest) ∧ text = digits) := by
  unfold baseAndDigits at split
  split at split
  next letter next rest =>
    split at split
    next selected selects =>
      cases split
      exact .inl ⟨letter, selects, List.cons_ne_nil _ _, rfl⟩
    next =>
      cases split
      exact .inr (.inl ⟨rfl, rfl⟩)
  next rest _ =>
    cases split
    exact .inr (.inl ⟨rfl, rfl⟩)
  next noZero =>
    cases split
    exact .inr (.inr ⟨rfl, noZero, rfl⟩)

/-- A text with an unsigned reading is a numeral. -/
theorem isNumeral_of_readUnsigned {text : List Char} {value : Nat}
    (read : readUnsigned text = .ok value) : IsNumeral text := by
  cases text with
  | nil => contradiction
  | cons first rest =>
      rcases split : baseAndDigits (first :: rest) with ⟨radix, digits⟩
      simp only [readUnsigned, split] at read
      have all : ∀ c ∈ digits, radix.isDigitOrUnderscore c = true := by
        cases inner : readDigits radix.base 0 digits with
        | error unread => rw [inner] at read; contradiction
        | ok total => exact forall_of_readDigits inner
      rcases baseAndDigits_cases split with
        ⟨letter, selects, -, whole⟩ | ⟨rfl, whole⟩ | ⟨rfl, -, whole⟩
      · rw [whole]
        exact .based selects (IsMantissa.whole all).isScaled
      · rw [whole]
        refine .decimal (IsMantissa.whole (List.forall_mem_cons.2 ⟨by decide, ?_⟩)).isScaled
        exact fun c member => isDigitOrUnderscore_of_octal (all c member)
      · rw [whole]
        exact .decimal (IsMantissa.whole all).isScaled

/-! ## Underscores -/

/-- What follows the front of a grouped text is grouped. -/
theorem groupedFrom_append {isDigit : Char → Bool} {before : Before} {left right : List Char}
    (grouped : groupedFrom isDigit before (left ++ right) = true) :
    ∃ next, groupedFrom isDigit next right = true := by
  induction left generalizing before with
  | nil => exact ⟨before, grouped⟩
  | cons c rest inductionHypothesis =>
      rw [List.cons_append, groupedFrom] at grouped
      split_ifs at grouped
      · exact inductionHypothesis grouped
      · exact inductionHypothesis (Bool.and_eq_true_iff.1 grouped).2
      · exact inductionHypothesis (Bool.and_eq_true_iff.1 grouped).2

/-- What stands in front of an underscore is a digit. -/
theorem isDigit_before_underscore {isDigit : Char → Bool} (notDigit : isDigit '_' = false)
    {before : Before} {left right : List Char} {c : Char}
    (grouped : groupedFrom isDigit before (left ++ c :: '_' :: right) = true) :
    isDigit c = true := by
  obtain ⟨next, grouped⟩ := groupedFrom_append grouped
  simp only [groupedFrom, notDigit] at grouped
  by_contra notBefore
  simp [notBefore] at grouped

/-- What stands behind an underscore is a digit. -/
theorem isDigit_behind_underscore {isDigit : Char → Bool} (notDigit : isDigit '_' = false)
    {before : Before} (left : List Char) {right : List Char} {c : Char}
    (grouped : groupedFrom isDigit before (left ++ '_' :: c :: right) = true) :
    isDigit c = true := by
  obtain ⟨next, grouped⟩ := groupedFrom_append grouped
  simp only [groupedFrom, notDigit] at grouped
  by_contra notBehind
  simp [notBehind] at grouped

theorem forall_of_filter {radix : Radix} {text : List Char}
    (all : ∀ c ∈ text.filter (· != '_'), radix.isDigitOrUnderscore c = true) :
    ∀ c ∈ text, radix.isDigitOrUnderscore c = true := by
  intro c member
  by_cases isUnderscore : c = '_'
  · rw [isUnderscore]
    rfl
  · exact all c (List.mem_filter.2 ⟨member, by simpa using isUnderscore⟩)

/-- Underscores make no difference to a mantissa. -/
theorem isMantissa_of_filter {radix : Radix} {text : List Char}
    (bare : IsMantissa radix (text.filter (· != '_'))) : IsMantissa radix text := by
  generalize filtered : text.filter (· != '_') = kept at bare
  cases bare with
  | whole all =>
      rw [← filtered] at all
      exact .whole (forall_of_filter all)
  | point all allFraction =>
      obtain ⟨left, right, rfl, leftKept, rightKept⟩ := List.filter_eq_append_iff.1 filtered
      obtain ⟨skipped, fraction, rfl, underscores, -, fractionKept⟩ :=
        List.filter_eq_cons_iff.1 rightKept
      rw [← List.append_assoc]
      refine .point (List.forall_mem_append.2 ⟨?_, fun c member => ?_⟩) ?_
      · rw [← leftKept] at all
        exact forall_of_filter all
      · have isUnderscore : c = '_' := by simpa using underscores c member
        rw [isUnderscore]
        rfl
      · rw [← fractionKept] at allFraction
        exact forall_of_filter allFraction

/-- Underscores may be put back as long as none stands behind the mark of the exponent. -/
theorem isScaled_of_filter {radix : Radix} {text : List Char}
    (noGap : ∀ left mark right, text = left ++ mark :: '_' :: right →
      radix.isExponentMark mark = false)
    (bare : IsScaled radix (text.filter (· != '_'))) : IsScaled radix text := by
  generalize filtered : text.filter (· != '_') = kept at bare
  obtain @⟨mantissa, exponent, isMantissa, isExponent⟩ := bare
  obtain ⟨left, right, rfl, leftKept, rightKept⟩ := List.filter_eq_append_iff.1 filtered
  -- underscores in front of the mark belong to the mantissa
  have mantissaOf : ∀ skipped : List Char, (∀ c ∈ skipped, ¬(c != '_') = true) →
      IsMantissa radix (left ++ skipped) := by
    intro skipped underscores
    apply isMantissa_of_filter
    rw [List.filter_append, leftKept, List.filter_eq_nil_iff.2 underscores, List.append_nil]
    exact isMantissa
  cases isExponent with
  | absent => exact (mantissaOf right (List.filter_eq_nil_iff.1 rightKept)).isScaled
  | @unsigned mark digits isMark all =>
      obtain ⟨skipped, behind, rfl, underscores, -, behindKept⟩ :=
        List.filter_eq_cons_iff.1 rightKept
      rw [← List.append_assoc]
      rw [← behindKept] at all
      exact .mk (mantissaOf skipped underscores) (.unsigned isMark (forall_of_filter all))
  | @signed mark sign digits isMark isSign all =>
      obtain ⟨skipped, behind, rfl, underscores, -, behindKept⟩ :=
        List.filter_eq_cons_iff.1 rightKept
      obtain ⟨gap, digits, rfl, gapUnderscores, -, digitsKept⟩ :=
        List.filter_eq_cons_iff.1 behindKept
      rw [← List.append_assoc] at noGap ⊢
      rw [← digitsKept] at all
      cases gap with
      | nil =>
          exact .mk (mantissaOf skipped underscores)
            (.signed isMark isSign (forall_of_filter all))
      | cons c tail =>
          have isUnderscore : c = '_' := by simpa using gapUnderscores c List.mem_cons_self
          rw [isUnderscore] at noGap
          rw [noGap _ mark _ rfl] at isMark
          contradiction

/-! ## Floating-point literals -/

theorem signAndBody_of_isSign {c : Char} (sign : isSign c = true) (rest : List Char) :
    signAndBody (c :: rest) = (c == '-', rest) := by
  rw [signAndBody, if_pos sign]

theorem signAndBody_of_not_isSign {c : Char} (notSign : isSign c = false) (rest : List Char) :
    signAndBody (c :: rest) = (false, c :: rest) := by
  rw [signAndBody, if_neg (by simp [notSign])]

/-- What can be taken apart behind a mark is an exponent. -/
theorem isExponent_of_exponentParts? {radix : Radix} {mark : Char} {text : List Char}
    (isMark : radix.isExponentMark mark = true) (found : (exponentParts? text).isSome = true) :
    IsExponent radix (mark :: text) := by
  have ofDigits : ∀ digits : List Char, (!digits.isEmpty && digits.all isAsciiDigit) = true →
      ∀ c ∈ digits, Radix.decimal.isDigitOrUnderscore c = true := by
    intro digits isDigits c member
    have all := List.all_eq_true.1 (Bool.and_eq_true_iff.1 isDigits).2
    exact isDigitOrUnderscore_of_isAsciiDigit (all c member)
  cases text with
  | nil => contradiction
  | cons first rest =>
      cases sign : isSign first with
      | true =>
          simp only [exponentParts?, signAndBody_of_isSign sign] at found
          split_ifs at found with isDigits
          · exact .signed isMark sign (ofDigits _ isDigits)
          · contradiction
      | false =>
          simp only [exponentParts?, signAndBody_of_not_isSign sign] at found
          split_ifs at found with isDigits
          · exact .unsigned isMark (ofDigits _ isDigits)
          · contradiction

/-- Nothing, or an exponent with its mark, as the decimal reader looks for it. -/
theorem isExponent_of_isSome {α : Type} {behind : List Char} {ending : α}
    {finish : Bool × List Char → α}
    (found : (match behind with
      | [] => some ending
      | mark :: rest =>
        if Radix.decimal.isExponentMark mark then (exponentParts? rest).map finish
        else none).isSome = true) : IsExponent .decimal behind := by
  cases behind with
  | nil => exact .absent
  | cons mark rest =>
      simp only at found
      split_ifs at found with isMark
      · rw [Option.isSome_map] at found
        exact isExponent_of_exponentParts? isMark found
      · contradiction

/-- What can be taken apart as a decimal literal is a mantissa and an exponent. -/
theorem isScaled_of_decimalParts? {text : List Char} (found : (decimalParts? text).isSome = true) :
    IsScaled .decimal text := by
  have allDigits : ∀ part : List Char, ∀ c ∈ part.takeWhile isAsciiDigit,
      Radix.decimal.isDigitOrUnderscore c = true :=
    fun part c member => isDigitOrUnderscore_of_isAsciiDigit (List.mem_takeWhile_imp member)
  have whole : text.takeWhile isAsciiDigit ++ text.dropWhile isAsciiDigit = text :=
    List.takeWhile_append_dropWhile
  unfold decimalParts? at found
  simp only at found
  split at found
  next rest behind =>
    split_ifs at found with noDigit
    · contradiction
    · have fraction : rest.takeWhile isAsciiDigit ++ rest.dropWhile isAsciiDigit = rest :=
        List.takeWhile_append_dropWhile
      rw [← whole, behind, ← fraction, ← List.cons_append, ← List.append_assoc]
      exact .mk (.point (allDigits text) (allDigits rest)) (isExponent_of_isSome found)
  next =>
    split_ifs at found with noDigit
    · contradiction
    · rw [← whole]
      exact .mk (.whole (allDigits text)) (isExponent_of_isSome found)

/-- Digits of base sixteen with at most one point among them are a mantissa. -/
theorem isMantissa_of_point {text : List Char}
    (all : (text.takeWhile (· != '.') ++ (text.dropWhile (· != '.')).drop 1).all
      (isDigitIn 16) = true) : IsMantissa .hexadecimal text := by
  have allDigits : ∀ c ∈ text.takeWhile (· != '.') ++ (text.dropWhile (· != '.')).drop 1,
      Radix.hexadecimal.isDigitOrUnderscore c = true := by
    intro c member
    have isDigit : isDigitIn Radix.hexadecimal.base c = true := List.all_eq_true.1 all c member
    rw [Radix.isDigitOrUnderscore, isDigit, Bool.or_true]
  obtain ⟨allWhole, allFraction⟩ := List.forall_mem_append.1 allDigits
  rw [← List.takeWhile_append_dropWhile (p := (· != '.')) (l := text)]
  cases behind : text.dropWhile (· != '.') with
  | nil =>
      rw [List.append_nil]
      exact .whole allWhole
  | cons point fraction =>
      have isPoint : point = '.' := by
        have stops := List.head_dropWhile_not (· != '.') (l := text) (by simp [behind])
        simpa [behind] using stops
      rw [behind, List.drop_one, List.tail_cons] at allFraction
      rw [isPoint]
      exact .point allWhole allFraction

theorem isScaled_of_hexadecimalParts? {text : List Char}
    (found : (hexadecimalParts? text).isSome = true) : IsScaled .hexadecimal text := by
  have whole : text.takeWhile (!Radix.hexadecimal.isExponentMark ·) ++
      text.dropWhile (!Radix.hexadecimal.isExponentMark ·) = text :=
    List.takeWhile_append_dropWhile
  unfold hexadecimalParts? at found
  simp only at found
  split_ifs at found with refused
  · contradiction
  · rw [Bool.or_eq_true, not_or, Bool.not_eq_true', Bool.not_eq_false] at refused
    split at found
    next => contradiction
    next mark rest behind =>
      have isMark : Radix.hexadecimal.isExponentMark mark = true := by
        have stops := List.head_dropWhile_not (!Radix.hexadecimal.isExponentMark ·) (l := text)
          (by simp [behind])
        simpa [behind] using stops
      rw [Option.isSome_map] at found
      rw [← whole, behind]
      exact .mk (isMantissa_of_point refused.2) (isExponent_of_exponentParts? isMark found)

/-- What has a magnitude is a mantissa and an exponent, behind the mark of base sixteen or without
one. -/
theorem isScaled_of_readMagnitude? {body : List Char}
    (found : (readMagnitude? body).isSome = true) :
    (∃ letter rest, body = '0' :: letter :: rest ∧
      Radix.ofLetter? letter = some .hexadecimal ∧ IsScaled .hexadecimal rest) ∨
      IsScaled .decimal body := by
  unfold readMagnitude? at found
  split at found
  next letter rest =>
    split_ifs at found with selects
    · rw [Option.isSome_map] at found
      exact .inl ⟨letter, rest, rfl, eq_of_beq selects, isScaled_of_hexadecimalParts? found⟩
    · rw [Option.isSome_map] at found
      exact .inr (isScaled_of_decimalParts? found)
  next =>
    rw [Option.isSome_map] at found
    exact .inr (isScaled_of_decimalParts? found)

/-- The grouping rule for a text whose base no letter selects. -/
theorem groupedFrom_of_isGrouped {text : List Char} (grouped : isGrouped text = true)
    (noLetter : ∀ letter rest, (signAndBody text).2 = '0' :: letter :: rest →
      Radix.ofLetter? letter = none) :
    groupedFrom isAsciiDigit .start (signAndBody text).2 = true := by
  unfold isGrouped at grouped
  simp only at grouped
  split at grouped
  next letter rest body =>
    rw [noLetter letter rest body] at grouped
    exact grouped
  next => exact grouped

theorem groupedFrom_of_isGrouped_hexadecimal {text rest : List Char} {letter : Char}
    (grouped : isGrouped text = true) (body : (signAndBody text).2 = '0' :: letter :: rest)
    (selects : Radix.ofLetter? letter = some .hexadecimal) :
    groupedFrom (isDigitIn 16) .digit rest = true := by
  unfold isGrouped at grouped
  rw [body] at grouped
  simp only [selects] at grouped
  exact grouped

theorem isExponentMark_of_isDigitIn {radix : Radix} {c : Char}
    (isDigit : isDigitIn radix.base c = true) : radix.isExponentMark c = false := by
  by_contra isMark
  rw [Bool.not_eq_false] at isMark
  have notDigit := (not_isDigit_of_isExponentMark isMark).1
  rw [Radix.isDigitOrUnderscore, isDigit, Bool.or_true] at notDigit
  contradiction

/-- An underscore that is not between digits shows in the text. -/
theorem isNumeral_of_bare_decimal {text : List Char}
    (grouped : '_' ∈ (signAndBody text).2 → isGrouped text = true)
    (bare : IsScaled .decimal ((signAndBody text).2.filter (· != '_'))) :
    IsNumeral (signAndBody text).2 := by
  refine .decimal (isScaled_of_filter (fun left mark right whole => ?_) bare)
  have noLetter : ∀ letter rest, (signAndBody text).2 = '0' :: letter :: rest →
      Radix.ofLetter? letter = none := by
    intro letter rest body
    by_cases isUnderscore : letter = '_'
    · rw [isUnderscore]
      rfl
    · rw [body, List.filter_cons_of_pos (by decide),
        List.filter_cons_of_pos (by simpa using isUnderscore)] at bare
      exact (bare.tail (by decide)).ofLetter?_head separated_nil letter rfl
  have grouping := groupedFrom_of_isGrouped (grouped (by rw [whole]; simp)) noLetter
  rw [whole] at grouping
  have isDigit := isDigit_before_underscore (by decide) grouping
  exact isExponentMark_of_isDigitIn (isDigitIn_of_isAsciiDigit (Nat.le_refl 10) isDigit)

/-- No underscore stands in front of the zero that a letter follows, nor between the two. -/
theorem body_of_filter_letter {text rest : List Char} {letter : Char} {radix : Radix}
    (grouped : '_' ∈ (signAndBody text).2 → isGrouped text = true)
    (filtered : (signAndBody text).2.filter (· != '_') = '0' :: letter :: rest)
    (selects : Radix.ofLetter? letter = some radix) :
    ∃ digits, (signAndBody text).2 = '0' :: letter :: digits ∧
      digits.filter (· != '_') = rest := by
  obtain ⟨front, behind, whole, frontUnderscores, -, behindKept⟩ :=
    List.filter_eq_cons_iff.1 filtered
  obtain ⟨gap, digits, rfl, gapUnderscores, -, digitsKept⟩ :=
    List.filter_eq_cons_iff.1 behindKept
  have noFront : front = [] := by
    cases front with
    | nil => rfl
    | cons c tail =>
        have isUnderscore : c = '_' := by simpa using frontUnderscores c List.mem_cons_self
        rw [isUnderscore, List.cons_append] at whole
        have grouping := groupedFrom_of_isGrouped (grouped (by rw [whole]; simp)) (by simp [whole])
        rw [whole, groupedFrom] at grouping
        contradiction
  have noGap : gap = [] := by
    cases gap with
    | nil => rfl
    | cons c tail =>
        have isUnderscore : c = '_' := by simpa using gapUnderscores c List.mem_cons_self
        rw [noFront, isUnderscore, List.nil_append, List.cons_append] at whole
        have grouping := groupedFrom_of_isGrouped (grouped (by rw [whole]; simp)) (by
          intro other others body
          rw [whole] at body
          cases body
          rfl)
        rw [whole] at grouping
        -- what stands behind the first underscore is no digit
        cases tail with
        | nil =>
            have isDigit := isDigit_behind_underscore (by decide) ['0'] grouping
            have notDigit : ∀ c ∈ ['b', 'B', 'o', 'O', 'x', 'X'], isAsciiDigit c = false := by
              decide
            rw [notDigit letter (mem_letters_of_ofLetter? selects)] at isDigit
            contradiction
        | cons second tail =>
            have isUnderscore : second = '_' := by
              simpa using gapUnderscores second (List.mem_cons_of_mem _ List.mem_cons_self)
            rw [isUnderscore] at grouping
            have isDigit := isDigit_behind_underscore (by decide) ['0'] grouping
            contradiction
  rw [noFront, noGap, List.nil_append, List.nil_append] at whole
  exact ⟨digits, whole, digitsKept⟩

theorem isNumeral_of_bare_hexadecimal {text rest : List Char} {letter : Char}
    (grouped : '_' ∈ (signAndBody text).2 → isGrouped text = true)
    (filtered : (signAndBody text).2.filter (· != '_') = '0' :: letter :: rest)
    (selects : Radix.ofLetter? letter = some .hexadecimal)
    (bare : IsScaled .hexadecimal rest) : IsNumeral (signAndBody text).2 := by
  obtain ⟨digits, whole, rfl⟩ := body_of_filter_letter grouped filtered selects
  rw [whole]
  refine .based selects (isScaled_of_filter (fun left mark right inDigits => ?_) bare)
  have grouping := groupedFrom_of_isGrouped_hexadecimal
    (grouped (by rw [whole, inDigits]; simp)) whole selects
  rw [inDigits] at grouping
  exact isExponentMark_of_isDigitIn (isDigit_before_underscore (by decide) grouping)

/-- A text with a reading as a double is a numeral behind its sign. -/
theorem isNumeral_of_readFloat? {text : List Char} (read : (readFloat? text).isSome = true) :
    IsNumeral (signAndBody text).2 := by
  unfold readFloat? at read
  simp only at read
  by_cases badlyGrouped : ((signAndBody text).2.contains '_' && !isGrouped text) = true
  · rw [if_pos badlyGrouped] at read
    contradiction
  · rw [if_neg badlyGrouped] at read
    have grouped : '_' ∈ (signAndBody text).2 → isGrouped text = true := by
      simpa using badlyGrouped
    have found : (readMagnitude? ((signAndBody text).2.filter (· != '_'))).isSome = true := by
      by_contra unread
      rw [Bool.not_eq_true, Option.isSome_eq_false_iff, Option.isNone_iff_eq_none] at unread
      rw [unread] at read
      contradiction
    rcases isScaled_of_readMagnitude? found with ⟨letter, rest, filtered, selects, bare⟩ | bare
    · exact isNumeral_of_bare_hexadecimal grouped filtered selects bare
    · exact isNumeral_of_bare_decimal grouped bare

/-! ## Any reading -/

theorem isSignedNumeral_of_body {first : Char} {rest : List Char}
    (numeral : IsNumeral (signAndBody (first :: rest)).2) : IsSignedNumeral (first :: rest) := by
  cases sign : isSign first with
  | true =>
      rw [signAndBody_of_isSign sign] at numeral
      exact .signed sign numeral
  | false =>
      rw [signAndBody_of_not_isSign sign] at numeral
      exact .unsigned sign numeral

theorem isSign_of_readUnsigned {first : Char} {rest : List Char} {value : Nat}
    (read : readUnsigned (first :: rest) = .ok value) : isSign first = false := by
  by_contra sign
  rw [Bool.not_eq_false] at sign
  rcases eq_of_isSign sign with rfl | rfl <;> contradiction

/-- Every text with readings is a numeral behind an optional sign. -/
theorem isSignedNumeral_of_ofText {first : Char} {rest : List Char} {readings : Readings}
    (read : Readings.ofText (first :: rest) = .ok readings) : IsSignedNumeral (first :: rest) := by
  unfold Readings.ofText at read
  split at read
  next number _ signed =>
    unfold readSigned at signed
    simp only at signed
    split at signed
    next => contradiction
    next magnitude unsigned =>
      exact isSignedNumeral_of_body (isNumeral_of_readUnsigned unsigned)
  next unsigned =>
    exact .unsigned (isSign_of_readUnsigned unsigned) (isNumeral_of_readUnsigned unsigned)
  next =>
    unfold Readings.ofFloatText at read
    split at read
    next => contradiction
    next float found =>
      exact isSignedNumeral_of_body (isNumeral_of_readFloat? (by rw [found]; rfl))

end RecordTags.Number
