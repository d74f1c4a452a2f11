import RecordTags.Proofs.Number.Integral

/-!
Contract: floating-point readings are the doubles of literals.

Owns:
- that a text is cut into whole part, fraction and exponent exactly where the
  grammar cuts it, in base ten and in base sixteen;
- the double that the digits of a literal denote;
- that a text is read as a double exactly if it is such a literal with a finite
  double, and which of these literals have a point or an exponent.

Does not own: when a double counts as a reading, which is
`RecordTags.Proofs.Number.Classification`.

## From the grammar to the reader

The grammar has underscores and the reader has none, so they meet half way, in
the literals without underscores whose runs are `Runs.bare`. `scaled_iff` drops
the underscores of a literal, and puts them back where the grouping rule allows
them: points, signs and marks of exponents are no digits, so an underscore next
to one is refused, and each cut of the bare text is a cut of the text.
-/

namespace RecordTags.Number

open RecordTags.Text

/-! ## Cuts at characters that are no digits -/

section Cuts

variable {isDigit : Char → Bool} {before : Before} {text front back : List Char} {c : Char}

/-- A cut of the text without underscores is a cut of the text. The underscores in front of the
character at the cut are left to the part before it. -/
theorem exists_cut (notDigit : isDigit c = false)
    (grouped : groupedFrom isDigit before text = true)
    (kept : text.filter (· != '_') = front ++ c :: back) :
    ∃ left right, text = left ++ c :: right ∧
      groupedFrom isDigit before left = true ∧ left.filter (· != '_') = front ∧
      groupedFrom isDigit .other right = true ∧ right.filter (· != '_') = back := by
  obtain ⟨left, behind, rfl, leftKept, behindKept⟩ := List.filter_eq_append_iff.1 kept
  obtain ⟨skipped, right, rfl, underscores, isKept, rightKept⟩ :=
    List.filter_eq_cons_iff.1 behindKept
  rw [← List.append_assoc, groupedFrom_append_cons notDigit (by simpa using isKept),
    Bool.and_eq_true] at grouped
  refine ⟨left ++ skipped, right, (List.append_assoc ..).symm, grouped.1, ?_, grouped.2, rightKept⟩
  rw [List.filter_append, leftKept, List.filter_eq_nil_iff.2 underscores, List.append_nil]

theorem eq_nil_of_filter_eq_nil {base : Nat} (classes : Classes base isDigit)
    (grouped : groupedFrom isDigit .other text = true) (kept : text.filter (· != '_') = []) :
    text = [] := by
  have isDigits : Digits base text [] := (digits_iff classes).2 ⟨grouped, by rw [kept]; exact .nil⟩
  cases isDigits
  rfl

theorem exists_tail {base : Nat} (classes : Classes base isDigit) (notDigit : isDigit c = false)
    (grouped : groupedFrom isDigit .other text = true)
    (kept : text.filter (· != '_') = c :: back) :
    ∃ right, text = c :: right ∧ groupedFrom isDigit .other right = true ∧
      right.filter (· != '_') = back := by
  obtain ⟨left, right, rfl, leftGrouped, leftKept, rightGrouped, rightKept⟩ :=
    exists_cut notDigit grouped (show _ = [] ++ c :: back from kept)
  rw [eq_nil_of_filter_eq_nil classes leftGrouped leftKept]
  exact ⟨right, rfl, rightGrouped, rightKept⟩

end Cuts

/-- The runs of a literal without underscores, as the readers see it. -/
def Runs.bare (base : Nat) : Runs :=
  ⟨List.Forall₂ (WritesDigit base), List.Forall₂ (WritesDigit base),
    List.Forall₂ (WritesDigit 10)⟩

/-- Runs of digits that are grouped as a class of digits wants it, from what stands before. -/
structure Runs.Groups (runs : Runs) (base : Nat) (isDigit : Char → Bool) (before : Before) : Prop
    where
  classes : Classes base isDigit
  decimalClasses : Classes 10 isDigit
  notDigit : ∀ c ∈ ['.', '+', '-'], isDigit c = false
  whole : ∀ {text digits}, runs.whole text digits ↔ groupedFrom isDigit before text = true ∧
    List.Forall₂ (WritesDigit base) (text.filter (· != '_')) digits
  fraction : ∀ {text digits}, runs.fraction text digits ↔
    groupedFrom isDigit .other text = true ∧
      List.Forall₂ (WritesDigit base) (text.filter (· != '_')) digits
  exponent : ∀ {text digits}, runs.exponent text digits ↔
    groupedFrom isDigit .other text = true ∧
      List.Forall₂ (WritesDigit 10) (text.filter (· != '_')) digits

theorem Runs.groups_decimal : Runs.decimal.Groups 10 isAsciiDigit .other :=
  have classes : Classes 10 isAsciiDigit := classes_isAsciiDigit (Nat.le_refl 10)
  ⟨classes, classes, by decide, digits_iff classes, digits_iff classes, digits_iff classes⟩

theorem Runs.groups_hexadecimal : Runs.hexadecimal.Groups 16 (isDigitIn 16) .digit :=
  have classes : Classes 16 (isDigitIn 16) := classes_isDigitIn (Nat.le_refl 16)
  have decimalClasses : Classes 10 (isDigitIn 16) := classes_isDigitIn (by decide)
  ⟨classes, decimalClasses, by decide, moreDigits_iff classes, digits_iff classes,
    digits_iff decimalClasses⟩

section Lifting

variable {runs : Runs} {base : Nat} {isDigit : Char → Bool} {before : Before}
  (groups : runs.Groups base isDigit before)
include groups

/-- A mantissa with underscores is grouped, and is a mantissa without them. -/
theorem mantissa_iff {point : Bool} {text : List Char} {whole fraction : List Nat} :
    Mantissa runs point text whole fraction ↔ groupedFrom isDigit before text = true ∧
      Mantissa (.bare base) point (text.filter (· != '_')) whole fraction := by
  have notPoint : isDigit '.' = false := groups.notDigit '.' (by decide)
  constructor
  · intro isMantissa
    cases isMantissa with
    | plain isWhole nonempty =>
        obtain ⟨grouped, written⟩ := groups.whole.1 isWhole
        exact ⟨grouped, .plain written nonempty⟩
    | pointed isWhole isFraction nonempty =>
        obtain ⟨grouped, written⟩ := groups.whole.1 isWhole
        obtain ⟨groupedBehind, writtenBehind⟩ := groups.fraction.1 isFraction
        rw [groupedFrom_append_cons notPoint (by decide), grouped, groupedBehind,
          List.filter_append, filter_cons_of_ne (by decide)]
        exact ⟨rfl, .pointed written writtenBehind nonempty⟩
  · rintro ⟨grouped, bare⟩
    generalize kept : text.filter (· != '_') = bareText at bare
    cases bare with
    | plain written nonempty =>
        rw [← kept] at written
        exact .plain (groups.whole.2 ⟨grouped, written⟩) nonempty
    | pointed written writtenBehind nonempty =>
        obtain ⟨left, right, rfl, leftGrouped, rfl, rightGrouped, rfl⟩ :=
          exists_cut notPoint grouped kept
        exact .pointed (groups.whole.2 ⟨leftGrouped, written⟩)
          (groups.fraction.2 ⟨rightGrouped, writtenBehind⟩) nonempty

/-- An exponent with underscores is grouped, and is an exponent without them. -/
theorem exponent_iff {marks : List Char} (notDigit : ∀ mark ∈ marks, isDigit mark = false)
    (notUnderscore : ∀ mark ∈ marks, mark ≠ '_') {present negative : Bool} {text : List Char}
    {digits : List Nat} :
    Exponent runs marks present text negative digits ↔ groupedFrom isDigit .other text = true ∧
      Exponent (.bare base) marks present (text.filter (· != '_')) negative digits := by
  have signNotDigit : ∀ sign ∈ ['+', '-'], isDigit sign = false :=
    fun sign isSign => groups.notDigit sign (List.mem_cons_of_mem _ isSign)
  have signNe : ∀ sign ∈ ['+', '-'], sign ≠ '_' := by decide
  constructor
  · intro isExponent
    cases isExponent with
    | absent => exact ⟨rfl, .absent⟩
    | @unsigned mark rest _ isMark isWritten nonempty =>
        obtain ⟨grouped, written⟩ := groups.exponent.1 isWritten
        rw [filter_cons_of_ne (notUnderscore mark isMark),
          groupedFrom_cons_other (notDigit mark isMark) (notUnderscore mark isMark)]
        exact ⟨grouped, .unsigned isMark written nonempty⟩
    | @signed mark sign rest _ isMark isSign isWritten nonempty =>
        obtain ⟨grouped, written⟩ := groups.exponent.1 isWritten
        rw [filter_cons_of_ne (notUnderscore mark isMark), filter_cons_of_ne (signNe sign isSign),
          groupedFrom_cons_other (notDigit mark isMark) (notUnderscore mark isMark),
          groupedFrom_cons_other (signNotDigit sign isSign) (signNe sign isSign)]
        exact ⟨grouped, .signed isMark isSign written nonempty⟩
  · rintro ⟨grouped, bare⟩
    generalize kept : text.filter (· != '_') = bareText at bare
    cases bare with
    | absent =>
        rw [eq_nil_of_filter_eq_nil groups.classes grouped kept]
        exact .absent
    | unsigned isMark written nonempty =>
        obtain ⟨rest, rfl, restGrouped, rfl⟩ :=
          exists_tail groups.classes (notDigit _ isMark) grouped kept
        exact .unsigned isMark (groups.exponent.2 ⟨restGrouped, written⟩) nonempty
    | signed isMark isSign written nonempty =>
        obtain ⟨behind, rfl, behindGrouped, behindKept⟩ :=
          exists_tail groups.classes (notDigit _ isMark) grouped kept
        obtain ⟨rest, rfl, restGrouped, rfl⟩ :=
          exists_tail groups.classes (signNotDigit _ isSign) behindGrouped behindKept
        exact .signed isMark isSign (groups.exponent.2 ⟨restGrouped, written⟩) nonempty

/-- The underscores of a literal are forgotten, and put back where the grouping rule has them. -/
theorem scaled_iff {marks : List Char} (notDigit : ∀ mark ∈ marks, isDigit mark = false)
    (notUnderscore : ∀ mark ∈ marks, mark ≠ '_') {point present : Bool} {text : List Char}
    {digits : FloatDigits} :
    Scaled runs marks point present text digits ↔ groupedFrom isDigit before text = true ∧
      Scaled (.bare base) marks point present (text.filter (· != '_')) digits := by
  constructor
  · rintro ⟨isMantissa, isExponent⟩
    obtain ⟨grouped, bareMantissa⟩ := (mantissa_iff groups).1 isMantissa
    obtain ⟨scaleGrouped, bareExponent⟩ :=
      (exponent_iff groups notDigit notUnderscore).1 isExponent
    rw [List.filter_append]
    refine ⟨?_, .mk bareMantissa bareExponent⟩
    rcases isExponent.head with rfl | ⟨mark, isMark, rest, rfl⟩
    · rwa [List.append_nil]
    · rw [groupedFrom_cons_other (notDigit mark isMark) (notUnderscore mark isMark)]
        at scaleGrouped
      rw [groupedFrom_append_cons (notDigit mark isMark) (notUnderscore mark isMark), grouped,
        scaleGrouped]
      rfl
  · rintro ⟨grouped, bare⟩
    generalize kept : text.filter (· != '_') = bareText at bare
    obtain ⟨bareMantissa, bareExponent⟩ := bare
    rcases bareExponent.head with rfl | ⟨mark, isMark, rest, rfl⟩
    · rw [List.append_nil] at kept
      rw [← kept] at bareMantissa
      rw [← List.append_nil text]
      exact .mk ((mantissa_iff groups).2 ⟨grouped, bareMantissa⟩)
        ((exponent_iff groups notDigit notUnderscore).2 ⟨rfl, bareExponent⟩)
    · obtain ⟨left, right, rfl, leftGrouped, rfl, rightGrouped, rfl⟩ :=
        exists_cut (notDigit mark isMark) grouped kept
      rw [← filter_cons_of_ne (notUnderscore mark isMark)] at bareExponent
      rw [← groupedFrom_cons_other (notDigit mark isMark) (notUnderscore mark isMark)]
        at rightGrouped
      exact .mk ((mantissa_iff groups).2 ⟨leftGrouped, bareMantissa⟩)
        ((exponent_iff groups notDigit notUnderscore).2 ⟨rightGrouped, bareExponent⟩)

end Lifting

/-! ## The parts of bare decimal literals -/

/-- The characters of the parts write the digits. -/
structure DecimalParts.Spells (base : Nat) (parts : DecimalParts) (digits : FloatDigits) : Prop
    where
  whole : List.Forall₂ (WritesDigit base) parts.whole digits.whole
  fraction : List.Forall₂ (WritesDigit base) parts.fraction digits.fraction
  negative : parts.exponentNegative = digits.exponentNegative
  exponent : List.Forall₂ (WritesDigit 10) parts.exponent digits.exponent

theorem forall_isAsciiDigit_of_written {kept : List Char} {digits : List Nat}
    (written : List.Forall₂ (WritesDigit 10) kept digits) : ∀ c ∈ kept, isAsciiDigit c = true := by
  intro c member
  apply isAsciiDigit_of_isDigitIn (Nat.le_refl 10)
  exact ((forall₂_writes_iff (by decide)).1 written).1 c member

theorem exists_written {base : Nat} (small : base ≤ 16) {kept : List Char}
    (all : ∀ c ∈ kept, isDigitIn base c = true) :
    ∃ digits, List.Forall₂ (WritesDigit base) kept digits :=
  ⟨_, (forall₂_writes_iff small).2 ⟨all, rfl⟩⟩

theorem ne_nil_iff_of_written {base : Nat} {kept : List Char} {digits : List Nat}
    (written : List.Forall₂ (WritesDigit base) kept digits) : kept ≠ [] ↔ digits ≠ [] := by
  cases written <;> simp

theorem isEmpty_and_eq_false_iff {base : Nat} {left right : List Char}
    {whole fraction : List Nat} (written : List.Forall₂ (WritesDigit base) left whole)
    (writtenBehind : List.Forall₂ (WritesDigit base) right fraction) :
    (left.isEmpty && right.isEmpty) = false ↔ whole ≠ [] ∨ fraction ≠ [] := by
  cases written <;> cases writtenBehind <;> simp

/-- The digits of an exponent behind its mark. -/
theorem exponentParts?_of_exponent {base : Nat} {marks : List Char} {mark : Char}
    {text : List Char} {present negative : Bool} {digits : List Nat}
    (isExponent : Exponent (.bare base) marks present (mark :: text) negative digits) :
    ∃ kept, exponentParts? text = some (negative, kept) ∧
      List.Forall₂ (WritesDigit 10) kept digits := by
  cases isExponent with
  | unsigned isMark written nonempty =>
      refine ⟨text, ?_, written⟩
      have all := forall_isAsciiDigit_of_written written
      obtain ⟨first, rest, rfl⟩ :=
        List.exists_cons_of_ne_nil ((ne_nil_iff_of_written written).2 nonempty)
      have notSign := isSign_of_isAsciiDigit (all first List.mem_cons_self)
      simp only [exponentParts?, signAndBody_of_not_isSign notSign, List.all_eq_true.2 all]
      rfl
  | @signed _ sign rest _ isMark isSign written nonempty =>
      refine ⟨rest, ?_, written⟩
      have all := forall_isAsciiDigit_of_written written
      have hasDigits := (ne_nil_iff_of_written written).2 nonempty
      have sign : Text.isSign sign = true := by simpa [Text.isSign] using isSign
      simp [exponentParts?, signAndBody_of_isSign sign, List.all_eq_true.2 all, hasDigits]

/-- What can be taken apart behind a mark is an exponent. -/
theorem exponent_of_exponentParts? (base : Nat) {marks : List Char} {mark : Char}
    (isMark : mark ∈ marks) {text kept : List Char} {negative : Bool}
    (found : exponentParts? text = some (negative, kept)) :
    ∃ digits, Exponent (.bare base) marks true (mark :: text) negative digits ∧
      List.Forall₂ (WritesDigit 10) kept digits := by
  rcases signed : signAndBody text with ⟨isNegative, body⟩
  simp only [exponentParts?, signed] at found
  split_ifs at found with isDigits
  cases found
  obtain ⟨hasDigits, all⟩ := Bool.and_eq_true_iff.1 isDigits
  obtain ⟨digits, written⟩ := exists_written (by decide) fun c member =>
    isDigitIn_of_isAsciiDigit (Nat.le_refl 10) (List.all_eq_true.1 all c member)
  have nonempty : digits ≠ [] := (ne_nil_iff_of_written written).1 (by simpa using hasDigits)
  refine ⟨digits, ?_, written⟩
  rcases signAndBody_cases signed with ⟨sign, isSign, rfl, rfl⟩ | ⟨rfl, rfl, -⟩
  · exact .signed isMark isSign written nonempty
  · exact .unsigned isMark written nonempty

theorem takeWhile_append_of_stops {p : Char → Bool} {front : List Char} (back : List Char)
    (all : ∀ c ∈ front, p c = true) (stops : ∀ c ∈ back.head?, p c = false) :
    (front ++ back).takeWhile p = front ∧ (front ++ back).dropWhile p = back :=
  ⟨Split.taken_run all stops, Split.rest_of_taken (Split.taken_run all stops)⟩

/-- What follows the mantissa of a decimal literal. -/
def scaleParts? : List Char → Option (Bool × List Char)
  | [] => some (false, [])
  | mark :: rest => if Radix.decimal.isExponentMark mark then exponentParts? rest else none

theorem isExponentMark_decimal_iff {mark : Char} :
    Radix.decimal.isExponentMark mark = true ↔ mark ∈ ['e', 'E'] := by
  simp [Radix.isExponentMark]

theorem isExponentMark_hexadecimal_iff {mark : Char} :
    Radix.hexadecimal.isExponentMark mark = true ↔ mark ∈ ['p', 'P'] := by
  simp [Radix.isExponentMark]

theorem scaleParts?_of_exponent {base : Nat} {present negative : Bool} {scale : List Char}
    {digits : List Nat}
    (isExponent : Exponent (.bare base) ['e', 'E'] present scale negative digits) :
    ∃ kept, scaleParts? scale = some (negative, kept) ∧
      List.Forall₂ (WritesDigit 10) kept digits := by
  rcases isExponent.head with rfl | ⟨mark, isMark, rest, rfl⟩
  · cases isExponent
    exact ⟨[], rfl, .nil⟩
  · rw [scaleParts?, if_pos (isExponentMark_decimal_iff.2 isMark)]
    exact exponentParts?_of_exponent isExponent

/-- What can be taken apart behind a mantissa is an exponent or nothing. -/
theorem exponent_of_scaleParts? (base : Nat) {scale kept : List Char} {negative : Bool}
    (found : scaleParts? scale = some (negative, kept)) :
    ∃ present digits, Exponent (.bare base) ['e', 'E'] present scale negative digits ∧
      List.Forall₂ (WritesDigit 10) kept digits := by
  cases scale with
  | nil =>
      cases found
      exact ⟨false, [], .absent, .nil⟩
  | cons mark rest =>
      rw [scaleParts?] at found
      split_ifs at found with isMark
      exact ⟨true, exponent_of_exponentParts? base (isExponentMark_decimal_iff.1 isMark) found⟩

/-- A point and the digits behind it, and what follows them. -/
def fractionAndScale : List Char → List Char × List Char
  | '.' :: rest => (rest.takeWhile isAsciiDigit, rest.dropWhile isAsciiDigit)
  | rest => ([], rest)

/-- The parts of a decimal literal, one after the other. -/
theorem decimalParts?_eq (text : List Char) :
    decimalParts? text =
      if (text.takeWhile isAsciiDigit).isEmpty &&
          (fractionAndScale (text.dropWhile isAsciiDigit)).1.isEmpty then none
      else (scaleParts? (fractionAndScale (text.dropWhile isAsciiDigit)).2).map
        fun (negative, exponent) => ⟨text.takeWhile isAsciiDigit,
          (fractionAndScale (text.dropWhile isAsciiDigit)).1, negative, exponent⟩ := by
  have factored : ∀ whole fraction scale : List Char,
      (match scale with
      | [] => some ⟨whole, fraction, false, []⟩
      | mark :: rest =>
        if Radix.decimal.isExponentMark mark then
          (exponentParts? rest).map fun (negative, exponent) =>
            ⟨whole, fraction, negative, exponent⟩
        else none) = (scaleParts? scale).map fun (negative, exponent) =>
          (⟨whole, fraction, negative, exponent⟩ : DecimalParts) := by
    intro whole fraction scale
    cases scale with
    | nil => rfl
    | cons mark rest =>
        simp only [scaleParts?]
        split_ifs <;> rfl
  simp only [← factored]
  rfl

theorem fractionAndScale_cases (text : List Char) :
    (∃ rest, text = '.' :: rest ∧
        fractionAndScale text = (rest.takeWhile isAsciiDigit, rest.dropWhile isAsciiDigit)) ∨
      fractionAndScale text = ([], text) := by
  unfold fractionAndScale
  split
  next rest => exact .inl ⟨rest, rfl, rfl⟩
  next => exact .inr rfl

theorem fractionAndScale_of_ne {text : List Char} (noPoint : ∀ c ∈ text.head?, c ≠ '.') :
    fractionAndScale text = ([], text) := by
  unfold fractionAndScale
  split
  next => exact absurd rfl (noPoint '.' rfl)
  next => rfl

/-- A decimal literal is taken apart into its digits. -/
theorem decimalParts?_of_scaled {point present : Bool} {text : List Char} {digits : FloatDigits}
    (scaled : Scaled (.bare 10) ['e', 'E'] point present text digits) :
    ∃ parts, decimalParts? text = some parts ∧ parts.Spells 10 digits := by
  cases scaled with
  | @mk negative mantissa scale whole fraction exponent isMantissa isExponent =>
    obtain ⟨exponentText, found, writtenExponent⟩ := scaleParts?_of_exponent isExponent
    have stops : ∀ c ∈ scale.head?, isAsciiDigit c = false ∧ c ≠ '.' := by
      have marks : ∀ c ∈ ['e', 'E'], isAsciiDigit c = false ∧ c ≠ '.' := by decide
      rcases isExponent.head with rfl | ⟨mark, isMark, rest, rfl⟩
      · simp
      · simpa using marks mark isMark
    rw [decimalParts?_eq]
    cases isMantissa with
    | plain written nonempty =>
        obtain ⟨taken, left⟩ := takeWhile_append_of_stops scale
          (forall_isAsciiDigit_of_written written) fun c member => (stops c member).1
        have hasDigit : mantissa.isEmpty = false := by
          simpa using (ne_nil_iff_of_written written).2 nonempty
        rw [taken, left, fractionAndScale_of_ne fun c member => (stops c member).2, hasDigit, found]
        exact ⟨_, rfl, written, .nil, rfl, writtenExponent⟩
    | @pointed before behind _ _ written writtenBehind nonempty =>
        have reorder : before ++ '.' :: behind ++ scale = before ++ '.' :: (behind ++ scale) := by
          simp
        obtain ⟨taken, left⟩ := takeWhile_append_of_stops ('.' :: (behind ++ scale))
          (forall_isAsciiDigit_of_written written) (by simp; decide)
        obtain ⟨takenBehind, leftBehind⟩ := takeWhile_append_of_stops scale
          (forall_isAsciiDigit_of_written writtenBehind) fun c member => (stops c member).1
        rw [reorder, taken, left, fractionAndScale, takenBehind, leftBehind,
          (isEmpty_and_eq_false_iff written writtenBehind).2 nonempty, found]
        exact ⟨_, rfl, written, writtenBehind, rfl, writtenExponent⟩

/-- What is taken apart is a decimal literal. -/
theorem scaled_of_decimalParts? {text : List Char} {parts : DecimalParts}
    (found : decimalParts? text = some parts) :
    ∃ point present digits, Scaled (.bare 10) ['e', 'E'] point present text digits ∧
      parts.Spells 10 digits := by
  have writes : ∀ part : List Char,
      ∃ digits, List.Forall₂ (WritesDigit 10) (part.takeWhile isAsciiDigit) digits := by
    intro part
    refine exists_written (by decide) fun c member => ?_
    exact isDigitIn_of_isAsciiDigit (Nat.le_refl 10) (List.mem_takeWhile_imp member)
  have cut := List.takeWhile_append_dropWhile (p := isAsciiDigit) (l := text)
  obtain ⟨whole, written⟩ := writes text
  rw [decimalParts?_eq] at found
  split_ifs at found with noDigit
  obtain ⟨⟨negative, exponentText⟩, isScale, rfl⟩ := Option.map_eq_some_iff.1 found
  obtain ⟨present, exponent, isExponent, writtenExponent⟩ :=
    exponent_of_scaleParts? 10 isScale
  rcases fractionAndScale_cases (text.dropWhile isAsciiDigit) with ⟨rest, behind, parts⟩ | parts
  · obtain ⟨fraction, writtenBehind⟩ := writes rest
    have cutBehind := List.takeWhile_append_dropWhile (p := isAsciiDigit) (l := rest)
    rw [parts, Bool.not_eq_true] at noDigit
    have nonempty := (isEmpty_and_eq_false_iff written writtenBehind).1 noDigit
    rw [parts] at isExponent
    refine ⟨true, present, ⟨whole, fraction, negative, exponent⟩, ?_, written, ?_, rfl,
      writtenExponent⟩
    · rw [← cut, behind, ← cutBehind, ← List.cons_append, ← List.append_assoc]
      exact .mk (.pointed written writtenBehind nonempty) isExponent
    · show List.Forall₂ _ (fractionAndScale _).1 _
      rw [parts]
      exact writtenBehind
  · have nonempty : whole ≠ [] := by
      rw [parts] at noDigit
      rw [← ne_nil_iff_of_written written]
      simpa using noDigit
    rw [parts] at isExponent
    refine ⟨false, present, ⟨whole, [], negative, exponent⟩, ?_, written, ?_, rfl,
      writtenExponent⟩
    · rw [← cut]
      exact .mk (.plain written nonempty) isExponent
    · show List.Forall₂ _ (fractionAndScale _).1 _
      rw [parts]
      exact .nil

/-! ## The parts of bare literals in base sixteen -/

theorem isDigitIn_of_written {base : Nat} (small : base ≤ 16) {kept : List Char}
    {digits : List Nat} (written : List.Forall₂ (WritesDigit base) kept digits) :
    ∀ c ∈ kept, isDigitIn 16 c = true := by
  intro c member
  exact isDigitIn_mono small (((forall₂_writes_iff small).1 written).1 c member)

theorem ne_point_of_isDigitIn {c : Char} (isDigit : isDigitIn 16 c = true) : (c != '.') = true := by
  rw [bne_iff_ne]
  rintro rfl
  contradiction

/-- A bare mantissa is cut at its point. -/
theorem written_of_mantissa {point : Bool} {text : List Char} {whole fraction : List Nat}
    (isMantissa : Mantissa (.bare 16) point text whole fraction) :
    List.Forall₂ (WritesDigit 16) (text.takeWhile (· != '.')) whole ∧
      List.Forall₂ (WritesDigit 16) ((text.dropWhile (· != '.')).drop 1) fraction ∧
      (whole ≠ [] ∨ fraction ≠ []) := by
  cases isMantissa with
  | plain written nonempty =>
      have all := fun c member =>
        ne_point_of_isDigitIn (isDigitIn_of_written (Nat.le_refl 16) written c member)
      rw [List.takeWhile_eq_self_iff.2 all, List.dropWhile_eq_nil_iff.2 all]
      exact ⟨written, .nil, .inl nonempty⟩
  | pointed written writtenBehind nonempty =>
      have all := fun c member =>
        ne_point_of_isDigitIn (isDigitIn_of_written (Nat.le_refl 16) written c member)
      obtain ⟨taken, left⟩ := takeWhile_append_of_stops ('.' :: _) all (by simp)
      rw [taken, left]
      exact ⟨written, writtenBehind, nonempty⟩

/-- Digits before and behind the first point are a mantissa, if there are any. -/
theorem mantissa_of_written {text : List Char} {whole fraction : List Nat}
    (written : List.Forall₂ (WritesDigit 16) (text.takeWhile (· != '.')) whole)
    (writtenBehind : List.Forall₂ (WritesDigit 16) ((text.dropWhile (· != '.')).drop 1) fraction)
    (nonempty : whole ≠ [] ∨ fraction ≠ []) :
    ∃ point, Mantissa (.bare 16) point text whole fraction := by
  have cut := List.takeWhile_append_dropWhile (p := (· != '.')) (l := text)
  cases behind : text.dropWhile (· != '.') with
  | nil =>
      rw [behind] at writtenBehind cut
      cases writtenBehind
      rw [List.append_nil] at cut
      rw [cut] at written
      exact ⟨false, .plain written (by simpa using nonempty)⟩
  | cons c rest =>
      have isPoint : c = '.' := by
        have stops := List.head_dropWhile_not (· != '.') (l := text) (by simp [behind])
        simpa [behind] using stops
      rw [behind, isPoint] at cut
      rw [behind] at writtenBehind
      rw [← cut]
      exact ⟨true, .pointed written writtenBehind nonempty⟩

/-- No mantissa in base sixteen holds the mark of an exponent. -/
theorem isExponentMark_of_mantissa {point : Bool} {text : List Char} {whole fraction : List Nat}
    (isMantissa : Mantissa (.bare 16) point text whole fraction) :
    ∀ c ∈ text, (!Radix.hexadecimal.isExponentMark c) = true := by
  have digits : ∀ {kept digits}, List.Forall₂ (WritesDigit 16) kept digits →
      ∀ c ∈ kept, (!Radix.hexadecimal.isExponentMark c) = true := by
    intro kept digits written c member
    have isDigit : isDigitIn Radix.hexadecimal.base c = true :=
      isDigitIn_of_written (Nat.le_refl 16) written c member
    rw [isExponentMark_of_isDigitIn isDigit]
    rfl
  cases isMantissa with
  | plain written _ => exact digits written
  | pointed written writtenBehind _ =>
      refine List.forall_mem_append.2 ⟨digits written, List.forall_mem_cons.2 ⟨by decide, ?_⟩⟩
      exact digits writtenBehind

/-- A literal in base sixteen is taken apart into its digits. -/
theorem hexadecimalParts?_of_scaled {point : Bool} {text : List Char} {digits : FloatDigits}
    (scaled : Scaled (.bare 16) ['p', 'P'] point true text digits) :
    ∃ parts, hexadecimalParts? text = some parts ∧ parts.Spells 16 digits := by
  cases scaled with
  | @mk negative mantissa scale whole fraction exponent isMantissa isExponent =>
    rcases isExponent.head with rfl | ⟨mark, isMark, rest, rfl⟩
    · cases isExponent
    · obtain ⟨exponentText, found, writtenExponent⟩ := exponentParts?_of_exponent isExponent
      obtain ⟨written, writtenBehind, nonempty⟩ := written_of_mantissa isMantissa
      have stops := isExponentMark_hexadecimal_iff.2 isMark
      obtain ⟨taken, left⟩ := takeWhile_append_of_stops (mark :: rest)
        (isExponentMark_of_mantissa isMantissa) (by simpa using stops)
      have hasDigit := (isEmpty_and_eq_false_iff written writtenBehind).2 nonempty
      have all : (mantissa.takeWhile (· != '.') ++ (mantissa.dropWhile (· != '.')).drop 1).all
          (isDigitIn 16) = true := by
        rw [List.all_eq_true]
        exact List.forall_mem_append.2 ⟨isDigitIn_of_written (Nat.le_refl 16) written,
          isDigitIn_of_written (Nat.le_refl 16) writtenBehind⟩
      simp only [hexadecimalParts?, taken, left, hasDigit, all, found]
      exact ⟨_, rfl, written, writtenBehind, rfl, writtenExponent⟩

/-- What is taken apart behind the mark of base sixteen is a literal in it. -/
theorem scaled_of_hexadecimalParts? {text : List Char} {parts : DecimalParts}
    (found : hexadecimalParts? text = some parts) :
    ∃ point digits, Scaled (.bare 16) ['p', 'P'] point true text digits ∧
      parts.Spells 16 digits := by
  have cut := List.takeWhile_append_dropWhile (p := (!Radix.hexadecimal.isExponentMark ·))
    (l := text)
  unfold hexadecimalParts? at found
  simp only at found
  split_ifs at found with refused
  rw [Bool.or_eq_true, not_or, Bool.not_eq_true', Bool.not_eq_false] at refused
  obtain ⟨hasDigit, all⟩ := refused
  split at found
  next => contradiction
  next mark rest behind =>
    have isMark : mark ∈ ['p', 'P'] := by
      have stops := List.head_dropWhile_not (!Radix.hexadecimal.isExponentMark ·) (l := text)
        (by simp [behind])
      exact isExponentMark_hexadecimal_iff.1 (by simpa [behind] using stops)
    obtain ⟨⟨negative, exponentText⟩, isExponent, rfl⟩ := Option.map_eq_some_iff.1 found
    obtain ⟨exponent, isExponent, writtenExponent⟩ :=
      exponent_of_exponentParts? 16 isMark isExponent
    obtain ⟨allWhole, allFraction⟩ := List.forall_mem_append.1 (List.all_eq_true.1 all)
    obtain ⟨whole, written⟩ := exists_written (Nat.le_refl 16) allWhole
    obtain ⟨fraction, writtenBehind⟩ := exists_written (Nat.le_refl 16) allFraction
    have nonempty := (isEmpty_and_eq_false_iff written writtenBehind).1 (by simpa using hasDigit)
    obtain ⟨point, isMantissa⟩ := mantissa_of_written written writtenBehind nonempty
    refine ⟨point, ⟨whole, fraction, negative, exponent⟩, ?_, written, writtenBehind, rfl,
      writtenExponent⟩
    rw [← cut, behind]
    exact .mk isMantissa isExponent

/-! ## Doubles -/

namespace FloatDigits

def decimalDouble (digits : FloatDigits) : Binary64 :=
  let exponent : Int := ofDigits 10 digits.exponent
  nearestDouble (ofDigits 10 (digits.whole ++ digits.fraction))
    ((if digits.exponentNegative then -exponent else exponent) - digits.fraction.length)

/-- The leading bits of the mantissa are rounded first and scaled then. -/
def hexadecimalDouble (digits : FloatDigits) : Binary64 :=
  let mantissa := HexMantissa.ofDigits digits.whole digits.fraction
  if mantissa.bits = 0 then .zero false
  else
    let rounded : Binary64 := .ofInt mantissa.bits
    rounded.scale (mantissa.totalScale digits.exponentNegative (ofDigits 10 digits.exponent))

/-- The double that the digits denote in a base. -/
def toDouble (digits : FloatDigits) : Radix → Binary64
  | .hexadecimal => digits.hexadecimalDouble
  | _ => digits.decimalDouble

end FloatDigits

theorem code_ofRatio_le (negative : Bool) (numerator denominator : Nat) :
    (Binary.ofRatio negative numerator denominator : Binary64).code ≤
      Format.double.infinityCode := by
  show Binary.nearestCode .double numerator denominator ≤ _
  unfold Binary.nearestCode
  split
  · exact Nat.zero_le _
  · exact Nat.min_le_left _ _

theorem code_nearestDouble_le (digits : Nat) (exponent : Int) :
    (nearestDouble digits exponent).code ≤ Format.double.infinityCode := by
  unfold nearestDouble
  dsimp only
  split_ifs
  · exact Nat.zero_le _
  · exact Nat.le_refl _
  · exact code_ofRatio_le _ _ _

/-- Digits denote a number or infinity. -/
theorem code_toDouble_le (digits : FloatDigits) (radix : Radix) :
    (digits.toDouble radix).code ≤ Format.double.infinityCode := by
  cases radix with
  | hexadecimal =>
      show digits.hexadecimalDouble.code ≤ _
      unfold FloatDigits.hexadecimalDouble
      dsimp only
      split_ifs
      · exact Nat.zero_le _
      · exact code_ofRatio_le _ _ _
  | binary | octal | decimal => exact code_nearestDouble_le _ _

/-- What is not infinite is finite, since no literal denotes anything else. -/
theorem isFinite_iff_of_code_le {x : Binary64} (le : x.code ≤ Format.double.infinityCode) :
    x.isFinite = true ↔ x.isInfinite = false := by
  simp only [Binary.isFinite, Binary.isInfinite, decide_eq_true_eq, beq_eq_false_iff_ne]
  omega

theorem DecimalParts.Spells.toDouble {parts : DecimalParts} {digits : FloatDigits}
    (spells : parts.Spells 10 digits) : parts.toDouble = digits.toDouble .decimal := by
  obtain ⟨written, writtenBehind, negative, writtenExponent⟩ := spells
  have values : ∀ {kept digits}, List.Forall₂ (WritesDigit 10) kept digits →
      digitValues 10 kept = digits :=
    fun written => ((forall₂_writes_iff (by decide)).1 written).2
  show parts.toDouble = digits.decimalDouble
  rw [DecimalParts.toDouble, FloatDigits.decimalDouble, negative, values writtenExponent,
    values (List.rel_append written writtenBehind), writtenBehind.length_eq]

theorem DecimalParts.Spells.toDoubleHex {parts : DecimalParts} {digits : FloatDigits}
    (spells : parts.Spells 16 digits) : parts.toDoubleHex = digits.toDouble .hexadecimal := by
  obtain ⟨written, writtenBehind, negative, writtenExponent⟩ := spells
  show parts.toDoubleHex = digits.hexadecimalDouble
  rw [DecimalParts.toDoubleHex, FloatDigits.hexadecimalDouble, negative,
    ((forall₂_writes_iff (Nat.le_refl 16)).1 written).2,
    ((forall₂_writes_iff (Nat.le_refl 16)).1 writtenBehind).2,
    ((forall₂_writes_iff (by decide)).1 writtenExponent).2]

/-! ## The reading of a text -/

theorem noLetter_of_decimalParts? {text : List Char} {parts : DecimalParts}
    (found : decimalParts? text = some parts) :
    ∀ letter rest, text = '0' :: letter :: rest → Radix.ofLetter? letter = none := by
  rintro letter rest rfl
  have scaled := isScaled_of_decimalParts? (by rw [found]; rfl)
  exact (scaled.tail (by decide)).ofLetter?_head separated_nil letter rfl

theorem noLetter_of_filter {body : List Char}
    (noLetter : ∀ letter rest, body.filter (· != '_') = '0' :: letter :: rest →
      Radix.ofLetter? letter = none) :
    ∀ letter rest, body = '0' :: letter :: rest → Radix.ofLetter? letter = none := by
  rintro letter rest rfl
  by_cases isUnderscore : letter = '_'
  · rw [isUnderscore]
    rfl
  · apply noLetter letter (rest.filter (· != '_'))
    rw [filter_cons_of_ne (by decide), filter_cons_of_ne isUnderscore]

theorem readMagnitude?_of_decimal {bare : List Char}
    (noLetter : ∀ letter rest, bare = '0' :: letter :: rest →
      Radix.ofLetter? letter ≠ some .hexadecimal) :
    readMagnitude? bare = (decimalParts? bare).map DecimalParts.toDouble := by
  unfold readMagnitude?
  split
  next letter rest => rw [if_neg (by simpa using noLetter letter rest rfl)]
  next => rfl

theorem readMagnitude?_of_hexadecimal {letter : Char} {rest : List Char}
    (selects : Radix.ofLetter? letter = some .hexadecimal) :
    readMagnitude? ('0' :: letter :: rest) =
      (hexadecimalParts? rest).map DecimalParts.toDoubleHex := by
  rw [readMagnitude?, selects, if_pos (by decide)]

theorem scaled_decimal_iff {point present : Bool} {text : List Char} {digits : FloatDigits} :
    Scaled .decimal ['e', 'E'] point present text digits ↔
      groupedFrom isAsciiDigit .other text = true ∧
        Scaled (.bare 10) ['e', 'E'] point present (text.filter (· != '_')) digits :=
  scaled_iff Runs.groups_decimal (by decide) (by decide)

theorem scaled_hexadecimal_iff {point present : Bool} {text : List Char} {digits : FloatDigits} :
    Scaled .hexadecimal ['p', 'P'] point present text digits ↔
      groupedFrom (isDigitIn 16) .digit text = true ∧
        Scaled (.bare 16) ['p', 'P'] point present (text.filter (· != '_')) digits :=
  scaled_iff Runs.groups_hexadecimal (by decide) (by decide)

/-- A numeral is well grouped, and read as the double of its digits. -/
theorem readMagnitude?_of_floatBody {text body : List Char} {radix : Radix} {fractional : Bool}
    {digits : FloatDigits} (isBody : (signAndBody text).2 = body)
    (spelled : FloatBody radix fractional body digits) :
    isGrouped text = true ∧
      readMagnitude? (body.filter (· != '_')) = some (digits.toDouble radix) := by
  cases spelled with
  | decimal scaled =>
      obtain ⟨grouped, bare⟩ := scaled_decimal_iff.1 scaled
      obtain ⟨parts, found, spells⟩ := decimalParts?_of_scaled bare
      have noLetter := noLetter_of_decimalParts? found
      constructor
      · rw [isGrouped_of_noLetter (isBody ▸ noLetter_of_filter noLetter), isBody]
        exact grouped
      · have notHexadecimal : ∀ letter rest, body.filter (· != '_') = '0' :: letter :: rest →
            Radix.ofLetter? letter ≠ some .hexadecimal := by
          intro letter rest whole
          simp [noLetter letter rest whole]
        rw [readMagnitude?_of_decimal notHexadecimal, found, Option.map_some, spells.toDouble]
  | @hexadecimal point letter rest _ isLetter scaled =>
      obtain ⟨grouped, bare⟩ := scaled_hexadecimal_iff.1 scaled
      obtain ⟨parts, found, spells⟩ := hexadecimalParts?_of_scaled bare
      have notUnderscore : letter ≠ '_' := by
        rintro rfl
        contradiction
      constructor
      · rw [isGrouped_of_letter isBody isLetter]
        exact grouped
      · rw [filter_cons_of_ne (by decide), filter_cons_of_ne notUnderscore,
          readMagnitude?_of_hexadecimal (ofLetter?_eq_some_iff.2 isLetter), found,
          Option.map_some, spells.toDoubleHex]

/-- What the reader finds without the underscores was spelled with them. -/
theorem exists_floatBody {text : List Char} (grouped : isGrouped text = true)
    {magnitude : Binary64}
    (found : readMagnitude? ((signAndBody text).2.filter (· != '_')) = some magnitude) :
    ∃ radix fractional digits, FloatBody radix fractional (signAndBody text).2 digits ∧
      digits.toDouble radix = magnitude := by
  by_cases isHexadecimal : ∃ letter rest,
      (signAndBody text).2.filter (· != '_') = '0' :: letter :: rest ∧
        Radix.ofLetter? letter = some .hexadecimal
  · obtain ⟨letter, rest, filtered, selects⟩ := isHexadecimal
    obtain ⟨behind, body, rfl⟩ := body_of_filter_letter (fun _ => grouped) filtered selects
    rw [filtered, readMagnitude?_of_hexadecimal selects] at found
    obtain ⟨parts, isParts, rfl⟩ := Option.map_eq_some_iff.1 found
    obtain ⟨point, digits, bare, spells⟩ := scaled_of_hexadecimalParts? isParts
    have isLetter := ofLetter?_eq_some_iff.1 selects
    rw [isGrouped_of_letter body isLetter] at grouped
    rw [body, spells.toDoubleHex]
    exact ⟨_, _, digits, .hexadecimal isLetter (scaled_hexadecimal_iff.2 ⟨grouped, bare⟩), rfl⟩
  · have noLetter : ∀ letter rest, (signAndBody text).2.filter (· != '_') = '0' :: letter :: rest →
        Radix.ofLetter? letter ≠ some .hexadecimal :=
      fun letter rest whole selects => isHexadecimal ⟨letter, rest, whole, selects⟩
    rw [readMagnitude?_of_decimal noLetter] at found
    obtain ⟨parts, isParts, rfl⟩ := Option.map_eq_some_iff.1 found
    obtain ⟨point, present, digits, bare, spells⟩ := scaled_of_decimalParts? isParts
    rw [isGrouped_of_noLetter (noLetter_of_filter (noLetter_of_decimalParts? isParts))] at grouped
    rw [spells.toDouble]
    exact ⟨_, _, digits, .decimal (scaled_decimal_iff.2 ⟨grouped, bare⟩), rfl⟩

/-- Whether a text is read as a double depends on its spelling and on the double alone. -/
theorem readFloat?_eq_some_iff {text : List Char} {x : Binary64} :
    readFloat? text = some x ↔
      ∃ radix fractional digits, FloatBody radix fractional (signAndBody text).2 digits ∧
        (digits.toDouble radix).isFinite = true ∧
        x = if (signAndBody text).1 then (digits.toDouble radix).neg
          else digits.toDouble radix := by
  have grouping : ((signAndBody text).2.contains '_' && !isGrouped text) = !isGrouped text := by
    by_cases noUnderscore : '_' ∈ (signAndBody text).2
    · simp [noUnderscore]
    · simp [isGrouped_of_not_mem noUnderscore]
  unfold readFloat?
  simp only [grouping]
  constructor
  · intro read
    cases grouped : isGrouped text with
    | false => simp [grouped] at read
    | true =>
        rw [grouped, if_neg (by decide)] at read
        split at read
        next => contradiction
        next magnitude found =>
          obtain ⟨radix, fractional, digits, spelled, rfl⟩ := exists_floatBody grouped found
          split at read
          next isFinite =>
            exact ⟨radix, fractional, digits, spelled, isFinite, by simpa using read.symm⟩
          next => contradiction
  · rintro ⟨radix, fractional, digits, spelled, isFinite, rfl⟩
    obtain ⟨grouped, found⟩ := readMagnitude?_of_floatBody rfl spelled
    simp [grouped, found, isFinite]

/-! ## Points and exponents -/

theorem looksFractional_append (left right : List Char) :
    Readings.looksFractional (left ++ right) =
      (Readings.looksFractional left || Readings.looksFractional right) := by
  rw [Readings.looksFractional, List.any_append]
  rfl

theorem looksFractional_of_isDigitOrUnderscore {text : List Char}
    (all : ∀ c ∈ text, Radix.decimal.isDigitOrUnderscore c = true) :
    Readings.looksFractional text = false := by
  rw [Readings.looksFractional, List.any_eq_false]
  intro c member isMark
  have known : ∀ c ∈ ['.', 'e', 'E', 'p', 'P'], Radix.decimal.isDigitOrUnderscore c = false := by
    decide
  have notDigit := known c (by simpa [or_assoc] using isMark)
  rw [all c member] at notDigit
  contradiction

theorem looksFractional_of_mem {text : List Char} {c : Char} (member : c ∈ text)
    (isMark : c ∈ ['.', 'e', 'E', 'p', 'P']) : Readings.looksFractional text = true := by
  rw [Readings.looksFractional, List.any_eq_true]
  exact ⟨c, member, by simpa [or_assoc] using isMark⟩

theorem Mantissa.looksFractional {point : Bool} {text : List Char} {whole fraction : List Nat}
    (isMantissa : Mantissa .decimal point text whole fraction) :
    Readings.looksFractional text = point := by
  cases isMantissa with
  | plain isWhole _ =>
      exact looksFractional_of_isDigitOrUnderscore (Digits.isDigitOrUnderscore .decimal isWhole)
  | pointed _ _ _ => exact looksFractional_of_mem (c := '.') (by simp) (by decide)

theorem Exponent.looksFractional {runs : Runs} {marks : List Char}
    (isSubset : ∀ mark ∈ marks, mark ∈ ['.', 'e', 'E', 'p', 'P']) {present negative : Bool}
    {text : List Char} {digits : List Nat}
    (isExponent : Exponent runs marks present text negative digits) :
    Readings.looksFractional text = present := by
  cases isExponent with
  | absent => rfl
  | unsigned isMark _ _ | signed isMark _ _ _ =>
      exact looksFractional_of_mem List.mem_cons_self (isSubset _ isMark)

/-- A numeral looks fractional when it has a point or an exponent. -/
theorem FloatBody.looksFractional {radix : Radix} {fractional : Bool} {body : List Char}
    {digits : FloatDigits} (spelled : FloatBody radix fractional body digits) :
    Readings.looksFractional body = fractional := by
  cases spelled with
  | decimal scaled =>
      obtain ⟨isMantissa, isExponent⟩ := scaled
      rw [looksFractional_append, isMantissa.looksFractional,
        isExponent.looksFractional (by decide)]
  | @hexadecimal _ letter _ _ _ scaled =>
      obtain ⟨isMantissa, isExponent⟩ := scaled
      rw [← List.cons_append, ← List.cons_append, looksFractional_append,
        isExponent.looksFractional (by decide), Bool.or_true]

theorem looksFractional_signAndBody (text : List Char) :
    Readings.looksFractional (signAndBody text).2 = Readings.looksFractional text := by
  rcases signed : signAndBody text with ⟨negative, body⟩
  rcases signAndBody_cases signed with ⟨sign, isSign, rfl, -⟩ | ⟨rfl, -, -⟩
  · have notMark : ∀ sign ∈ ['+', '-'], Readings.looksFractional [sign] = false := by decide
    show _ = Readings.looksFractional ([sign] ++ body)
    rw [looksFractional_append, notMark sign isSign, Bool.false_or]
  · rfl

theorem Digits.notSign {text : List Char} {digits : List Nat} (isDigits : Digits 10 text digits) :
    ∀ c ∈ text.head?, isSign c = false := by
  intro c member
  apply isSign_of_isDigitOrUnderscore
  exact Digits.isDigitOrUnderscore .decimal isDigits c (List.mem_of_mem_head? member)

/-- The body of a numeral does not start with a sign. -/
theorem FloatBody.notSign {radix : Radix} {fractional : Bool} {body : List Char}
    {digits : FloatDigits} (spelled : FloatBody radix fractional body digits) :
    ∀ c ∈ body.head?, isSign c = false := by
  cases spelled with
  | hexadecimal => simp; decide
  | decimal scaled =>
      obtain ⟨isMantissa, -⟩ := scaled
      cases isMantissa with
      | plain isWhole nonempty =>
          cases isWhole with
          | absent => contradiction
          | present writes more => exact (Digits.present writes more).notSign
      | pointed isWhole isFraction nonempty =>
          cases isWhole with
          | absent => simp; decide
          | present writes more => exact (Digits.present writes more).notSign

/-- An integer literal has neither a point nor an exponent. -/
theorem UnsignedLiteral.fractional_eq_false {radix : Radix} {fractional : Bool}
    {body : List Char} {value : Nat} {digits : FloatDigits} (literal : UnsignedLiteral body value)
    (spelled : FloatBody radix fractional body digits) : fractional = false := by
  cases literal with
  | decimal writes _ more =>
      rw [← spelled.looksFractional]
      apply looksFractional_of_isDigitOrUnderscore
      exact MoreDigits.isDigitOrUnderscore .decimal (.digit writes more)
  | octal more =>
      rw [← spelled.looksFractional]
      apply looksFractional_of_isDigitOrUnderscore
      refine List.forall_mem_cons.2 ⟨by decide, ?_⟩
      exact MoreDigits.isDigitOrUnderscore .decimal (more.mono (by decide))
  | @based letter selected text _ selects more _ =>
      have selects := ofLetter?_eq_some_iff.2 selects
      cases spelled with
      | decimal scaled =>
          obtain ⟨parts, found, -⟩ := decimalParts?_of_scaled (scaled_decimal_iff.1 scaled).2
          have noLetter := noLetter_of_filter (noLetter_of_decimalParts? found) letter text rfl
          rw [noLetter] at selects
          contradiction
      | hexadecimal isLetter scaled =>
          -- the mark of the exponent is no digit of any base
          have all := (more.mono (base_le selected)).isDigitOrUnderscore .hexadecimal
          obtain ⟨-, isExponent⟩ := scaled
          rcases isExponent.head with rfl | ⟨mark, isMark, rest, rfl⟩
          · cases isExponent
          · have isDigit := all mark (List.mem_append_right _ List.mem_cons_self)
            rw [(not_isDigit_of_isExponentMark (isExponentMark_hexadecimal_iff.2 isMark)).1]
              at isDigit
            contradiction

end RecordTags.Number
