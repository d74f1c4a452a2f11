import RecordTags.Proofs.Number.Consistency
import RecordTags.Proofs.Number.Hexadecimal

/-!
Contract: how far integer readings are from what a literal denotes.

Owns:
- `FloatLiteral`, literals with a point or an exponent and the exact numbers
  that they denote;
- that a decimal literal is read as a double nearest to its number, and one in
  base sixteen as a neighbour of it;
- what follows for the integer readings: integer literals keep their value, and
  any other literal is the integer that its double is.

Does not own: literals in base sixteen beyond the limit of exponents.

## Where integers come from

An integer reading of a literal with a point or an exponent is read off its
double, not off its digits. Digits that a double has no room for are therefore
lost before the double is found to be a whole number, and
`1.00000000000000000001` is the integer one. Only a literal whose number is
that of a double is sure to keep it.
-/

namespace RecordTags

open RecordTags.Number RecordTags.Text

namespace Number

/-! ## What literals denote -/

namespace FloatDigits

/-- The exponent as it is written. -/
def power (digits : FloatDigits) : Int :=
  withSign digits.exponentNegative (ofDigits 10 digits.exponent)

/-- The exact number that digits denote: the mantissa with its point, times a power of ten, or of
two in base sixteen. -/
def value (digits : FloatDigits) : Radix → ℚ
  | .hexadecimal =>
    ofDigits 16 (digits.whole ++ digits.fraction) / 16 ^ digits.fraction.length * 2 ^ digits.power
  | _ =>
    ofDigits 10 (digits.whole ++ digits.fraction) / 10 ^ digits.fraction.length * 10 ^ digits.power

theorem value_nonneg (digits : FloatDigits) (radix : Radix) : 0 ≤ digits.value radix := by
  cases radix <;> simp only [value] <;> positivity

/-- In base sixteen the exponent is within its limit, or the digits are too few to make up for an
exponent that is not. -/
def WithinLimit (digits : FloatDigits) (radix : Radix) : Prop :=
  radix = .hexadecimal → ofDigits 10 digits.exponent ≤ 10000 ∨
    digits.whole.length + digits.fraction.length ≤ 2000

end FloatDigits

/-- A literal with a point or an exponent: its base, its digits and the exact number. -/
inductive FloatLiteral (radix : Radix) : List Char → FloatDigits → ℚ → Prop where
  | unsigned {body : List Char} {digits : FloatDigits}
      (spelled : FloatBody radix true body digits) :
      FloatLiteral radix body digits (digits.value radix)
  | plus {body : List Char} {digits : FloatDigits}
      (spelled : FloatBody radix true body digits) :
      FloatLiteral radix ('+' :: body) digits (digits.value radix)
  | minus {body : List Char} {digits : FloatDigits}
      (spelled : FloatBody radix true body digits) :
      FloatLiteral radix ('-' :: body) digits (-digits.value radix)

/-- A literal without its sign, and what the sign does to the number. -/
theorem FloatLiteral.spelled {radix : Radix} {text : List Char} {digits : FloatDigits} {number : ℚ}
    (literal : FloatLiteral radix text digits number) :
    FloatBody radix true (signAndBody text).2 digits ∧
      number = if (signAndBody text).1 then -digits.value radix else digits.value radix := by
  cases literal with
  | unsigned spelled =>
      have signed : signAndBody text = (false, text) := by
        cases text with
        | nil => rfl
        | cons c rest => exact signAndBody_of_not_isSign (spelled.notSign c rfl) rest
      rw [signed]
      exact ⟨spelled, rfl⟩
  | plus spelled =>
      rw [signAndBody_of_isSign (by decide)]
      exact ⟨spelled, rfl⟩
  | minus spelled =>
      rw [signAndBody_of_isSign (by decide)]
      exact ⟨spelled, rfl⟩

theorem exists_floatLiteral {text : List Char} {radix : Radix} {digits : FloatDigits}
    (spelled : FloatBody radix true (signAndBody text).2 digits) :
    ∃ number, FloatLiteral radix text digits number := by
  rcases signed : signAndBody text with ⟨negative, body⟩
  rw [signed] at spelled
  rcases signAndBody_cases signed with ⟨sign, isSign, rfl, -⟩ | ⟨rfl, -, -⟩
  · rcases List.mem_pair.1 isSign with rfl | rfl
    · exact ⟨_, .plus spelled⟩
    · exact ⟨_, .minus spelled⟩
  · exact ⟨_, .unsigned spelled⟩

/-! ## Decimal literals -/

theorem ten_pow_le_two_pow : (10 : ℚ) ^ (-401 : Int) ≤ 2 ^ (-1075 : Int) := by
  rw [zpow_neg, zpow_neg]
  apply inv_anti₀ (by positivity)
  calc (2 : ℚ) ^ (1075 : Int) ≤ 2 ^ (3 * 401 : Int) := zpow_le_zpow_right₀ one_le_two (by decide)
    _ = (2 ^ (3 : Int)) ^ (401 : Int) := zpow_mul _ _ _
    _ ≤ 10 ^ (401 : Int) := zpow_le_zpow_left₀ (by decide) (by norm_num) (by norm_num)

/-- A number whose first digit is beyond four hundred places is next to nothing. -/
theorem mul_ten_pow_le {digits : Nat} {exponent : Int}
    (low : exponent + (Nat.toDigits 10 digits).length < -400) :
    2 * (digits * 10 ^ exponent : ℚ) ≤ 2 ^ Format.double.minExponent := by
  have below : digits < 10 ^ (Nat.toDigits 10 digits).length :=
    (Nat.length_toDigits_le_iff (by decide) Nat.length_toDigits_pos).1 le_rfl
  have bound : (digits * 10 ^ exponent : ℚ) ≤ 2 ^ (-1075 : Int) := by
    calc (digits * 10 ^ exponent : ℚ)
        ≤ 10 ^ ((Nat.toDigits 10 digits).length : Int) * 10 ^ exponent := by
          gcongr
          exact_mod_cast below.le
      _ = 10 ^ (exponent + (Nat.toDigits 10 digits).length) := by
          rw [← zpow_add₀ (by norm_num), add_comm]
      _ ≤ 10 ^ (-401 : Int) := zpow_le_zpow_right₀ (by norm_num) (by omega)
      _ ≤ 2 ^ (-1075 : Int) := ten_pow_le_two_pow
  calc 2 * (digits * 10 ^ exponent : ℚ) ≤ 2 * 2 ^ (-1075 : Int) :=
        mul_le_mul_of_nonneg_left bound zero_le_two
    _ = 2 ^ Format.double.minExponent := by
        rw [← zpow_one_add₀ two_ne_zero]
        rfl

/-- No magnitude is nearer to a decimal number than that of its double. -/
theorem nearest_nearestDouble {digits : Nat} {exponent : Int}
    (finite : (nearestDouble digits exponent).isFinite = true) :
    ∀ y ∈ Format.double.magnitudes,
      |(nearestDouble digits exponent).magnitude - digits * 10 ^ exponent| ≤
        |y - digits * 10 ^ exponent| := by
  unfold nearestDouble at finite ⊢
  dsimp only at finite ⊢
  split_ifs at finite ⊢ with vanishes exceeds
  · rw [Binary.magnitude_zero]
    apply nearest_zero (by positivity)
    rcases (by simpa using vanishes : digits = 0 ∨ _) with rfl | low
    · rw [Nat.cast_zero, zero_mul, mul_zero]
      positivity
    · exact mul_ten_pow_le low
  · exact absurd finite (by decide)
  · have ratio : ((digits * Nat.pow 10 exponent.toNat : Nat) : ℚ) /
        (Nat.pow 10 (-exponent).toNat : Nat) = digits * 10 ^ exponent := by
      rw [Nat.cast_mul, mul_div_assoc, pow_toNat_div_pow_toNat (by decide)]
      rfl
    rw [← ratio]
    exact Binary.nearest_ofRatio (Nat.pow_pos (by decide)) finite

theorem FloatDigits.nearest_decimalDouble {digits : FloatDigits}
    (finite : digits.decimalDouble.isFinite = true) :
    ∀ y ∈ Format.double.magnitudes,
      |digits.decimalDouble.magnitude - digits.value .decimal| ≤ |y - digits.value .decimal| := by
  have isValue : digits.value .decimal = ofDigits 10 (digits.whole ++ digits.fraction) *
      10 ^ (digits.power - digits.fraction.length) := by
    show (ofDigits 10 _ / 10 ^ digits.fraction.length * 10 ^ digits.power : ℚ) = _
    rw [zpow_sub₀ (by norm_num), zpow_natCast]
    ring
  rw [isValue]
  exact nearest_nearestDouble finite

/-! ## Literals in base sixteen -/

theorem Digits.lt {base : Nat} {text : List Char} {digits : List Nat}
    (isDigits : Digits base text digits) : ∀ digit ∈ digits, digit < base := by
  cases isDigits with
  | absent => simp
  | present writes more => exact List.forall_mem_cons.2 ⟨writes.1, more.lt⟩

/-- The digits of a mantissa in base sixteen are less than sixteen. -/
theorem FloatBody.lt {fractional : Bool} {body : List Char} {digits : FloatDigits}
    (spelled : FloatBody .hexadecimal fractional body digits) :
    ∀ digit ∈ digits.whole ++ digits.fraction, digit < 16 := by
  cases spelled with
  | hexadecimal _ scaled =>
      obtain ⟨isMantissa, -⟩ := scaled
      cases isMantissa with
      | plain before _ =>
          rw [List.append_nil]
          exact MoreDigits.lt before
      | pointed before behind _ =>
          exact List.forall_mem_append.2 ⟨MoreDigits.lt before, Digits.lt behind⟩

/-- The number of a literal in base sixteen, with its point moved behind the last digit. -/
theorem FloatDigits.value_hexadecimal (digits : FloatDigits) :
    digits.value .hexadecimal = ofDigits 16 (digits.whole ++ digits.fraction) *
      2 ^ (-4 * digits.fraction.length + digits.power : Int) := by
  have places : (16 : ℚ) ^ digits.fraction.length = 2 ^ (4 * digits.fraction.length : Int) := by
    rw [zpow_mul, zpow_natCast]
    norm_num
  rw [value, zpow_add₀ two_ne_zero, neg_mul, zpow_neg, places]
  ring

/-- Between digits in base sixteen and their double lies no other magnitude, within the limit of
exponents. -/
theorem FloatDigits.adjoins_hexadecimalDouble {digits : FloatDigits}
    (areDigits : ∀ digit ∈ digits.whole ++ digits.fraction, digit < 16)
    (within : digits.WithinLimit .hexadecimal)
    (finite : digits.hexadecimalDouble.isFinite = true) :
    Adjoins Format.double.magnitudes digits.hexadecimalDouble.magnitude
      (digits.value .hexadecimal) := by
  obtain ⟨dropped, keeps⟩ := HexMantissa.exists_keeps areDigits
  rw [value_hexadecimal]
  unfold hexadecimalDouble at finite ⊢
  dsimp only at finite ⊢
  split_ifs at finite ⊢ with isZero
  · have noNumber := keeps.eq_bits (keeps.dropped_eq_zero isZero)
    rw [isZero] at noNumber
    rw [noNumber, Nat.cast_zero, zero_mul, Binary.magnitude_zero]
    exact .zero le_rfl (by positivity)
  · refine keeps.adjoins_scale isZero (HexMantissa.totalScale_cases _ _ _ ?_) finite
    refine (within rfl).imp_right fun few => ?_
    have bounds := HexMantissa.scale_ofDigits digits.whole digits.fraction
    omega

/-! ## Signs -/

theorem FloatBody.adjoins_toDouble {radix : Radix} {fractional : Bool} {body : List Char}
    {digits : FloatDigits} (spelled : FloatBody radix fractional body digits)
    (within : digits.WithinLimit radix) (finite : (digits.toDouble radix).isFinite = true) :
    Adjoins Format.double.magnitudes (digits.toDouble radix).magnitude (digits.value radix) := by
  cases spelled with
  | decimal _ => exact .of_nearest (FloatDigits.nearest_decimalDouble finite)
  | hexadecimal isLetter scaled =>
      exact FloatDigits.adjoins_hexadecimalDouble (FloatBody.lt (.hexadecimal isLetter scaled))
        within finite

/-- Digits denote nothing negative. -/
theorem FloatDigits.negative_toDouble (digits : FloatDigits) (radix : Radix) :
    (digits.toDouble radix).negative = false := by
  have decimal : digits.decimalDouble.negative = false := by
    unfold decimalDouble nearestDouble
    dsimp only
    split_ifs <;> rfl
  cases radix with
  | hexadecimal =>
      show digits.hexadecimalDouble.negative = false
      unfold hexadecimalDouble
      dsimp only
      split_ifs
      · rfl
      · have nonnegative : ¬ ((HexMantissa.ofDigits digits.whole digits.fraction).bits : Int) < 0 :=
          Int.not_lt.2 (Int.natCast_nonneg _)
        exact decide_eq_false nonnegative
  | binary | octal | decimal => exact decimal

section Signed

variable {radix : Radix} {text : List Char} {digits : FloatDigits} {number : ℚ} {x : Binary64}

/-- A literal is read as its double, with the sign in front. -/
theorem FloatLiteral.value_of_read (literal : FloatLiteral radix text digits number)
    (read : readFloat? text = some x) :
    (digits.toDouble radix).isFinite = true ∧
      x.value = if (signAndBody text).1 then -(digits.toDouble radix).magnitude
        else (digits.toDouble radix).magnitude := by
  obtain ⟨spelled, -⟩ := literal.spelled
  obtain ⟨_, _, others, isSpelled, finite, rfl⟩ := readFloat?_eq_some_iff.1 read
  have same := (readMagnitude?_of_floatBody rfl spelled).2.symm.trans
    (readMagnitude?_of_floatBody rfl isSpelled).2
  rw [← Option.some.inj same] at finite ⊢
  rw [← Binary.value_of_not_negative (digits.negative_toDouble radix)]
  refine ⟨finite, ?_⟩
  split_ifs
  · exact Binary.value_neg _
  · rfl

/-- No double is nearer to the number of a decimal literal than its reading. -/
theorem FloatLiteral.nearest (literal : FloatLiteral .decimal text digits number)
    (read : readFloat? text = some x) (y : Binary64) : |x.value - number| ≤ |y.value - number| := by
  obtain ⟨finite, isValue⟩ := literal.value_of_read read
  have isNumber := literal.spelled.2
  have closest := FloatDigits.nearest_decimalDouble finite y.magnitude y.magnitude_mem
  have unsigned : |x.value - number| =
      |digits.decimalDouble.magnitude - digits.value .decimal| := by
    rw [isValue, isNumber]
    split_ifs
    · rw [neg_sub_neg, abs_sub_comm]
      rfl
    · rfl
  have absolute : |number| = digits.value .decimal := by
    rw [← abs_of_nonneg (digits.value_nonneg .decimal), isNumber]
    split_ifs
    · exact abs_neg _
    · rfl
  rw [unsigned]
  refine closest.trans ?_
  rw [← y.abs_value, ← absolute]
  exact abs_abs_sub_abs_le_abs_sub _ _

/-- No other double lies between the number of a literal and its reading. -/
theorem FloatLiteral.eq_of_between (literal : FloatLiteral radix text digits number)
    (within : digits.WithinLimit radix) (read : readFloat? text = some x) {y : Binary64}
    (between : y.value ∈ Set.uIcc x.value number) : y.value = x.value := by
  obtain ⟨spelled, isNumber⟩ := literal.spelled
  obtain ⟨finite, isValue⟩ := literal.value_of_read read
  have adjoins := spelled.adjoins_toDouble within finite
  have nonnegative := (digits.toDouble radix).magnitude_nonneg
  have numberNonneg := digits.value_nonneg radix
  cases negative : (signAndBody text).1 with
  | false =>
      rw [negative, if_neg (by decide)] at isValue isNumber
      rw [isValue, isNumber] at between
      rw [isValue]
      exact Binary.value_eq_of_between adjoins nonnegative numberNonneg between
  | true =>
      -- the opposite numbers lie between the magnitudes
      rw [negative, if_pos rfl] at isValue isNumber
      have opposite : y.neg.value ∈ Set.uIcc (digits.toDouble radix).magnitude
          (digits.value radix) := by
        rw [isValue, isNumber] at between
        rw [y.value_neg, Set.mem_uIcc]
        rcases Set.mem_uIcc.1 between with ⟨above, below⟩ | ⟨above, below⟩
        · exact .inr ⟨by linarith, by linarith⟩
        · exact .inl ⟨by linarith, by linarith⟩
      have same := Binary.value_eq_of_between adjoins nonnegative numberNonneg opposite
      rw [isValue, ← same, y.value_neg, neg_neg]

end Signed

end Number

namespace Readings

/-! ## Integer readings -/

/-- The number is one of the integer readings. -/
def HasInteger (readings : Readings) (n : Int) : Prop :=
  (∃ i ∈ readings.int, i.toInt = n) ∨ ∃ u ∈ readings.uint, (u.toNat : Int) = n

theorem value_eq_of_hasInteger {x : Binary64} (finite : x.isFinite = true) {n : Int}
    (has : (ofDouble x).HasInteger n) : x.value = n := by
  rcases has with ⟨i, isInt, rfl⟩ | ⟨u, isUnsigned, rfl⟩
  · exact (int_ofDouble_eq_some_iff finite).1 isInt
  · exact_mod_cast (uint_ofDouble_eq_some_iff finite).1 isUnsigned

/-- An integer literal has no other integer readings than its value. -/
theorem Origin.integer_eq {text : List Char} {readings : Readings} (origin : Origin text readings)
    {n m : Int} (literal : IntegerLiteral text n) (has : readings.HasInteger m) : m = n := by
  cases origin with
  | @unsigned value isLiteral below =>
      rw [literal.unique (.unsigned isLiteral)]
      have inRange : value < UInt64.size := Nat.lt_trans below (by decide)
      rcases has with ⟨i, ⟨⟩, rfl⟩ | ⟨u, ⟨⟩, rfl⟩
      · exact Int64.toInt_ofInt_of_le (by omega) (Int.ofNat_lt.2 below)
      · rw [UInt64.toNat_ofNat_of_lt' inRange]
  | @large value isLiteral _ below =>
      rw [literal.unique (.unsigned isLiteral)]
      rcases has with ⟨i, ⟨⟩, rfl⟩ | ⟨u, ⟨⟩, rfl⟩
      rw [UInt64.toNat_ofNat_of_lt' below]
  | @signed value isLiteral lower below =>
      rw [literal.unique (.signed isLiteral)]
      rcases has with ⟨i, ⟨⟩, rfl⟩ | ⟨u, isUnsigned, rfl⟩
      · exact Int64.toInt_ofInt_of_le lower below
      · dsimp only at isUnsigned
        split_ifs at isUnsigned with isZero
        · cases isUnsigned
          rw [isZero]
          rfl
        · cases isUnsigned
  | double notInteger _ _ => exact absurd literal (notInteger n)

/-- A literal with a point or an exponent is read through its double. -/
theorem Origin.readFloat?_of_literal {text : List Char} {readings : Readings}
    (origin : Origin text readings) {radix : Radix} {digits : FloatDigits} {number : ℚ}
    (literal : FloatLiteral radix text digits number) :
    ∃ x, readFloat? text = some x ∧ readings = ofDouble x := by
  have notInteger : ∀ n, ¬ IntegerLiteral text n := by
    intro n isInteger
    obtain ⟨magnitude, isLiteral⟩ := isInteger.exists_body
    exact absurd (isLiteral.fractional_eq_false literal.spelled.1) (by decide)
  cases origin with
  | unsigned isLiteral _ | large isLiteral _ _ => exact absurd (.unsigned isLiteral) (notInteger _)
  | signed isLiteral _ _ => exact absurd (.signed isLiteral) (notInteger _)
  | double _ read _ => exact ⟨_, read, rfl⟩

/-- Every accepted text is a literal. -/
theorem Origin.exists_literal {text : List Char} {readings : Readings}
    (origin : Origin text readings) :
    (∃ n, IntegerLiteral text n) ∨
      ∃ radix digits number, FloatLiteral radix text digits number := by
  cases origin with
  | unsigned literal _ | large literal _ _ => exact .inl ⟨_, .unsigned literal⟩
  | signed literal _ _ => exact .inl ⟨_, .signed literal⟩
  | double _ read fractional =>
      obtain ⟨radix, isFractional, digits, spelled, -⟩ := readFloat?_eq_some_iff.1 read
      have isTrue : isFractional = true := by
        rw [← spelled.looksFractional, looksFractional_signAndBody, fractional]
      subst isTrue
      exact .inr ⟨radix, digits, exists_floatLiteral spelled⟩

/-- Integer readings keep the value of an integer literal. Any other literal has the integer that
its double is: a decimal literal the nearest double, and every literal within the limit of
exponents a double that no other one separates from its number. -/
theorem integers_through_double {text : List Char} {readings : Readings}
    (read : ofText text = .ok readings) :
    ((∃ n, IntegerLiteral text n) ∨ ∃ radix digits number, FloatLiteral radix text digits number) ∧
    ∀ n, readings.HasInteger n →
      (∀ m, IntegerLiteral text m → n = m) ∧
      ∀ radix digits number, FloatLiteral radix text digits number →
        (∃ x, readings.float = some x ∧ x.value = n) ∧
        (radix = .decimal →
          ∀ y : Binary64, y.isFinite = true → |n - number| ≤ |y.value - number|) ∧
        (digits.WithinLimit radix →
          (∀ y : Binary64, y.isFinite = true → y.value ∈ Set.uIcc (n : ℚ) number → y.value = n) ∧
          ∀ y : Binary64, y.isFinite = true → y.value = number → n = number) := by
  have origin := origin_of_ofText read
  refine ⟨origin.exists_literal, fun n has => ⟨fun m literal => origin.integer_eq literal has, ?_⟩⟩
  intro radix digits number literal
  obtain ⟨x, isRead, rfl⟩ := origin.readFloat?_of_literal literal
  have isValue := value_eq_of_hasInteger (isFinite_of_readFloat? isRead) has
  refine ⟨⟨x, rfl, isValue⟩, ?_, ?_⟩
  · rintro rfl y _
    rw [← isValue]
    exact literal.nearest isRead y
  · intro within
    have between : ∀ y : Binary64, y.value ∈ Set.uIcc (n : ℚ) number → y.value = n := by
      intro y isBetween
      rw [← isValue] at isBetween ⊢
      exact literal.eq_of_between within isRead isBetween
    refine ⟨fun y _ => between y, ?_⟩
    intro y _ isNumber
    rw [← between y (isNumber ▸ Set.right_mem_uIcc), isNumber]

/-- A decimal number with a point and no exponent. -/
theorem floatLiteral_of_pointed {left right : List Char} {whole fraction : List Nat} {number : ℚ}
    (isWhole : Digits 10 left whole) (isFraction : Digits 10 right fraction)
    (nonempty : whole ≠ [] ∨ fraction ≠ [])
    (isNumber : ofDigits 10 (whole ++ fraction) / 10 ^ fraction.length = number) :
    FloatLiteral .decimal (left ++ '.' :: right) ⟨whole, fraction, false, []⟩ number := by
  have spelled := FloatBody.decimal (.mk (.pointed isWhole isFraction nonempty) .absent)
  have literal := FloatLiteral.unsigned spelled
  have isValue : FloatDigits.value ⟨whole, fraction, false, []⟩ .decimal = number :=
    (mul_one _).trans isNumber
  rwa [List.append_nil, isValue] at literal

/-- The successor of two to the power of 53 lies in the middle of two doubles. -/
theorem integers_through_double_rounded :
    ∃ readings digits, ofText "9007199254740993.0".toList = .ok readings ∧
      FloatLiteral .decimal "9007199254740993.0".toList digits 9007199254740993 ∧
      readings.HasInteger 9007199254740992 ∧
      ∀ y : Binary64, y.isFinite = true →
        |(9007199254740992 : Int) - (9007199254740993 : ℚ)| ≤ |y.value - 9007199254740993| := by
  have isWhole : Digits 10 "9007199254740993".toList
      [9, 0, 0, 7, 1, 9, 9, 2, 5, 4, 7, 4, 0, 9, 9, 3] :=
    (digits_iff (classes_isAsciiDigit (by decide))).2
      ⟨by decide, (forall₂_writes_iff (by decide)).2 ⟨by decide, by decide⟩⟩
  have isFraction : Digits 10 "0".toList [0] := .present (by decide) .done
  have isLiteral : ∃ digits, FloatLiteral .decimal "9007199254740993.0".toList digits
      9007199254740993 :=
    ⟨_, floatLiteral_of_pointed isWhole isFraction (by simp) (by norm_num [ofDigits])⟩
  obtain ⟨digits, literal⟩ := isLiteral
  have read : ofText "9007199254740993.0".toList =
      .ok ⟨some 9007199254740992, some 9007199254740992, some (.ofInt 9007199254740992)⟩ := rfl
  have rounded := (integers_through_double read).2 _ (.inl ⟨9007199254740992, rfl, rfl⟩)
  exact ⟨_, digits, read, literal, .inl ⟨9007199254740992, rfl, rfl⟩,
    (rounded.2 .decimal digits _ literal).2.1 rfl⟩

/-- A digit that no double has room for is lost, and with it a fraction. -/
theorem fraction_lost :
    ∃ readings digits, ofText "1.00000000000000000001".toList = .ok readings ∧
      FloatLiteral .decimal "1.00000000000000000001".toList digits (1 + 1 / 10 ^ 20) ∧
      readings.int = some 1 ∧ readings.uint = some 1 ∧ (1 : ℚ) ≠ 1 + 1 / 10 ^ 20 := by
  have isWhole : Digits 10 "1".toList [1] := .present (by decide) .done
  have isFraction : Digits 10 "00000000000000000001".toList (List.replicate 19 0 ++ [1]) :=
    (digits_iff (classes_isAsciiDigit (by decide))).2
      ⟨by decide, (forall₂_writes_iff (by decide)).2 ⟨by decide, by decide⟩⟩
  have isLiteral : ∃ digits, FloatLiteral .decimal "1.00000000000000000001".toList digits
      (1 + 1 / 10 ^ 20) :=
    ⟨_, floatLiteral_of_pointed isWhole isFraction (by simp)
      (by norm_num [ofDigits, List.replicate])⟩
  obtain ⟨digits, literal⟩ := isLiteral
  exact ⟨_, digits, rfl, literal, rfl, rfl, by norm_num⟩

end Readings

end RecordTags
