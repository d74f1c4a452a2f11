import RecordTags.Proofs.Number.Classification
import RecordTags.Proofs.Number.Exactness

/-!
Contract: what the limit of exponents does to literals in base sixteen.

Owns:
- the mantissa of a literal with at most sixteen significant digits, which is
  exact;
- `scaling_of_hexadecimal`, which says for every such literal within the range
  of doubles when the power of two that the mantissa is scaled by is the right
  one;
- `one_read_as_zero`, a literal of value one that the limit turns into zero.

## Where the limit shows

The limit is meant for exponents whose numbers are zero or infinite whatever the
digits are. Zeros behind the point make a number smaller by as much as one
likes, though, and an exponent beyond the limit can make up for them. The limit
then takes a part of the exponent away that the digits needed.
-/

namespace RecordTags.Number

open RecordTags.Text

/-! ## Few significant digits -/

/-- The digits from the first that is not zero to the last. -/
def FloatDigits.significant (digits : FloatDigits) : List Nat :=
  (digits.whole ++ digits.fraction).dropWhile (· == 0)

theorem ofDigits_dropWhile_zero (base : Nat) (digits : List Nat) :
    ofDigits base (digits.dropWhile (· == 0)) = ofDigits base digits := by
  induction digits with
  | nil => rfl
  | cons digit others inductionHypothesis =>
      by_cases isZero : digit = 0
      · rw [isZero, ofDigits_zero_cons]
        exact inductionHypothesis
      · rw [List.dropWhile_cons_of_neg (by simpa using isZero)]

theorem FloatDigits.ofDigits_lt {digits : FloatDigits}
    (areDigits : ∀ digit ∈ digits.whole ++ digits.fraction, digit < 16)
    (few : digits.significant.length ≤ HexMantissa.capacity) :
    ofDigits 16 (digits.whole ++ digits.fraction) < 16 ^ HexMantissa.capacity := by
  have areSignificant : ∀ digit ∈ digits.significant, digit < 16 :=
    fun digit member => areDigits digit ((List.dropWhile_suffix _).subset member)
  rw [← ofDigits_dropWhile_zero]
  calc ofDigits 16 digits.significant < 16 ^ digits.significant.length :=
        Number.ofDigits_lt areSignificant
    _ ≤ 16 ^ HexMantissa.capacity := Nat.pow_le_pow_right (by decide) few

namespace HexMantissa

/-- A number that fits has no digits to drop. -/
theorem Keeps.dropped_eq_zero_of_lt {mantissa : HexMantissa} {number : Nat} {place : Int}
    {dropped : Nat} (keeps : Keeps mantissa number place dropped)
    (small : number < 16 ^ capacity) : dropped = 0 := by
  by_contra notZero
  have isFull : mantissa.kept = capacity :=
    Nat.le_antisymm keeps.kept_le (Nat.not_lt.1 fun room => notZero (keeps.room room))
  have leading := keeps.leading (by rw [isFull]; decide)
  have great : 16 ^ capacity ≤ number := by
    calc 16 ^ capacity ≤ mantissa.bits * 16 := by rwa [isFull] at leading
      _ ≤ mantissa.bits * 16 ^ dropped := Nat.mul_le_mul_left _ (Nat.le_self_pow notZero 16)
      _ ≤ number := keeps.lower
  omega

/-- Few digits are all kept, and the scale is the place of the last one. -/
theorem ofDigits_of_few {digits : FloatDigits}
    (areDigits : ∀ digit ∈ digits.whole ++ digits.fraction, digit < 16)
    (few : digits.significant.length ≤ capacity) :
    (ofDigits digits.whole digits.fraction).bits =
        Text.ofDigits 16 (digits.whole ++ digits.fraction) ∧
      (ofDigits digits.whole digits.fraction).scale = -4 * digits.fraction.length := by
  obtain ⟨dropped, keeps⟩ := exists_keeps areDigits
  have none := keeps.dropped_eq_zero_of_lt (digits.ofDigits_lt areDigits few)
  have isScale := keeps.scale
  refine ⟨(keeps.eq_bits none).symm, ?_⟩
  rw [none] at isScale
  omega

end HexMantissa

/-! ## The value of a literal -/

/-- A mantissa of 64 bits within the range of doubles has a small power of two. -/
theorem power_bounds {number : Nat} (fits : number < 16 ^ HexMantissa.capacity) {power : Int}
    (lower : (2 : ℚ) ^ (-1074 : Int) ≤ number * 2 ^ power)
    (upper : (number * 2 ^ power : ℚ) < 2 ^ (1024 : Int)) :
    0 < number ∧ -1138 < power ∧ power < 1024 := by
  have positive : 0 < number := by
    by_contra notPositive
    rw [Nat.eq_zero_of_not_pos notPositive, Nat.cast_zero, zero_mul] at lower
    exact absurd lower (not_le.2 (by positivity))
  have one_le : (1 : ℚ) ≤ number := by exact_mod_cast positive
  have below : (number : ℚ) < 2 ^ (64 : Int) := by
    have fits : number < 2 ^ 64 := fits
    exact_mod_cast fits
  have isLow : (2 : ℚ) ^ (-1074 : Int) < 2 ^ (64 + power) := by
    calc (2 : ℚ) ^ (-1074 : Int) ≤ number * 2 ^ power := lower
      _ < 2 ^ (64 : Int) * 2 ^ power := by gcongr
      _ = 2 ^ (64 + power) := (zpow_add₀ two_ne_zero _ _).symm
  have isHigh : (2 : ℚ) ^ power < 2 ^ (1024 : Int) :=
    (le_mul_of_one_le_left (by positivity) one_le).trans_lt upper
  have lowPower := (zpow_lt_zpow_iff_right₀ one_lt_two).1 isLow
  have highPower := (zpow_lt_zpow_iff_right₀ one_lt_two).1 isHigh
  exact ⟨positive, by omega, highPower⟩

namespace DecimalParts

def mantissa (parts : DecimalParts) : HexMantissa :=
  .ofDigits (digitValues 16 parts.whole) (digitValues 16 parts.fraction)

/-- The power of two that the mantissa is scaled by. -/
def scale (parts : DecimalParts) : Int :=
  parts.mantissa.totalScale parts.exponentNegative (ofDigits 10 (digitValues 10 parts.exponent))

theorem toDoubleHex_of_ne_zero {parts : DecimalParts} (nonzero : parts.mantissa.bits ≠ 0) :
    parts.toDoubleHex = (Binary.ofInt parts.mantissa.bits : Binary64).scale parts.scale :=
  if_neg nonzero

/-- The parts of a literal have the mantissa and the scale of its digits. -/
theorem Spells.mantissa_and_scale {parts : DecimalParts} {digits : FloatDigits}
    (spells : parts.Spells 16 digits) :
    parts.mantissa = .ofDigits digits.whole digits.fraction ∧
      parts.scale = (HexMantissa.ofDigits digits.whole digits.fraction).totalScale
        digits.exponentNegative (ofDigits 10 digits.exponent) ∧
      ∀ digit ∈ digits.whole ++ digits.fraction, digit < 16 := by
  obtain ⟨written, writtenBehind, negative, writtenExponent⟩ := spells
  have isWhole := ((forall₂_writes_iff (Nat.le_refl 16)).1 written).2
  have isFraction := ((forall₂_writes_iff (Nat.le_refl 16)).1 writtenBehind).2
  have isExponent := ((forall₂_writes_iff (by decide)).1 writtenExponent).2
  refine ⟨?_, ?_, ?_⟩
  · rw [mantissa, isWhole, isFraction]
  · rw [scale, mantissa, isWhole, isFraction, isExponent, negative]
  · exact List.forall_mem_append.2 ⟨lt_of_writes written, lt_of_writes writtenBehind⟩

end DecimalParts

/-! ## The limit -/

namespace HexMantissa

section

variable {mantissa : HexMantissa} {negative : Bool} {exponent : Nat}
  (isLow : -10000 < mantissa.scale + withSign negative exponent)
  (isHigh : mantissa.scale + withSign negative exponent ≤ 10000)
include isLow isHigh

/-- An exponent within the limit counts as it is written. -/
theorem totalScale_of_le (within : exponent ≤ 10000) :
    mantissa.totalScale negative exponent = mantissa.scale + withSign negative exponent := by
  cases negative <;> simp only [totalScale, withSign, exponentLimit, if_true, if_false,
    Bool.false_eq_true] at isLow isHigh ⊢ <;> omega

/-- An exponent beyond the limit counts as a smaller one. Without dropped digits nothing but zeros
behind the point can make up for it, so it is positive. -/
theorem totalScale_lt (noneDropped : mantissa.scale ≤ 0) (beyond : 10000 < exponent) :
    mantissa.totalScale negative exponent < mantissa.scale + withSign negative exponent := by
  cases negative <;> simp only [totalScale, withSign, exponentLimit, if_true, if_false,
    Bool.false_eq_true] at isLow isHigh ⊢ <;> omega

end

end HexMantissa

/-- A literal of at most sixteen significant digits whose number is in the range of doubles is
scaled exactly if its exponent is within the limit. Otherwise it comes out too small. -/
theorem scaling_of_hexadecimal {body : List Char} {parts : DecimalParts} {point : Bool}
    {digits : FloatDigits} (accepted : hexadecimalParts? body = some parts)
    (spelled : Scaled (.bare 16) ['p', 'P'] point true body digits)
    (few : digits.significant.length ≤ HexMantissa.capacity)
    (lower : (2 : ℚ) ^ (-1074 : Int) ≤ digits.value .hexadecimal)
    (upper : digits.value .hexadecimal < 2 ^ (1024 : Int)) :
    parts.toDoubleHex = (Binary.ofInt parts.mantissa.bits : Binary64).scale parts.scale ∧
      (ofDigits 10 digits.exponent ≤ 10000 →
        parts.mantissa.bits * 2 ^ parts.scale = digits.value .hexadecimal) ∧
      (10000 < ofDigits 10 digits.exponent →
        parts.mantissa.bits * 2 ^ parts.scale < digits.value .hexadecimal) := by
  obtain ⟨found, isFound, spells⟩ := hexadecimalParts?_of_scaled spelled
  obtain rfl : found = parts := Option.some.inj (isFound.symm.trans accepted)
  obtain ⟨isMantissa, isScale, areDigits⟩ := spells.mantissa_and_scale
  obtain ⟨isBits, isPlace⟩ := HexMantissa.ofDigits_of_few areDigits few
  rw [digits.value_hexadecimal, ← isBits, ← isPlace, ← isMantissa] at lower upper ⊢
  rw [← isMantissa] at isScale isBits isPlace
  have fits : found.mantissa.bits < 16 ^ HexMantissa.capacity := by
    rw [isBits]
    exact digits.ofDigits_lt areDigits few
  obtain ⟨positive, isLow, isHigh⟩ := power_bounds fits lower upper
  rw [FloatDigits.power] at isLow isHigh ⊢
  refine ⟨found.toDoubleHex_of_ne_zero (by omega), ?_, ?_⟩
  · intro within
    rw [isScale, HexMantissa.totalScale_of_le (by omega) (by omega) within]
  · intro beyond
    have less : found.scale < found.mantissa.scale +
        withSign digits.exponentNegative (ofDigits 10 digits.exponent) := by
      rw [isScale]
      exact HexMantissa.totalScale_lt (by omega) (by omega) (by omega) beyond
    have isPositive : (0 : ℚ) < found.mantissa.bits := by exact_mod_cast positive
    have scaled := zpow_lt_zpow_right₀ (one_lt_two (α := ℚ)) less
    exact mul_lt_mul_of_pos_left scaled isPositive

/-- The least positive double, written with zeros behind the point. -/
theorem scaling_of_hexadecimal_least :
    ∃ parts digits, hexadecimalParts? "0.001p-1062".toList = some parts ∧
      Scaled (.bare 16) ['p', 'P'] true true "0.001p-1062".toList digits ∧
      digits.value .hexadecimal = 2 ^ (-1074 : Int) ∧
      parts.mantissa.bits * 2 ^ parts.scale = (2 ^ (-1074 : Int) : ℚ) := by
  have accepted : hexadecimalParts? "0.001p-1062".toList =
      some ⟨['0'], ['0', '0', '1'], true, ['1', '0', '6', '2']⟩ := by decide
  have isMantissa : Mantissa (.bare 16) true (['0'] ++ '.' :: ['0', '0', '1']) [0] [0, 0, 1] :=
    .pointed ((forall₂_writes_iff (by decide)).2 (by decide))
      ((forall₂_writes_iff (by decide)).2 (by decide)) (by simp)
  have isExponent : Exponent (.bare 16) ['p', 'P'] true ['p', '-', '1', '0', '6', '2'] true
      [1, 0, 6, 2] :=
    .signed (by decide) (by decide) ((forall₂_writes_iff (by decide)).2 (by decide)) (by simp)
  have spelled := Scaled.mk isMantissa isExponent
  have isValue : FloatDigits.value ⟨[0], [0, 0, 1], true, [1, 0, 6, 2]⟩ .hexadecimal =
      2 ^ (-1074 : Int) := by
    rw [FloatDigits.value_hexadecimal]
    exact one_mul _
  have exact := (scaling_of_hexadecimal accepted spelled (by decide) isValue.ge
    (isValue.trans_lt (zpow_lt_zpow_right₀ one_lt_two (by decide)))).2.1 (by decide)
  exact ⟨_, _, accepted, spelled, isValue, exact.trans isValue⟩

/-! ## A number that the limit changes -/

/-- A one behind zeros behind the point, with the exponent that makes up for three thousand. -/
def distantOne (zeros : Nat) : List Char :=
  ['0'] ++ '.' :: (List.replicate zeros '0' ++ ['1']) ++ ['p', '1', '2', '0', '0', '4']

def distantOneDigits (zeros : Nat) : FloatDigits :=
  ⟨[0], List.replicate zeros 0 ++ [1], false, [1, 2, 0, 0, 4]⟩

theorem writes_zeros (zeros : Nat) :
    List.Forall₂ (WritesDigit 16) (List.replicate zeros '0') (List.replicate zeros 0) := by
  induction zeros with
  | zero => exact .nil
  | succ zeros inductionHypothesis => exact .cons (by decide) inductionHypothesis

theorem distantOne_spelled (zeros : Nat) :
    Scaled (.bare 16) ['p', 'P'] true true (distantOne zeros) (distantOneDigits zeros) := by
  have isMantissa : Mantissa (.bare 16) true (['0'] ++ '.' :: (List.replicate zeros '0' ++ ['1']))
      [0] (List.replicate zeros 0 ++ [1]) :=
    .pointed ((forall₂_writes_iff (by decide)).2 (by decide))
      (List.rel_append (writes_zeros zeros) ((forall₂_writes_iff (by decide)).2 (by decide)))
      (by simp)
  have isExponent : Exponent (.bare 16) ['p', 'P'] true ['p', '1', '2', '0', '0', '4'] false
      [1, 2, 0, 0, 4] :=
    .unsigned (by decide) ((forall₂_writes_iff (by decide)).2 (by decide)) (by simp)
  exact .mk isMantissa isExponent

theorem distantOne_significant (zeros : Nat) : (distantOneDigits zeros).significant = [1] := by
  show (0 :: (List.replicate zeros 0 ++ [1])).dropWhile (· == 0) = [1]
  simp

theorem distantOne_number (zeros : Nat) :
    ofDigits 16 ((distantOneDigits zeros).whole ++ (distantOneDigits zeros).fraction) = 1 := by
  rw [← ofDigits_dropWhile_zero]
  show ofDigits 16 (distantOneDigits zeros).significant = 1
  rw [distantOne_significant]
  rfl

theorem distantOne_places (zeros : Nat) :
    (distantOneDigits zeros).fraction.length = zeros + 1 := by
  simp [distantOneDigits]

theorem distantOne_value (zeros : Nat) :
    (distantOneDigits zeros).value .hexadecimal = 2 ^ (-4 * (zeros + 1 : Nat) + 12004 : Int) := by
  rw [FloatDigits.value_hexadecimal, distantOne_number, distantOne_places, Nat.cast_one, one_mul]
  rfl

/-- The mantissa is one, and the limit has taken two thousand from the exponent. -/
theorem distantOne_scaled {zeros : Nat} {parts : DecimalParts}
    (spells : parts.Spells 16 (distantOneDigits zeros)) :
    parts.mantissa.bits = 1 ∧
      parts.scale = max (-10000 : Int) (min 10000 (-4 * (zeros + 1 : Nat) + 10000)) := by
  have few : (distantOneDigits zeros).significant.length ≤ HexMantissa.capacity := by
    rw [distantOne_significant]
    decide
  obtain ⟨isMantissa, isTotal, areDigits⟩ := spells.mantissa_and_scale
  obtain ⟨isBits, isScale⟩ := HexMantissa.ofDigits_of_few areDigits few
  rw [distantOne_number] at isBits
  rw [distantOne_places] at isScale
  rw [isMantissa, isTotal, HexMantissa.totalScale, isBits, isScale]
  exact ⟨rfl, rfl⟩

theorem distantOne_body (zeros : Nat) :
    FloatBody .hexadecimal true ('0' :: 'x' :: distantOne zeros) (distantOneDigits zeros) := by
  have noUnderscore : '_' ∉ distantOne zeros := by simp [distantOne]
  have grouped : groupedFrom (isDigitIn 16) .digit (distantOne zeros) = true :=
    groupedFrom_of_not_mem noUnderscore (by decide)
  have bare : (distantOne zeros).filter (· != '_') = distantOne zeros := by
    rw [List.filter_eq_self]
    intro c member
    exact bne_iff_ne.2 fun isUnderscore => noUnderscore (isUnderscore ▸ member)
  have spelled := distantOne_spelled zeros
  rw [← bare] at spelled
  exact .hexadecimal (by decide) (scaled_hexadecimal_iff.2 ⟨grouped, spelled⟩)

/-- The literal has the readings of its double. -/
theorem distantOne_read {zeros : Nat} {parts : DecimalParts}
    (spells : parts.Spells 16 (distantOneDigits zeros))
    (finite : parts.toDoubleHex.isFinite = true) :
    Readings.ofText ('0' :: 'x' :: distantOne zeros) = .ok (.ofDouble parts.toDoubleHex) := by
  have isDouble : parts.toDoubleHex = (distantOneDigits zeros).toDouble .hexadecimal :=
    spells.toDoubleHex
  have read : readFloat? ('0' :: 'x' :: distantOne zeros) = some parts.toDoubleHex := by
    rw [isDouble] at finite ⊢
    exact readFloat?_eq_some_iff.2 ⟨_, _, _, distantOne_body zeros, finite, rfl⟩
  have fractional : Readings.looksFractional ('0' :: 'x' :: distantOne zeros) = true :=
    (distantOne_body zeros).looksFractional
  have notSigned : readSigned ('0' :: 'x' :: distantOne zeros) = .error .malformed := rfl
  have notUnsigned : readUnsigned ('0' :: 'x' :: distantOne zeros) = .error .malformed := rfl
  rw [Readings.ofText_of_unread notSigned notUnsigned, Readings.ofFloatText, read]
  simp only [fractional]
  rfl

/-- One, with three thousand zeros behind the point, is scaled by too little and read as zero. -/
theorem one_read_as_zero :
    ∃ parts digits, hexadecimalParts? (distantOne 3000) = some parts ∧
      Scaled (.bare 16) ['p', 'P'] true true (distantOne 3000) digits ∧
      digits.significant.length ≤ HexMantissa.capacity ∧ digits.value .hexadecimal = 1 ∧
      parts.mantissa.bits * 2 ^ parts.scale ≠ digits.value .hexadecimal ∧
      Readings.ofText ('0' :: 'x' :: distantOne 3000) =
        .ok ⟨some 0, some 0, some (.zero false)⟩ := by
  -- three thousand is kept behind a name, so that no step unfolds that many zeros
  generalize isMany : 3000 = zeros
  obtain ⟨parts, accepted, spells⟩ := hexadecimalParts?_of_scaled (distantOne_spelled zeros)
  obtain ⟨isBits, isScale⟩ := distantOne_scaled spells
  rw [← isMany] at isScale
  have isValue : (distantOneDigits zeros).value .hexadecimal = 1 := by
    rw [distantOne_value, ← isMany]
    exact zpow_zero 2
  have isZero : parts.toDoubleHex = .zero false := by
    rw [parts.toDoubleHex_of_ne_zero (by rw [isBits]; decide), isBits, isScale]
    decide +kernel
  refine ⟨parts, distantOneDigits zeros, accepted, distantOne_spelled zeros, ?_, isValue, ?_, ?_⟩
  · rw [distantOne_significant]
    decide
  · rw [isValue, isBits, isScale, Nat.cast_one, one_mul]
    exact (zpow_lt_one_of_neg₀ one_lt_two (by decide)).ne
  · rw [distantOne_read spells (by rw [isZero]; rfl), isZero]
    decide +kernel

end RecordTags.Number
