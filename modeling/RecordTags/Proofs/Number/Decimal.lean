import RecordTags.Proofs.Number.Numeral
import RecordTags.Proofs.Token.Sequence
import RecordTags.Text.Numeral

/-!
Contract: plain decimal numerals are read as the numbers that they write.

Owns: the readings of the digits of a number, and of the digits behind a minus
sign, up to the limits of both kinds of integers.

A leading zero would select base eight. The digits of a number have none, and
zero itself reads the same in that base.
-/

namespace RecordTags.Number

open RecordTags.Text

/-! ## Digits -/

theorem digitValue?_digitChar {digit : Nat} (isDigit : digit < 10) :
    digitValue? 10 digit.digitChar = some digit := by
  have all : ∀ digit < 10, digitValue? 10 digit.digitChar = some digit := by decide
  exact all digit isDigit

/-- Digits are read from the left, part by part. -/
theorem readDigits_append {base total value : Nat} {front : List Char}
    (read : readDigits base total front = .ok value) (back : List Char) :
    readDigits base total (front ++ back) = readDigits base value back := by
  induction front generalizing total with
  | nil =>
      rw [readDigits] at read
      cases read
      rfl
  | cons c rest inductionHypothesis =>
      rw [readDigits] at read
      rw [List.cons_append, readDigits]
      split at read
      next isUnderscore =>
        rw [if_pos isUnderscore]
        exact inductionHypothesis read
      next notUnderscore =>
        rw [if_neg notUnderscore]
        split at read
        next => contradiction
        next =>
          split at read
          next below =>
            rw [if_pos below]
            exact inductionHypothesis read
          next => contradiction

/-- One more digit behind digits that denote a number. -/
theorem readDigits_digitChar {total digit : Nat} (isDigit : digit < 10)
    (below : total * 10 + digit < unsignedBound) :
    readDigits 10 total [digit.digitChar] = .ok (total * 10 + digit) := by
  have notUnderscore : ¬ (digit.digitChar == '_') = true := by
    have all : ∀ digit < 10, ¬ (digit.digitChar == '_') = true := by decide
    exact all digit isDigit
  rw [readDigits, if_neg notUnderscore, digitValue?_digitChar isDigit]
  simp only [if_pos below, readDigits]

/-- The digits of a number denote it. -/
theorem readDigits_toDigits {n : Nat} (below : n < unsignedBound) :
    readDigits 10 0 (Nat.toDigits 10 n) = .ok n := by
  induction n using Nat.strongRecOn with
  | ind n inductionHypothesis =>
      by_cases oneDigit : n < 10
      · rw [Nat.toDigits_of_lt_base oneDigit, readDigits_digitChar oneDigit (by omega)]
        simp
      · have lastDigit : n % 10 < 10 := Nat.mod_lt n (by decide)
        have whole : n / 10 * 10 + n % 10 = n := by omega
        have readFront := inductionHypothesis (n / 10) (by omega) (by omega)
        rw [Nat.toDigits_of_base_le (by decide) (by omega), readDigits_append readFront,
          readDigits_digitChar lastDigit (by omega), whole]

theorem isAsciiDigit_of_mem_toDigits {n : Nat} {c : Char} (member : c ∈ Nat.toDigits 10 n) :
    isAsciiDigit c = true := by
  have isDigit := Nat.isDigit_of_mem_toDigits (by decide) (Nat.le_refl 10) member
  simpa [Char.isDigit, isAsciiDigit, Char.le_def] using isDigit

/-- The digits of a number other than zero have no leading zero. -/
theorem toDigits_ne_zero_cons {n : Nat} (positive : 0 < n) (rest : List Char) :
    Nat.toDigits 10 n ≠ '0' :: rest := by
  induction n using Nat.strongRecOn generalizing rest with
  | ind n inductionHypothesis =>
      by_cases oneDigit : n < 10
      · rw [Nat.toDigits_of_lt_base oneDigit]
        intro isZero
        have isZeroDigit : n.digitChar = '0' := (List.cons.inj isZero).1
        rw [Nat.digitChar_eq_zero] at isZeroDigit
        omega
      · rw [Nat.toDigits_of_base_le (by decide) (by omega)]
        intro isZero
        cases front : Nat.toDigits 10 (n / 10) with
        | nil => exact Nat.toDigits_ne_nil front
        | cons c tail =>
            rw [front, List.cons_append] at isZero
            rw [(List.cons.inj isZero).1] at front
            exact inductionHypothesis (n / 10) (by omega) (by omega) tail front

theorem exists_cons_toDigits (n : Nat) :
    ∃ first rest, Nat.toDigits 10 n = first :: rest ∧ isAsciiDigit first = true := by
  cases digits : Nat.toDigits 10 n with
  | nil => exact absurd digits Nat.toDigits_ne_nil
  | cons first rest =>
      have member : first ∈ Nat.toDigits 10 n := by simp [digits]
      exact ⟨first, rest, rfl, isAsciiDigit_of_mem_toDigits member⟩

/-! ## Unsigned and signed readings -/

theorem baseAndDigits_of_ne_zero {text : List Char} (noZero : ∀ rest, text ≠ '0' :: rest) :
    baseAndDigits text = (.decimal, text) := by
  unfold baseAndDigits
  split
  next letter next rest => exact absurd rfl (noZero _)
  next rest _ => exact absurd rfl (noZero _)
  next => rfl

/-- The decimal digits of a number are read as the number. -/
theorem readUnsigned_toDigits {n : Nat} (below : n < unsignedBound) :
    readUnsigned (Nat.toDigits 10 n) = .ok n := by
  by_cases isZero : n = 0
  · rw [isZero, Nat.toDigits_zero]
    rfl
  · obtain ⟨first, rest, digits, -⟩ := exists_cons_toDigits n
    have decimal := baseAndDigits_of_ne_zero (toDigits_ne_zero_cons (Nat.pos_of_ne_zero isZero))
    have read := readDigits_toDigits below
    have noUnderscore : (Nat.toDigits 10 n).contains '_' = false := by
      simp [Nat.underscore_not_in_toDigits]
    rw [digits] at decimal read noUnderscore ⊢
    simp only [readUnsigned, decimal, Radix.base, read, noUnderscore, Bool.false_and]
    rfl

theorem isSign_of_isAsciiDigit {c : Char} (isDigit : isAsciiDigit c = true) :
    isSign c = false := by
  apply isSign_of_isDigitOrUnderscore
  exact isDigitOrUnderscore_of_isAsciiDigit isDigit

theorem signAndBody_toDigits (n : Nat) :
    signAndBody (Nat.toDigits 10 n) = (false, Nat.toDigits 10 n) := by
  obtain ⟨first, rest, digits, isDigit⟩ := exists_cons_toDigits n
  rw [digits]
  exact signAndBody_of_not_isSign (isSign_of_isAsciiDigit isDigit) rest

theorem toList_decimal (n : Nat) : (decimal n).toList = Nat.toDigits 10 n := by
  rw [decimal, String.toList_ofList]

theorem toList_decimalInt_of_neg {n : Int} (negative : n < 0) :
    (decimalInt n).toList = '-' :: Nat.toDigits 10 n.natAbs := by
  rw [decimalInt, if_pos negative, String.toList_append, toList_decimal]
  rfl

theorem toList_decimalInt_of_nonneg {n : Int} (nonnegative : 0 ≤ n) :
    (decimalInt n).toList = Nat.toDigits 10 n.natAbs := by
  rw [decimalInt, if_neg (Int.not_lt.2 nonnegative), toList_decimal]

/-- A whole number in range is read from its numeral. -/
theorem readSigned_decimalInt {n : Int} (lower : -(signedBound : Int) ≤ n)
    (upper : n < signedBound) : readSigned (decimalInt n).toList = .ok n := by
  have magnitude : n.natAbs ≤ signedBound := by omega
  have below : n.natAbs < unsignedBound :=
    Nat.lt_of_le_of_lt magnitude (by decide)
  by_cases negative : n < 0
  · rw [toList_decimalInt_of_neg negative, readSigned, signAndBody_of_isSign (by decide)]
    simp only [readUnsigned_toDigits below, beq_self_eq_true, if_true, if_pos magnitude]
    congr 1
    omega
  · rw [toList_decimalInt_of_nonneg (Int.not_lt.1 negative), readSigned, signAndBody_toDigits]
    have inRange : n.natAbs < signedBound := by omega
    simp only [readUnsigned_toDigits below, Bool.false_eq_true, if_false, if_pos inRange]
    congr 1
    omega

theorem readSigned_toDigits_of_le {n : Nat} (tooLarge : signedBound ≤ n)
    (below : n < unsignedBound) : readSigned (Nat.toDigits 10 n) = .error .tooLarge := by
  rw [readSigned, signAndBody_toDigits]
  simp only [readUnsigned_toDigits below, Bool.false_eq_true, if_false,
    if_neg (Nat.not_lt.2 tooLarge)]

end RecordTags.Number

namespace RecordTags

open RecordTags.Text

/-! ## Readings -/

theorem startsNumber_decimal (n : Nat) : StartsNumber (decimal n).toList := by
  obtain ⟨first, rest, digits, isDigit⟩ := Number.exists_cons_toDigits n
  rw [Number.toList_decimal, digits]
  simp [StartsNumber, isNumericStart, isDigit]

theorem startsNumber_decimalInt (n : Int) : StartsNumber (decimalInt n).toList := by
  by_cases negative : n < 0
  · rw [Number.toList_decimalInt_of_neg negative]
    rfl
  · rw [Number.toList_decimalInt_of_nonneg (Int.not_lt.1 negative), ← Number.toList_decimal]
    exact startsNumber_decimal n.natAbs

/-- The numeral of a signed integer has it as its signed reading. -/
theorem Readings.exists_int_decimalInt (value : Int64) :
    ∃ readings, Readings.ofText (decimalInt value.toInt).toList = .ok readings ∧
      readings.int = some value := by
  have read := Number.readSigned_decimalInt value.le_toInt value.toInt_lt
  unfold Readings.ofText
  rw [read]
  exact ⟨_, rfl, by simp only [Int64.ofInt_toInt]⟩

/-- The numeral of an unsigned integer has it as its unsigned reading. -/
theorem Readings.exists_uint_decimal (value : UInt64) :
    ∃ readings, Readings.ofText (decimal value.toNat).toList = .ok readings ∧
      readings.uint = some value := by
  have below : value.toNat < Number.unsignedBound := value.toNat_lt
  have unsigned := Number.readUnsigned_toDigits below
  unfold Readings.ofText
  by_cases small : value.toNat < Number.signedBound
  · have signed : Number.readSigned (Nat.toDigits 10 value.toNat) = .ok value.toNat := by
      have read := Number.readSigned_decimalInt (n := value.toNat) (by omega) (by omega)
      rwa [Number.toList_decimalInt_of_nonneg (Int.natCast_nonneg _), Int.natAbs_natCast] at read
    rw [Number.toList_decimal, signed, unsigned]
    refine ⟨_, rfl, ?_⟩
    by_cases isZero : value.toNat = 0
    · have zero : value = 0 := UInt64.toNat_inj.1 isZero
      simp [zero]
    · simp [isZero, Except.toOption]
  · rw [Number.toList_decimal, Number.readSigned_toDigits_of_le (Nat.le_of_not_lt small) below,
      unsigned]
    exact ⟨_, rfl, by simp only [UInt64.ofNat_toNat]⟩

end RecordTags
