import RecordTags.Proofs.Number.Fractional
import RecordTags.Proofs.Number.Rounding

/-!
Contract: the double of a literal in base sixteen.

Owns:
- `HexMantissa.Keeps`, what the digits of a mantissa leave behind: its leading
  sixteen digits and the place of the last one of them;
- that no double lies between such a literal and the double that it is read as,
  as long as the limit of exponents does not interfere.

Does not own: the literals whose exponent is beyond the limit and whose digits
are so many that they could make up for it.

## Why not the nearest double

The digits behind the sixteenth are dropped before anything is rounded, so a
number just above the middle of two doubles can be taken for the middle itself.
The double is then one of the two neighbours of the number, but not always the
nearer one.
-/

namespace RecordTags.Number

open RecordTags.Text

namespace HexMantissa

/-! ## Digits that are kept -/

/-- The mantissa has the leading digits of `number * 2 ^ place`, with `dropped` digits behind them.
Digits are dropped only where there is no room left. -/
structure Keeps (mantissa : HexMantissa) (number : Nat) (place : Int) (dropped : Nat) : Prop where
  scale : mantissa.scale = place + 4 * dropped
  lower : mantissa.bits * 16 ^ dropped ≤ number
  upper : number < (mantissa.bits + 1) * 16 ^ dropped
  room : mantissa.kept < capacity → dropped = 0
  kept_le : mantissa.kept ≤ capacity
  bits_lt : mantissa.bits < 16 ^ mantissa.kept
  leading : mantissa.kept ≠ 0 → 16 ^ mantissa.kept ≤ mantissa.bits * 16

theorem keeps_nothing : Keeps ⟨0, 0, 0⟩ 0 0 0 where
  scale := rfl
  lower := by decide
  upper := by decide
  room := fun _ => rfl
  kept_le := by decide
  bits_lt := by decide
  leading := fun nonzero => absurd rfl nonzero

/-- How far a digit moves the place of the last digit, in bits. -/
def digitWidth (inFraction : Bool) : Int := if inFraction then 4 else 0

section Push

variable {mantissa : HexMantissa} {digit : Nat} (inFraction : Bool)

theorem push_leadingZero (isZero : mantissa.bits = 0) :
    mantissa.push inFraction 0 =
      { mantissa with scale := mantissa.scale - digitWidth inFraction } := by
  rw [push, if_pos (by simp [isZero])]
  cases inFraction with
  | false => simp [digitWidth]
  | true => rfl

theorem push_of_lt (significant : ¬ (mantissa.bits = 0 ∧ digit = 0))
    (room : mantissa.kept < capacity) :
    mantissa.push inFraction digit =
      { bits := mantissa.bits * 16 + digit
        kept := mantissa.kept + 1
        scale := mantissa.scale - digitWidth inFraction } := by
  cases inFraction <;> simp [push, significant, room, digitWidth]

theorem push_of_full (significant : ¬ (mantissa.bits = 0 ∧ digit = 0))
    (full : ¬ mantissa.kept < capacity) :
    mantissa.push inFraction digit =
      { mantissa with scale := mantissa.scale - digitWidth inFraction + 4 } := by
  cases inFraction <;> simp [push, significant, full, digitWidth]

end Push

namespace Keeps

variable {mantissa : HexMantissa} {number : Nat} {place : Int} {dropped : Nat}

theorem kept_eq_zero (keeps : Keeps mantissa number place dropped) (isZero : mantissa.bits = 0) :
    mantissa.kept = 0 := by
  by_contra nonzero
  have leading := keeps.leading nonzero
  have positive : 0 < 16 ^ mantissa.kept := Nat.pow_pos (by decide)
  omega

theorem eq_bits (keeps : Keeps mantissa number place dropped) (none : dropped = 0) :
    number = mantissa.bits := by
  have lower := keeps.lower
  have upper := keeps.upper
  rw [none, Nat.pow_zero, Nat.mul_one] at lower upper
  omega

theorem dropped_eq_zero (keeps : Keeps mantissa number place dropped)
    (isZero : mantissa.bits = 0) : dropped = 0 :=
  keeps.room (by rw [keeps.kept_eq_zero isZero]; decide)

/-- One more digit is a leading zero, or is kept, or is dropped for want of room. -/
theorem push (keeps : Keeps mantissa number place dropped) {digit : Nat} (isDigit : digit < 16)
    (inFraction : Bool) :
    ∃ dropped, Keeps (mantissa.push inFraction digit) (number * 16 + digit)
      (place - digitWidth inFraction) dropped := by
  have scale := keeps.scale
  by_cases leadingZero : mantissa.bits = 0 ∧ digit = 0
  · obtain ⟨isZero, rfl⟩ := leadingZero
    have none := keeps.dropped_eq_zero isZero
    have isNumber : number * 16 + 0 = number := by
      rw [keeps.eq_bits none, isZero]
    rw [push_leadingZero inFraction isZero, isNumber]
    refine ⟨dropped, { keeps with scale := ?_ }⟩
    show mantissa.scale - _ = _
    omega
  by_cases room : mantissa.kept < capacity
  · have none := keeps.room room
    rw [push_of_lt inFraction leadingZero room, keeps.eq_bits none]
    refine ⟨0, ?_, ?_, ?_, fun _ => rfl, room, ?_, ?_⟩
    · show mantissa.scale - _ = _
      omega
    · simp
    · simp
    · have bits := keeps.bits_lt
      show mantissa.bits * 16 + digit < 16 ^ (mantissa.kept + 1)
      rw [Nat.pow_succ]
      omega
    · intro _
      show 16 ^ (mantissa.kept + 1) ≤ (mantissa.bits * 16 + digit) * 16
      by_cases first : mantissa.kept = 0
      · rw [first]
        omega
      · have leading := keeps.leading first
        rw [Nat.pow_succ]
        omega
  · rw [push_of_full inFraction leadingZero room]
    have lower := keeps.lower
    have upper := keeps.upper
    refine ⟨dropped + 1, ?_, ?_, ?_, fun hasRoom => absurd hasRoom room, keeps.kept_le,
      keeps.bits_lt, keeps.leading⟩
    · show mantissa.scale - _ + 4 = _
      push_cast
      omega
    · show mantissa.bits * 16 ^ (dropped + 1) ≤ _
      rw [Nat.pow_succ, ← Nat.mul_assoc]
      omega
    · show _ < (mantissa.bits + 1) * 16 ^ (dropped + 1)
      rw [Nat.pow_succ, ← Nat.mul_assoc]
      omega

/-- More digits, all before the point or all behind it. -/
theorem foldl (keeps : Keeps mantissa number place dropped) {digits : List Nat}
    (areDigits : ∀ digit ∈ digits, digit < 16) (inFraction : Bool) :
    ∃ dropped, Keeps (digits.foldl (HexMantissa.push inFraction) mantissa)
      (extend 16 number digits) (place - digits.length * digitWidth inFraction) dropped := by
  induction digits generalizing mantissa number place dropped with
  | nil => exact ⟨dropped, by simpa [extend] using keeps⟩
  | cons digit others inductionHypothesis =>
      obtain ⟨isDigit, areOthers⟩ := List.forall_mem_cons.1 areDigits
      obtain ⟨nextDropped, next⟩ := keeps.push isDigit inFraction
      obtain ⟨finalDropped, final⟩ := inductionHypothesis next areOthers
      refine ⟨finalDropped, ?_⟩
      have places : place - (digit :: others).length * digitWidth inFraction =
          place - digitWidth inFraction - others.length * digitWidth inFraction := by
        rw [List.length_cons]
        push_cast
        ring
      rw [places]
      exact final

end Keeps

/-- The mantissa of a literal keeps the leading digits of all its digits. -/
theorem exists_keeps {whole fraction : List Nat}
    (areDigits : ∀ digit ∈ whole ++ fraction, digit < 16) :
    ∃ dropped, Keeps (ofDigits whole fraction) (Text.ofDigits 16 (whole ++ fraction))
      (-4 * fraction.length) dropped := by
  obtain ⟨areWhole, areFraction⟩ := List.forall_mem_append.1 areDigits
  obtain ⟨_, keepsWhole⟩ := keeps_nothing.foldl areWhole false
  obtain ⟨dropped, keepsAll⟩ := keepsWhole.foldl areFraction true
  refine ⟨dropped, ?_⟩
  have isNumber : extend 16 (extend 16 0 whole) fraction = Text.ofDigits 16 (whole ++ fraction) :=
    List.foldl_append.symm
  have isPlace : (0 : Int) - whole.length * digitWidth false - fraction.length * digitWidth true =
      -4 * fraction.length := by
    show (0 : Int) - whole.length * 0 - fraction.length * 4 = _
    ring
  rw [isNumber, isPlace] at keepsAll
  exact keepsAll

/-! ## The limit of exponents -/

theorem scale_push (inFraction : Bool) (mantissa : HexMantissa) (digit : Nat) :
    mantissa.scale - 4 ≤ (mantissa.push inFraction digit).scale ∧
      (mantissa.push inFraction digit).scale ≤ mantissa.scale + 4 := by
  unfold push
  split_ifs <;> grind

theorem scale_foldl (inFraction : Bool) (mantissa : HexMantissa) (digits : List Nat) :
    mantissa.scale - 4 * digits.length ≤ (digits.foldl (push inFraction) mantissa).scale ∧
      (digits.foldl (push inFraction) mantissa).scale ≤ mantissa.scale + 4 * digits.length := by
  induction digits generalizing mantissa with
  | nil => simp
  | cons digit others inductionHypothesis =>
      have step := scale_push inFraction mantissa digit
      have run := inductionHypothesis (mantissa.push inFraction digit)
      rw [List.foldl_cons, List.length_cons]
      omega

/-- A digit moves the scale by four bits at most. -/
theorem scale_ofDigits (whole fraction : List Nat) :
    -(4 * (whole.length + fraction.length : Nat)) ≤ (ofDigits whole fraction).scale ∧
      (ofDigits whole fraction).scale ≤ 4 * (whole.length + fraction.length : Nat) := by
  have before := scale_foldl false ⟨0, 0, 0⟩ whole
  have behind := scale_foldl true (whole.foldl (push false) ⟨0, 0, 0⟩) fraction
  dsimp only at before
  unfold ofDigits
  omega

/-- Where the exponent is within its limit or the digits are few, the limit makes no difference, or
only one between numbers that are all too great or all too small for a double. -/
theorem totalScale_cases (mantissa : HexMantissa) (negative : Bool) (exponent : Nat)
    (inLimits : exponent ≤ 10000 ∨ (-8000 ≤ mantissa.scale ∧ mantissa.scale ≤ 8000)) :
    mantissa.totalScale negative exponent = mantissa.scale + withSign negative exponent ∨
      1024 ≤ mantissa.totalScale negative exponent ∨
      (mantissa.totalScale negative exponent ≤ -1200 ∧
        mantissa.scale + withSign negative exponent ≤ -1200) := by
  unfold totalScale withSign
  simp only [exponentLimit]
  split <;> omega

/-! ## Dropped digits -/

theorem Keeps.bits_lt_bound {mantissa : HexMantissa} {number : Nat} {place : Int} {dropped : Nat}
    (keeps : Keeps mantissa number place dropped) : mantissa.bits < unsignedBound := by
  have widest : 16 ^ mantissa.kept ≤ 16 ^ capacity :=
    Nat.pow_le_pow_right (by decide) keeps.kept_le
  exact lt_of_lt_of_le keeps.bits_lt widest

/-- No double, nor any multiple of one by a power of two, starts with the digits that are kept and
goes on with others that are dropped. -/
theorem Keeps.adjoins {mantissa : HexMantissa} {number : Nat} {place : Int} {dropped : Nat}
    (keeps : Keeps mantissa number place dropped) :
    Adjoins Format.double.shorts mantissa.bits (number / 16 ^ dropped) := by
  have power : (0 : ℚ) < 16 ^ dropped := by positivity
  have lower : (mantissa.bits : ℚ) ≤ number / 16 ^ dropped := by
    rw [le_div_iff₀ power]
    exact_mod_cast keeps.lower
  have upper : (number / 16 ^ dropped : ℚ) < mantissa.bits + 1 := by
    rw [div_lt_iff₀ power]
    exact_mod_cast keeps.upper
  rintro y ⟨multiple, short, exponent, rfl⟩ between
  rw [Set.uIcc_of_le lower] at between
  obtain ⟨above, below⟩ := between
  by_cases none : dropped = 0
  · -- nothing is dropped
    rw [keeps.eq_bits none, none, pow_zero, div_one] at below
    exact le_antisymm below above
  · -- otherwise sixteen digits are kept, and 53 bits of them are followed by zeros
    have isFull : mantissa.kept = capacity :=
      Nat.le_antisymm keeps.kept_le (not_lt.1 fun room => none (keeps.room room))
    have great : (2 : ℚ) ^ (60 : Int) ≤ mantissa.bits := by
      have leading := keeps.leading (by rw [isFull]; decide)
      rw [isFull] at leading
      exact_mod_cast (by simp only [capacity] at leading; omega : 2 ^ 60 ≤ mantissa.bits)
    have isShort : (multiple : ℚ) ≤ 2 ^ (53 : Int) := by
      exact_mod_cast short
    have whole : 0 ≤ exponent := by
      by_contra negative
      have small : (2 : ℚ) ^ exponent ≤ 1 := zpow_le_one_of_nonpos₀ one_le_two (by omega)
      have bound : (multiple * 2 ^ exponent : ℚ) ≤ 2 ^ (53 : Int) * 1 :=
        mul_le_mul isShort small (by positivity) (by positivity)
      have apart : (2 : ℚ) ^ (53 : Int) * 1 < 2 ^ (60 : Int) := by norm_num
      linarith
    obtain ⟨steps, rfl⟩ := Int.eq_ofNat_of_zero_le whole
    have isLess : (multiple * 2 ^ (steps : Int) : ℚ) < mantissa.bits + 1 := below.trans_lt upper
    rw [zpow_natCast] at above isLess ⊢
    have isLeast : mantissa.bits ≤ multiple * 2 ^ steps := by exact_mod_cast above
    have isGreatest : multiple * 2 ^ steps < mantissa.bits + 1 := by exact_mod_cast isLess
    exact_mod_cast (by omega : multiple * 2 ^ steps = mantissa.bits)

/-! ## Rounding and scaling -/

section Scaling

variable {mantissa : HexMantissa} {number : Nat} {place : Int} {dropped : Nat}

theorem Keeps.number_mul_eq (keeps : Keeps mantissa number place dropped) (power : Int) :
    (number * 2 ^ (place + power) : ℚ) =
      number / 16 ^ dropped * 2 ^ (mantissa.scale + power) := by
  have digits : (2 : ℚ) ^ (4 * dropped : Int) = 16 ^ dropped := by
    rw [zpow_mul, zpow_natCast]
    norm_num
  rw [keeps.scale, show place + 4 * dropped + power = 4 * dropped + (place + power) by ring,
    zpow_add₀ two_ne_zero (4 * dropped : Int), digits]
  field_simp

/-- A number whose scaling is finite is not scaled by much. -/
theorem lt_of_isFinite_scale {x : Binary64} (one_le : 1 ≤ x.magnitude) {total : Int}
    (finite : (x.scale total).isFinite = true) : total < 1024 := by
  have limit := Binary.lt_infinity_of_adjoins finite (.of_nearest (Binary.nearest_scale finite))
  rw [Format.magnitude_infinityCode_double] at limit
  have unscaled : (2 : ℚ) ^ total ≤ x.magnitude * 2 ^ total :=
    le_mul_of_one_le_left (by positivity) one_le
  exact (zpow_lt_zpow_iff_right₀ one_lt_two).1 (unscaled.trans_lt limit)

/-- A number of 64 bits vanishes when it is scaled down by far. -/
theorem mul_two_pow_lt {x : ℚ} (small : x ≤ 2 ^ (64 : Int)) {total : Int} (low : total ≤ -1200) :
    2 * (x * 2 ^ total) < 2 ^ Format.double.minExponent := by
  calc 2 * (x * 2 ^ total) ≤ 2 * (2 ^ (64 : Int) * 2 ^ total) := by gcongr
    _ = 2 ^ (1 + (64 + total) : Int) := by
        rw [zpow_one_add₀ two_ne_zero, zpow_add₀ two_ne_zero]
    _ < 2 ^ Format.double.minExponent := by
        rw [show Format.double.minExponent = -1074 from rfl]
        exact zpow_lt_zpow_right₀ one_lt_two (by omega)

/-- The leading bits are rounded and scaled, and the result is next to the number that all digits
denote. -/
theorem Keeps.adjoins_scale (keeps : Keeps mantissa number place dropped)
    (nonzero : mantissa.bits ≠ 0) {power total : Int}
    (inLimits : total = mantissa.scale + power ∨ 1024 ≤ total ∨
      (total ≤ -1200 ∧ mantissa.scale + power ≤ -1200))
    (finite : ((Binary.ofInt mantissa.bits : Binary64).scale total).isFinite = true) :
    Adjoins Format.double.magnitudes
      ((Binary.ofInt mantissa.bits : Binary64).scale total).magnitude
      (number * 2 ^ (place + power)) := by
  have below := keeps.bits_lt_bound
  have rounded := Binary.adjoins_ofInt (Nat.pos_of_ne_zero nonzero) below
  have nearest := Binary.nearest_scale finite
  rw [keeps.number_mul_eq]
  rcases inLimits with rfl | tooGreat | ⟨low, lowNumber⟩
  · -- the number, its leading bits, their rounding and the scaled rounding follow each other
    have leading := (rounded.trans keeps.adjoins).scale (mantissa.scale + power)
    exact (Adjoins.of_nearest nearest).trans
      (leading.mono Format.double.magnitudes_subset_shorts)
  · have one_le : 1 ≤ (Binary.ofInt mantissa.bits : Binary64).magnitude := by
      apply rounded.le_of_le
      · simpa using Format.double.two_pow_mem_shorts 0
      · exact_mod_cast Nat.pos_of_ne_zero nonzero
    exact absurd (lt_of_isFinite_scale one_le finite) (not_lt.2 tooGreat)
  · -- both are next to nothing
    have small : (Binary.ofInt mantissa.bits : Binary64).magnitude ≤ 2 ^ (64 : Int) := by
      apply rounded.ge_of_ge (Format.double.two_pow_mem_shorts 64)
      exact_mod_cast below.le
    have smallNumber : (number / 16 ^ dropped : ℚ) ≤ 2 ^ (64 : Int) := by
      rw [div_le_iff₀ (by positivity)]
      have upper : number ≤ 2 ^ 64 * 16 ^ dropped :=
        keeps.upper.le.trans (Nat.mul_le_mul_right _ below)
      exact_mod_cast upper
    have isZero := Binary.magnitude_eq_zero_of_nearest
      (mul_nonneg (Binary.magnitude_nonneg _) (by positivity)) (mul_two_pow_lt small low) nearest
    rw [isZero]
    refine Adjoins.zero (by positivity) ?_
    have vanishes := mul_two_pow_lt smallNumber lowNumber
    have nonnegative : (0 : ℚ) ≤ number / 16 ^ dropped * 2 ^ (mantissa.scale + power) := by
      positivity
    linarith

end Scaling

end HexMantissa

end RecordTags.Number
