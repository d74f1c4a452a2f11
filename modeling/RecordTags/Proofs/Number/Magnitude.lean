import Mathlib.Algebra.Order.Field.Power
import Mathlib.Data.Rat.Cast.Order
import Mathlib.Order.Monotone.Basic
import Mathlib.Tactic.Linarith
import Mathlib.Tactic.Positivity
import Mathlib.Tactic.Ring
import RecordTags.Binary

/-!
Contract: the codes of floating-point numbers are in the order of magnitudes.

Owns:
- `Binary.magnitude` and `Binary.value`, a finite number as a rational number;
- the magnitude that a code stands for, and that it grows with the code: inside
  a binade by one place of the last bit, and from one binade to the next;
- which finite numbers are whole numbers.

Does not own: the magnitude of what is not finite, which has none.
-/

namespace RecordTags

/-- A power with a whole exponent is a quotient of two powers, one of which is one. -/
theorem pow_toNat_div_pow_toNat {base : Nat} (positive : 0 < base) (exponent : Int) :
    (Nat.pow base exponent.toNat : ℚ) / (Nat.pow base (-exponent).toNat : ℚ) =
      (base : ℚ) ^ exponent := by
  have nonzero : (base : ℚ) ≠ 0 := Nat.cast_ne_zero.2 positive.ne'
  have split : (base : ℚ) ^ exponent =
      base ^ (exponent.toNat : Int) / base ^ ((-exponent).toNat : Int) := by
    rw [← zpow_sub₀ nonzero]
    congr 1
    omega
  rw [split, zpow_natCast, zpow_natCast, Nat.pow_eq, Nat.pow_eq, Nat.cast_pow, Nat.cast_pow]

namespace Format

/-- The magnitude that a code stands for: a subnormal number below the first full binade, and in
each binade the numbers that share its last place. -/
def magnitude (format : Format) (code : Nat) : ℚ :=
  if code < format.binade then code * 2 ^ format.minExponent
  else
    (format.binade + code % format.binade : Nat) *
      2 ^ (format.minExponent + (code / format.binade - 1 : Nat))

theorem binade_pos (format : Format) : 0 < format.binade := Nat.two_pow_pos _

theorem magnitude_of_lt {format : Format} {code : Nat} (subnormal : code < format.binade) :
    format.magnitude code = code * 2 ^ format.minExponent := if_pos subnormal

/-- The magnitude of the code with an offset in a full binade. -/
theorem magnitude_of_binade (format : Format) (index : Nat) {offset : Nat}
    (inside : offset < format.binade) :
    format.magnitude (format.binade * (index + 1) + offset) =
      (format.binade + offset : ℚ) * 2 ^ (format.minExponent + index) := by
  have normal : ¬ format.binade * (index + 1) + offset < format.binade := by
    have first : format.binade * 1 ≤ format.binade * (index + 1) :=
      Nat.mul_le_mul_left _ (Nat.le_add_left 1 index)
    omega
  rw [magnitude, if_neg normal, Nat.mul_add_mod, Nat.mod_eq_of_lt inside,
    Nat.mul_add_div format.binade_pos, Nat.div_eq_of_lt inside]
  push_cast
  rfl

/-- Magnitudes ascend with their codes, also from one binade to the next. -/
theorem magnitude_lt_succ (format : Format) (code : Nat) :
    format.magnitude code < format.magnitude (code + 1) := by
  have positive := format.binade_pos
  have unit : (0 : ℚ) < 2 ^ format.minExponent := by positivity
  by_cases subnormal : code < format.binade
  · rw [magnitude_of_lt subnormal]
    rcases Nat.lt_or_eq_of_le (Nat.succ_le_of_lt subnormal) with next | next
    · rw [magnitude_of_lt next]
      push_cast
      linarith
    · -- the first number of the first full binade
      have start := format.magnitude_of_binade 0 positive
      have isLast : (code : ℚ) < format.binade := Nat.cast_lt.2 subnormal
      simp only [Nat.zero_add, Nat.mul_one, Nat.cast_zero, add_zero] at start
      rw [show code + 1 = format.binade from next, start]
      exact mul_lt_mul_of_pos_right isLast unit
  · obtain ⟨index, offset, inside, rfl⟩ :
        ∃ index offset, offset < format.binade ∧
          code = format.binade * (index + 1) + offset := by
      have full : 0 < code / format.binade := Nat.div_pos (Nat.le_of_not_lt subnormal) positive
      refine ⟨code / format.binade - 1, code % format.binade, Nat.mod_lt _ positive, ?_⟩
      rw [Nat.sub_add_cancel full, Nat.div_add_mod]
    have place : (0 : ℚ) < 2 ^ (format.minExponent + index) := by positivity
    rw [magnitude_of_binade _ _ inside]
    rcases Nat.lt_or_eq_of_le (Nat.succ_le_of_lt inside) with next | next
    · rw [Nat.add_assoc, magnitude_of_binade _ _ next]
      push_cast
      linarith
    · -- the last place of the next binade is twice as great
      have behind : format.binade * (index + 1) + offset + 1 =
          format.binade * (index + 1 + 1) + 0 := by
        rw [Nat.add_assoc, Nat.mul_add_one _ (index + 1)]
        omega
      have doubled : (2 : ℚ) ^ (format.minExponent + (index + 1 : Nat)) =
          2 * 2 ^ (format.minExponent + index) := by
        rw [Nat.cast_add_one, ← add_assoc, zpow_add_one₀ two_ne_zero]
        ring
      rw [behind, magnitude_of_binade _ _ positive, doubled, ← next]
      push_cast
      linarith

theorem magnitude_strictMono (format : Format) : StrictMono format.magnitude :=
  strictMono_nat_of_lt_succ format.magnitude_lt_succ

end Format

namespace Binary

variable {format : Format}

def magnitude (x : Binary format) : ℚ := x.numerator / x.denominator

theorem magnitude_eq_significand_mul (x : Binary format) :
    x.magnitude = x.significand * 2 ^ x.exponent := by
  rw [magnitude, numerator, denominator, Nat.cast_mul, mul_div_assoc,
    pow_toNat_div_pow_toNat two_pos, Nat.cast_two]

theorem magnitude_eq (x : Binary format) : x.magnitude = format.magnitude x.code := by
  rw [magnitude_eq_significand_mul, significand, exponent, Format.magnitude]
  split
  next subnormal =>
    rw [Nat.div_eq_of_lt subnormal]
    simp
  next => rfl

/-- Numbers of one format are in the order of their codes. -/
theorem magnitude_lt_iff {x y : Binary format} : x.magnitude < y.magnitude ↔ x.code < y.code := by
  rw [magnitude_eq, magnitude_eq]
  exact format.magnitude_strictMono.lt_iff_lt

theorem denominator_pos (x : Binary format) : 0 < x.denominator := Nat.two_pow_pos _

theorem magnitude_nonneg (x : Binary format) : 0 ≤ x.magnitude := by
  unfold magnitude
  positivity

/-- A finite number. The two zeros have one value. -/
def value (x : Binary format) : ℚ := if x.negative then -x.magnitude else x.magnitude

theorem abs_value (x : Binary format) : |x.value| = x.magnitude := by
  unfold value
  split
  · rw [abs_neg, abs_of_nonneg x.magnitude_nonneg]
  · exact abs_of_nonneg x.magnitude_nonneg

theorem value_of_not_negative {x : Binary format} (positive : x.negative = false) :
    x.value = x.magnitude := by
  rw [value, positive]
  rfl

theorem value_neg (x : Binary format) : x.neg.value = -x.value := by
  have same : x.neg.magnitude = x.magnitude := rfl
  rw [value, value, same, neg]
  cases x.negative <;> simp

theorem magnitude_eq_natCast_iff {x : Binary format} {n : Nat} :
    x.magnitude = n ↔ x.numerator = n * x.denominator := by
  have nonzero : (x.denominator : ℚ) ≠ 0 := Nat.cast_ne_zero.2 x.denominator_pos.ne'
  rw [magnitude, div_eq_iff nonzero]
  exact_mod_cast Iff.rfl

/-- A number is read as the whole number that it is, and as none if it is not one. -/
theorem toInt?_eq_some_iff {x : Binary format} {n : Int} :
    x.toInt? = some n ↔ x.isFinite = true ∧ x.value = n := by
  unfold toInt?
  constructor
  · intro found
    split at found
    next isWhole =>
      obtain ⟨finite, noRemainder⟩ : x.isFinite = true ∧ x.numerator % x.denominator = 0 := by
        simpa using isWhole
      have quotient : x.magnitude = (x.numerator / x.denominator : Nat) :=
        magnitude_eq_natCast_iff.2
          (Nat.div_mul_cancel (Nat.dvd_of_mod_eq_zero noRemainder)).symm
      cases found
      refine ⟨finite, ?_⟩
      rw [value, quotient]
      push_cast
      rfl
    next => contradiction
  · rintro ⟨finite, isValue⟩
    have absolute : x.magnitude = n.natAbs := by
      rw [← abs_value, isValue, Nat.cast_natAbs, Int.cast_abs]
    have product := magnitude_eq_natCast_iff.1 absolute
    rw [value, absolute, Nat.cast_natAbs] at isValue
    rw [product, Nat.mul_mod_left, Nat.mul_div_cancel _ x.denominator_pos, finite]
    simp only [beq_self_eq_true, Bool.and_self, if_true, Option.some.injEq]
    split_ifs at isValue ⊢
    · exact_mod_cast isValue
    · exact_mod_cast isValue

end Binary

end RecordTags
