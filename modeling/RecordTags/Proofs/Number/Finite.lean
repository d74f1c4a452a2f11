import Mathlib.Tactic.SplitIfs
import RecordTags.Number.Readings

/-!
Contract: every double that a numeral is read as is finite.

Owns:
- that rounding takes no whole number of 64 bits out of the range of doubles;
- that the readings of a text have no other doubles than such conversions and
  the ones that floating-point literals are read as, which are checked.
-/

namespace RecordTags

namespace Binary

theorem divideToEven_le (numerator denominator : Nat) :
    divideToEven numerator denominator ≤ numerator / denominator + 1 := by
  unfold divideToEven
  dsimp only
  split_ifs <;> omega

theorem ratioLog2_one {n : Nat} (nonzero : n ≠ 0) : ratioLog2 n 1 = n.log2 := by
  have guess : (n.log2 : Int) - (Nat.log2 1 : Nat) = n.log2 := by
    rw [show Nat.log2 1 = 0 by decide]
    omega
  have reached : 1 * Nat.pow 2 (n.log2 : Int).toNat ≤ n * Nat.pow 2 (-(n.log2 : Int)).toNat := by
    have noPower : (-(n.log2 : Int)).toNat = 0 := by omega
    rw [noPower, Int.toNat_natCast, Nat.one_mul]
    exact Nat.le_trans (Nat.log2_self_le nonzero) (Nat.le_mul_of_pos_right n (by decide))
  unfold ratioLog2
  rw [guess]
  exact if_pos reached

/-- A whole number is less than two to the power of 53 on the grid that it is rounded on. -/
theorem div_grid_lt {n : Nat} {grid : Int} (isGrid : grid = (n.log2 : Int) - 52) :
    n * Nat.pow 2 (-grid).toNat / (1 * Nat.pow 2 grid.toNat) < Nat.pow 2 53 := by
  have below : n < 2 ^ (n.log2 + 1) := Nat.lt_log2_self
  have places : n.log2 + 1 + (-grid).toNat = 53 + grid.toNat := by omega
  rw [Nat.one_mul]
  apply Nat.div_lt_of_lt_mul
  calc n * 2 ^ (-grid).toNat
      < 2 ^ (n.log2 + 1) * 2 ^ (-grid).toNat :=
        Nat.mul_lt_mul_of_pos_right below (Nat.two_pow_pos _)
    _ = 2 ^ grid.toNat * 2 ^ 53 := by rw [← Nat.pow_add, places, Nat.add_comm, Nat.pow_add]

/-- Whole numbers of 64 bits are in the range of doubles. -/
theorem isFinite_ofInt {n : Int} (small : n.natAbs < Number.unsignedBound) :
    (ofInt n : Binary64).isFinite = true := by
  have least : Format.double.minExponent = -1074 := by decide
  have bound : nearestCode .double n.natAbs 1 < Format.double.infinityCode := by
    unfold nearestCode
    split_ifs with isZero
    · decide
    · have logarithm : n.natAbs.log2 < 64 := (Nat.log2_lt isZero).2 small
      have isGrid : gridExponent .double n.natAbs 1 = (n.natAbs.log2 : Int) - 52 := by
        have places : (Format.double.precision - 1 : Nat) = 52 := by decide
        rw [gridExponent, ratioLog2_one isZero, least, places]
        omega
      -- at most 1085 binades below, and on the grid at most two more
      have binades :
          (gridExponent .double n.natAbs 1 - Format.double.minExponent).toNat ≤ 1085 := by
        rw [isGrid, least]
        omega
      have onGrid := Nat.le_trans (divideToEven_le _ _) (Nat.succ_le_of_lt (div_grid_lt isGrid))
      refine Nat.lt_of_le_of_lt (Nat.min_le_right _ _) ?_
      refine Nat.lt_of_le_of_lt (Nat.add_le_add (Nat.mul_le_mul_right _ binades) onGrid) ?_
      decide
  exact decide_eq_true bound

end Binary

namespace Number

/-- Reading digits stays in the range of 64 bits. -/
theorem lt_of_readDigits {base total value : Nat} {text : List Char} (below : total < unsignedBound)
    (read : readDigits base total text = .ok value) : value < unsignedBound := by
  fun_induction readDigits base total text with
  | case1 =>
      cases read
      exact below
  | case2 total c rest isUnderscore inductionHypothesis => exact inductionHypothesis below read
  | case3 => contradiction
  | case4 total c rest notUnderscore digit isDigit next inductionHypothesis =>
      exact inductionHypothesis next read
  | case5 => contradiction

theorem lt_of_readUnsigned {text : List Char} {value : Nat}
    (read : readUnsigned text = .ok value) : value < unsignedBound := by
  unfold readUnsigned at read
  split at read
  next => contradiction
  next c rest =>
    dsimp only at read
    split at read
    next => contradiction
    next found digits =>
      split_ifs at read
      cases read
      exact lt_of_readDigits (by decide) digits

theorem natAbs_lt_of_readSigned {text : List Char} {n : Int} (read : readSigned text = .ok n) :
    n.natAbs < unsignedBound := by
  have bounds : signedBound < unsignedBound := by decide
  unfold readSigned at read
  dsimp only at read
  split at read
  next => contradiction
  next magnitude _ =>
    split_ifs at read
    · cases read
      omega
    · cases read
      omega

/-- Only finite doubles are readings. -/
theorem isFinite_of_readFloat? {text : List Char} {x : Binary64}
    (read : readFloat? text = some x) : x.isFinite = true := by
  unfold readFloat? at read
  split at read
  split at read
  next => contradiction
  next =>
    split at read
    next => contradiction
    next magnitude _ =>
      split at read
      next finite =>
        cases read
        split <;> exact finite
      next => contradiction

end Number

/-- The double that a text is read as is finite. -/
theorem Readings.isFinite_of_ofText {text : List Char} {readings : Readings}
    (read : ofText text = .ok readings) {x : Binary64} (isFloat : readings.float = some x) :
    x.isFinite = true := by
  unfold ofText at read
  split at read
  next n unsigned signed =>
    cases read
    cases isFloat
    exact Binary.isFinite_ofInt (Number.natAbs_lt_of_readSigned signed)
  next n _ unsigned =>
    cases read
    cases isFloat
    exact Binary.isFinite_ofInt (Number.lt_of_readUnsigned unsigned)
  next =>
    unfold ofFloatText at read
    split at read
    next => contradiction
    next y isRead =>
      split_ifs at read
      cases read
      cases isFloat
      exact Number.isFinite_of_readFloat? isRead

end RecordTags
