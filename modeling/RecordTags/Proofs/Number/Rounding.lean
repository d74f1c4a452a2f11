import Mathlib.Tactic.FieldSimp
import RecordTags.Proofs.Number.Finite
import RecordTags.Proofs.Number.Magnitude

/-!
Contract: rounding a ratio finds a nearest number.

Owns:
- the grid on which a ratio is rounded: its two neighbours there, and that no
  number of the format lies strictly between them;
- that the code of a ratio is the code of a nearest number, also among numbers
  whose exponents are outside the range of the format, where the ratio is not
  below that range itself;
- `Adjoins`, that no number of a set separates a number from another one, which
  unlike being nearest is kept when one rounding follows another.

Does not own: which of two nearest numbers is chosen, and the signs.

## Short numbers

The significand of every number of a format is at most `2 * binade`. Numbers
with such a significand and any exponent are closed under scaling by powers of
two, which the numbers of the format are not. Hence the second clause above: it
is what remains true of a rounding that is scaled afterwards.
-/

namespace RecordTags

namespace Format

variable (format : Format)

theorem binade_eq_two_pow : (format.binade : ℚ) = 2 ^ (format.precision - 1 : Nat) := by
  rw [binade, Nat.pow_eq, Nat.cast_pow, Nat.cast_two]

theorem magnitude_zero : format.magnitude 0 = 0 := by
  rw [magnitude_of_lt format.binade_pos, Nat.cast_zero, zero_mul]

/-- The codes of a binade and the first one behind it stand for the multiples of its last place.
The subnormal numbers share the last place of the first binade. -/
theorem magnitude_of_multiple (index : Nat) {multiple : Nat} (short : multiple ≤ 2 * format.binade)
    (full : index ≠ 0 → format.binade ≤ multiple) :
    format.magnitude (index * format.binade + multiple) =
      multiple * 2 ^ (format.minExponent + index) := by
  rcases Nat.lt_or_ge multiple format.binade with below | above
  · have first : index = 0 := by
      by_contra later
      exact absurd (full later) (Nat.not_le.2 below)
    subst first
    rw [Nat.zero_mul, Nat.zero_add, magnitude_of_lt below, Nat.cast_zero, add_zero]
  · obtain ⟨offset, rfl⟩ := Nat.exists_eq_add_of_le above
    rcases Nat.lt_or_eq_of_le (show offset ≤ format.binade by omega) with inside | last
    · have code : index * format.binade + (format.binade + offset) =
          format.binade * (index + 1) + offset := by ring
      rw [code, magnitude_of_binade _ _ inside, Nat.cast_add]
    · have code : index * format.binade + (format.binade + offset) =
          format.binade * (index + 1 + 1) + 0 := by
        rw [last]
        ring
      rw [code, magnitude_of_binade _ _ format.binade_pos, last]
      push_cast
      rw [← add_assoc, zpow_add_one₀ two_ne_zero]
      ring

/-- The magnitudes of a format are short. -/
theorem exists_short_magnitude (code : Nat) :
    ∃ multiple ≤ 2 * format.binade, ∃ exponent ≥ format.minExponent,
      format.magnitude code = multiple * 2 ^ exponent := by
  have positive := format.binade_pos
  unfold magnitude
  split
  next subnormal => exact ⟨code, by omega, _, le_refl _, rfl⟩
  next =>
    have offset := Nat.mod_lt code positive
    exact ⟨_, by omega, _, by omega, rfl⟩

end Format

namespace Binary

/-! ## The grid of a ratio -/

theorem divideToEven_cases (numerator denominator : Nat) :
    (divideToEven numerator denominator = numerator / denominator ∧
        2 * (numerator % denominator) ≤ denominator) ∨
      (divideToEven numerator denominator = numerator / denominator + 1 ∧
        denominator ≤ 2 * (numerator % denominator)) := by
  unfold divideToEven
  dsimp only
  split_ifs with down up even
  · exact .inl ⟨rfl, down.le⟩
  · exact .inr ⟨rfl, up.le⟩
  · exact .inl ⟨rfl, Nat.le_of_not_lt up⟩
  · exact .inr ⟨rfl, Nat.le_of_not_lt down⟩

/-- A quotient lies between two whole numbers, and is rounded to the nearer one. -/
theorem divideToEven_between (numerator : Nat) {denominator : Nat} (positive : 0 < denominator) :
    ∃ floor : Nat, (floor : ℚ) ≤ numerator / denominator ∧
      (numerator / denominator : ℚ) < floor + 1 ∧
      ((divideToEven numerator denominator = floor ∧
          (numerator / denominator : ℚ) - floor ≤ floor + 1 - numerator / denominator) ∨
        (divideToEven numerator denominator = floor + 1 ∧
          floor + 1 - (numerator / denominator : ℚ) ≤ numerator / denominator - floor)) := by
  have denominatorPos : (0 : ℚ) < denominator := Nat.cast_pos.2 positive
  have quotient : (numerator / denominator : ℚ) =
      (numerator / denominator : Nat) + (numerator % denominator : Nat) / denominator := by
    have division : (denominator * (numerator / denominator : Nat) +
        (numerator % denominator : Nat) : ℚ) = numerator := by
      exact_mod_cast Nat.div_add_mod numerator denominator
    field_simp
    linarith
  have remainder : ((numerator % denominator : Nat) / denominator : ℚ) < 1 :=
    (div_lt_one denominatorPos).2 (Nat.cast_lt.2 (Nat.mod_lt numerator positive))
  have nonnegative : (0 : ℚ) ≤ (numerator % denominator : Nat) / denominator := by positivity
  refine ⟨numerator / denominator, by linarith, by linarith, ?_⟩
  rcases divideToEven_cases numerator denominator with ⟨isFloor, small⟩ | ⟨isCeiling, large⟩
  · have half : ((numerator % denominator : Nat) / denominator : ℚ) ≤ 1 / 2 := by
      rw [div_le_div_iff₀ denominatorPos two_pos]
      exact_mod_cast (by omega : numerator % denominator * 2 ≤ 1 * denominator)
    exact .inl ⟨isFloor, by linarith⟩
  · have half : (1 / 2 : ℚ) ≤ (numerator % denominator : Nat) / denominator := by
      rw [div_le_div_iff₀ two_pos denominatorPos]
      exact_mod_cast (by omega : 1 * denominator ≤ numerator % denominator * 2)
    exact .inr ⟨isCeiling, by linarith⟩

section Ratio

variable {numerator denominator : Nat} (numeratorPos : 0 < numerator)
  (denominatorPos : 0 < denominator)

/-- A ratio in units of a power of two. -/
theorem scaled_div_scaled (numerator denominator : Nat) (exponent : Int) :
    ((numerator * Nat.pow 2 (-exponent).toNat : Nat) : ℚ) /
        (denominator * Nat.pow 2 exponent.toNat : Nat) =
      numerator / denominator / 2 ^ exponent := by
  have power := pow_toNat_div_pow_toNat two_pos (-exponent)
  rw [neg_neg, Nat.cast_two, zpow_neg] at power
  rw [Nat.cast_mul, Nat.cast_mul, mul_div_mul_comm, power, div_eq_mul_inv _ ((2 : ℚ) ^ exponent)]

include denominatorPos in
theorem scaled_le_scaled_iff (exponent : Int) :
    denominator * Nat.pow 2 exponent.toNat ≤ numerator * Nat.pow 2 (-exponent).toNat ↔
      (2 : ℚ) ^ exponent ≤ numerator / denominator := by
  have scaledPos : (0 : ℚ) < (denominator * Nat.pow 2 exponent.toNat : Nat) :=
    Nat.cast_pos.2 (Nat.mul_pos denominatorPos (Nat.two_pow_pos _))
  have unit : (0 : ℚ) < 2 ^ exponent := by positivity
  rw [← one_le_div unit, ← scaled_div_scaled, one_le_div scaledPos, Nat.cast_le]

include numeratorPos denominatorPos in
/-- The greatest power of two that does not exceed a ratio. -/
theorem ratioLog2_spec :
    (2 : ℚ) ^ ratioLog2 numerator denominator ≤ numerator / denominator ∧
      (numerator / denominator : ℚ) < 2 ^ (ratioLog2 numerator denominator + 1) := by
  have numeratorLower : (2 : ℚ) ^ (numerator.log2 : Int) ≤ numerator := by
    exact_mod_cast Nat.log2_self_le numeratorPos.ne'
  have numeratorUpper : (numerator : ℚ) < 2 ^ (numerator.log2 + 1 : Int) := by
    exact_mod_cast (Nat.lt_log2_self : numerator < 2 ^ (numerator.log2 + 1))
  have denominatorLower : (2 : ℚ) ^ (denominator.log2 : Int) ≤ denominator := by
    exact_mod_cast Nat.log2_self_le denominatorPos.ne'
  have denominatorUpper : (denominator : ℚ) < 2 ^ (denominator.log2 + 1 : Int) := by
    exact_mod_cast (Nat.lt_log2_self : denominator < 2 ^ (denominator.log2 + 1))
  have denominatorRat : (0 : ℚ) < denominator := Nat.cast_pos.2 denominatorPos
  -- the guess is never too small, and at most one too great
  have upper : (numerator / denominator : ℚ) <
      2 ^ ((numerator.log2 : Int) - denominator.log2 + 1) := by
    rw [div_lt_iff₀ denominatorRat]
    calc (numerator : ℚ) < 2 ^ (numerator.log2 + 1 : Int) := numeratorUpper
      _ = 2 ^ ((numerator.log2 : Int) - denominator.log2 + 1) * 2 ^ (denominator.log2 : Int) := by
          rw [← zpow_add₀ two_ne_zero]
          congr 1
          ring
      _ ≤ _ := mul_le_mul_of_nonneg_left denominatorLower (by positivity)
  have lower : (2 : ℚ) ^ ((numerator.log2 : Int) - denominator.log2 - 1) ≤
      numerator / denominator := by
    rw [le_div_iff₀ denominatorRat]
    calc (2 : ℚ) ^ ((numerator.log2 : Int) - denominator.log2 - 1) * denominator
        ≤ 2 ^ ((numerator.log2 : Int) - denominator.log2 - 1) * 2 ^ (denominator.log2 + 1 : Int) :=
          mul_le_mul_of_nonneg_left denominatorUpper.le (by positivity)
      _ = 2 ^ (numerator.log2 : Int) := by
          rw [← zpow_add₀ two_ne_zero]
          congr 1
          ring
      _ ≤ numerator := numeratorLower
  unfold ratioLog2
  dsimp only
  split
  next reached => exact ⟨(scaled_le_scaled_iff denominatorPos _).1 reached, upper⟩
  next missed =>
    rw [scaled_le_scaled_iff denominatorPos, not_le] at missed
    exact ⟨lower, by rwa [sub_add_cancel]⟩

end Ratio

/-! ## Neighbours on the grid -/

/-- Two neighbouring multiples of a power of two around a ratio. Above the least exponent the grid
is as coarse as the significand allows. -/
structure Brackets (format : Format) (ratio : ℚ) (grid : Int) (floor : Nat) : Prop where
  least : format.minExponent ≤ grid
  lower : floor * 2 ^ grid ≤ ratio
  upper : ratio < (floor + 1) * 2 ^ grid
  short : floor < 2 * format.binade
  full : format.minExponent < grid → format.binade ≤ floor

namespace Brackets

variable {format : Format} {ratio : ℚ} {grid : Int} {floor : Nat}

/-- The code of a multiple of the grid. -/
def code (format : Format) (grid : Int) (multiple : Nat) : Nat :=
  (grid - format.minExponent).toNat * format.binade + multiple

/-- The code of either bracket has it for its magnitude. -/
theorem magnitude_code (brackets : Brackets format ratio grid floor) {multiple : Nat}
    (lower : floor ≤ multiple) (upper : multiple ≤ floor + 1) :
    format.magnitude (code format grid multiple) = multiple * 2 ^ grid := by
  have least := brackets.least
  have short := brackets.short
  have full : (grid - format.minExponent).toNat ≠ 0 → format.binade ≤ multiple := by
    intro later
    exact Nat.le_trans (brackets.full (by omega)) lower
  rw [code, format.magnitude_of_multiple _ (by omega) full]
  congr 2
  omega

/-- No short number lies strictly between the neighbours, as long as its exponent or the ratio is
in the range of the format. -/
theorem gap (brackets : Brackets format ratio grid floor) {multiple : Nat} {exponent : Int}
    (short : multiple ≤ 2 * format.binade)
    (inRange : format.minExponent ≤ exponent ∨ format.binade * 2 ^ format.minExponent ≤ ratio) :
    (multiple * 2 ^ exponent : ℚ) ≤ floor * 2 ^ grid ∨
      ((floor + 1) * 2 ^ grid : ℚ) ≤ multiple * 2 ^ exponent := by
  have unit : (0 : ℚ) < 2 ^ grid := by positivity
  by_cases coarse : grid ≤ exponent
  · -- a multiple of the grid
    obtain ⟨steps, isExponent⟩ := Int.exists_add_of_le coarse
    have onGrid : (multiple * 2 ^ exponent : ℚ) = (multiple * 2 ^ steps : Nat) * 2 ^ grid := by
      rw [isExponent, zpow_add₀ two_ne_zero, zpow_natCast]
      push_cast
      ring
    rw [onGrid]
    rcases Nat.lt_or_ge floor (multiple * 2 ^ steps) with above | below
    · exact .inr (mul_le_mul_of_nonneg_right (by exact_mod_cast above) unit.le)
    · exact .inl (mul_le_mul_of_nonneg_right (Nat.cast_le.2 below) unit.le)
  · -- below the multiples that the significand is long enough for
    have isFull : format.binade ≤ floor := by
      by_cases isLeast : format.minExponent < grid
      · exact brackets.full isLeast
      · have same : grid = format.minExponent := le_antisymm (not_lt.1 isLeast) brackets.least
        have normal := inRange.resolve_left (by omega)
        have above : (format.binade : ℚ) * 2 ^ grid < (floor + 1) * 2 ^ grid :=
          lt_of_le_of_lt (by rwa [same]) brackets.upper
        have bound := lt_of_mul_lt_mul_right above unit.le
        exact Nat.le_of_lt_succ (by exact_mod_cast bound)
    have finer : (2 : ℚ) ^ (exponent + 1) ≤ 2 ^ grid :=
      zpow_le_zpow_right₀ one_le_two (by omega)
    have place : (0 : ℚ) < 2 ^ exponent := by positivity
    left
    calc (multiple * 2 ^ exponent : ℚ) ≤ (2 * format.binade : Nat) * 2 ^ exponent :=
          mul_le_mul_of_nonneg_right (Nat.cast_le.2 short) place.le
      _ = format.binade * 2 ^ (exponent + 1) := by
          rw [zpow_add_one₀ two_ne_zero]
          push_cast
          ring
      _ ≤ floor * 2 ^ grid :=
          mul_le_mul (Nat.cast_le.2 isFull) finer (by positivity) (by positivity)

end Brackets

/-- The grid of a ratio has neighbours around it, and the code of the ratio is the one of the
nearer neighbour. -/
theorem exists_brackets (format : Format) {numerator denominator : Nat}
    (numeratorPos : 0 < numerator) (denominatorPos : 0 < denominator) :
    ∃ grid floor, Brackets format (numerator / denominator) grid floor ∧
      ((nearestCode format numerator denominator =
            min format.infinityCode (Brackets.code format grid floor) ∧
          (numerator / denominator : ℚ) - floor * 2 ^ grid ≤
            (floor + 1) * 2 ^ grid - numerator / denominator) ∨
        (nearestCode format numerator denominator =
            min format.infinityCode (Brackets.code format grid (floor + 1)) ∧
          ((floor + 1) * 2 ^ grid : ℚ) - numerator / denominator ≤
            numerator / denominator - floor * 2 ^ grid)) := by
  obtain ⟨logLower, logUpper⟩ := ratioLog2_spec numeratorPos denominatorPos
  have isGrid : gridExponent format numerator denominator = max format.minExponent
      (ratioLog2 numerator denominator - (format.precision - 1 : Nat)) := rfl
  have isCode : nearestCode format numerator denominator = min format.infinityCode
      (Brackets.code format (gridExponent format numerator denominator)
        (divideToEven (numerator * Nat.pow 2 (-gridExponent format numerator denominator).toNat)
          (denominator * Nat.pow 2 (gridExponent format numerator denominator).toNat))) :=
    if_neg numeratorPos.ne'
  generalize gridExponent format numerator denominator = grid at isGrid isCode
  have unit : (0 : ℚ) < 2 ^ grid := by positivity
  have scaledPos : 0 < denominator * Nat.pow 2 grid.toNat :=
    Nat.mul_pos denominatorPos (Nat.two_pow_pos _)
  obtain ⟨floor, lower, upper, nearer⟩ :=
    divideToEven_between (numerator * Nat.pow 2 (-grid).toNat) scaledPos
  rw [scaled_div_scaled] at lower upper nearer
  generalize (numerator / denominator : ℚ) = ratio at *
  have split : ∀ exponent : Int, (2 : ℚ) ^ exponent = 2 ^ (exponent - grid) * 2 ^ grid := by
    intro exponent
    rw [← zpow_add₀ two_ne_zero, sub_add_cancel]
  refine ⟨grid, floor, ⟨by omega, ?_, ?_, ?_, ?_⟩, ?_⟩
  · exact (le_div_iff₀ unit).1 lower
  · exact (div_lt_iff₀ unit).1 upper
  · -- the grid is coarse enough for the significand
    have bound : ratio / 2 ^ grid < 2 * format.binade := by
      rw [div_lt_iff₀ unit, format.binade_eq_two_pow, ← zpow_natCast, ← zpow_one_add₀ two_ne_zero,
        ← zpow_add₀ two_ne_zero]
      exact logUpper.trans_le (zpow_le_zpow_right₀ one_le_two (by omega))
    exact_mod_cast lower.trans_lt bound
  · -- and no coarser than that
    intro isLater
    have bound : (format.binade : ℚ) ≤ ratio / 2 ^ grid := by
      rw [le_div_iff₀ unit, format.binade_eq_two_pow, ← zpow_natCast, ← zpow_add₀ two_ne_zero]
      exact le_trans (zpow_le_zpow_right₀ one_le_two (by omega)) logLower
    exact Nat.le_of_lt_succ (by exact_mod_cast bound.trans_lt upper)
  · have restored : ratio = ratio / 2 ^ grid * 2 ^ grid := (div_mul_cancel₀ ratio unit.ne').symm
    generalize ratio / 2 ^ grid = quotient at restored nearer
    subst restored
    rcases nearer with ⟨isFloor, near⟩ | ⟨isCeiling, near⟩
    · have scaledNear := mul_le_mul_of_nonneg_right near unit.le
      exact .inl ⟨by rw [isCode, isFloor], by linarith⟩
    · have scaledNear := mul_le_mul_of_nonneg_right near unit.le
      exact .inr ⟨by rw [isCode, isCeiling], by linarith⟩

/-- The code of a ratio stands for a nearest number, also among short numbers out of range where
the ratio itself is in range. -/
theorem abs_magnitude_nearestCode_sub_le {format : Format} {numerator denominator : Nat}
    (denominatorPos : 0 < denominator)
    (finite : nearestCode format numerator denominator < format.infinityCode) {multiple : Nat}
    {exponent : Int} (short : multiple ≤ 2 * format.binade)
    (inRange : format.minExponent ≤ exponent ∨
      format.binade * 2 ^ format.minExponent ≤ (numerator / denominator : ℚ)) :
    |format.magnitude (nearestCode format numerator denominator) - numerator / denominator| ≤
      |multiple * 2 ^ exponent - (numerator / denominator : ℚ)| := by
  rcases Nat.eq_zero_or_pos numerator with rfl | numeratorPos
  · have isZero : format.magnitude (nearestCode format 0 denominator) = 0 := by
      rw [nearestCode, if_pos rfl, format.magnitude_zero]
    rw [isZero, Nat.cast_zero, zero_div, sub_zero, abs_zero]
    exact abs_nonneg _
  obtain ⟨grid, floor, brackets, nearer⟩ := exists_brackets format numeratorPos denominatorPos
  have lower := brackets.lower
  have upper := brackets.upper
  -- both neighbours are at least as near as anything outside the gap
  rcases nearer with ⟨isCode, near⟩ | ⟨isCode, near⟩
  · have isLower : nearestCode format numerator denominator = Brackets.code format grid floor := by
      omega
    rw [isLower, brackets.magnitude_code le_rfl (Nat.le_succ _), abs_sub_comm,
      abs_of_nonneg (by linarith)]
    rcases brackets.gap short inRange with below | above
    · exact le_trans (by linarith) (neg_le_abs _)
    · exact le_trans (by linarith) (le_abs_self _)
  · have isUpper : nearestCode format numerator denominator =
        Brackets.code format grid (floor + 1) := by
      omega
    rw [isUpper, brackets.magnitude_code (Nat.le_succ _) le_rfl, Nat.cast_add_one,
      abs_of_nonneg (by linarith)]
    rcases brackets.gap short inRange with below | above
    · exact le_trans (by linarith) (neg_le_abs _)
    · exact le_trans (by linarith) (le_abs_self _)

end Binary

/-! ## Numbers with nothing between -/

/-- No number of the set lies between the two, the second one included, other than the first. -/
def Adjoins (numbers : Set ℚ) (x number : ℚ) : Prop :=
  ∀ y ∈ numbers, y ∈ Set.uIcc x number → y = x

namespace Adjoins

variable {numbers : Set ℚ} {x middle number : ℚ}

/-- Between a number and the nearest one of a set lies no other of the set. -/
theorem of_nearest (nearest : ∀ y ∈ numbers, |x - number| ≤ |y - number|) :
    Adjoins numbers x number := by
  intro y member between
  have closest := nearest y member
  rcases Set.mem_uIcc.1 between with ⟨above, below⟩ | ⟨above, below⟩
  · rw [abs_sub_comm x, abs_sub_comm y, abs_of_nonneg (by linarith),
      abs_of_nonneg (by linarith)] at closest
    linarith
  · rw [abs_of_nonneg (by linarith), abs_of_nonneg (by linarith)] at closest
    linarith

theorem mono {fewer : Set ℚ} (subset : fewer ⊆ numbers) (adjoins : Adjoins numbers x number) :
    Adjoins fewer x number :=
  fun y member => adjoins y (subset member)

/-- Nothing lies between the ends where nothing lies on either side of the middle. -/
theorem trans (adjoins : Adjoins numbers x middle) (behind : Adjoins numbers middle number) :
    Adjoins numbers x number := by
  intro y member between
  rcases Set.uIcc_subset_uIcc_union_uIcc between with before | after
  · exact adjoins y member before
  · -- then the middle is itself one of the numbers
    have isMiddle := behind y member after
    exact adjoins y member (isMiddle ▸ Set.right_mem_uIcc)

theorem le_of_le (adjoins : Adjoins numbers x number) {y : ℚ} (member : y ∈ numbers)
    (below : y ≤ number) : y ≤ x := by
  by_contra above
  exact above (adjoins y member (Set.mem_uIcc.2 (.inl ⟨(not_le.1 above).le, below⟩))).le

theorem ge_of_ge (adjoins : Adjoins numbers x number) {y : ℚ} (member : y ∈ numbers)
    (above : number ≤ y) : x ≤ y := by
  by_contra below
  exact below (adjoins y member (Set.mem_uIcc.2 (.inr ⟨above, (not_le.1 below).le⟩))).ge

end Adjoins

namespace Format

variable (format : Format)

/-- The magnitudes of all codes, as if exponents had no upper bound. -/
def magnitudes : Set ℚ := Set.range format.magnitude

/-- The magnitudes with a significand of the format and any exponent. -/
def shorts : Set ℚ := {y | ∃ multiple ≤ 2 * format.binade, ∃ exponent : Int,
  y = multiple * 2 ^ exponent}

theorem magnitudes_subset_shorts : format.magnitudes ⊆ format.shorts := by
  rintro _ ⟨code, rfl⟩
  obtain ⟨multiple, short, exponent, -, isMagnitude⟩ := format.exists_short_magnitude code
  exact ⟨multiple, short, exponent, isMagnitude⟩

theorem two_pow_mem_shorts (exponent : Int) : (2 : ℚ) ^ exponent ∈ format.shorts := by
  have positive := format.binade_pos
  exact ⟨1, by omega, exponent, by rw [Nat.cast_one, one_mul]⟩

theorem magnitude_one : format.magnitude 1 = 2 ^ format.minExponent := by
  have positive := format.binade_pos
  have multiple := format.magnitude_of_multiple 0 (by omega : 1 ≤ 2 * format.binade) (by simp)
  simpa using multiple

/-- Below the least positive magnitude there is only zero. -/
theorem eq_zero_of_lt {y : ℚ} (member : y ∈ format.magnitudes)
    (below : y < 2 ^ format.minExponent) : y = 0 := by
  obtain ⟨code, rfl⟩ := member
  rw [← magnitude_one, format.magnitude_strictMono.lt_iff_lt, Nat.lt_one_iff] at below
  rw [below, magnitude_zero]

end Format

/-- Scaling by a power of two takes short numbers to short numbers. -/
theorem Adjoins.scale {format : Format} {x number : ℚ} (adjoins : Adjoins format.shorts x number)
    (scale : Int) : Adjoins format.shorts (x * 2 ^ scale) (number * 2 ^ scale) := by
  rintro y ⟨multiple, short, exponent, rfl⟩ between
  have power : (0 : ℚ) < 2 ^ scale := by positivity
  have unscaled : (multiple * 2 ^ exponent : ℚ) =
      multiple * 2 ^ (exponent - scale) * 2 ^ scale := by
    rw [mul_assoc, ← zpow_add₀ two_ne_zero, sub_add_cancel]
  rw [unscaled] at between ⊢
  have unscaledBetween : (multiple * 2 ^ (exponent - scale) : ℚ) ∈ Set.uIcc x number := by
    simpa only [Set.mem_uIcc, mul_le_mul_iff_left₀ power] using between
  rw [adjoins _ ⟨multiple, short, _, rfl⟩ unscaledBetween]

/-- What is next to nothing adjoins zero. -/
theorem Adjoins.zero {format : Format} {number : ℚ} (nonnegative : 0 ≤ number)
    (below : number < 2 ^ format.minExponent) : Adjoins format.magnitudes 0 number := by
  intro y member between
  rw [Set.uIcc_of_le nonnegative] at between
  exact format.eq_zero_of_lt member (lt_of_le_of_lt between.2 below)

/-- Zero is nearest to what is at most half of the least positive magnitude. -/
theorem nearest_zero {format : Format} {number : ℚ} (nonnegative : 0 ≤ number)
    (small : 2 * number ≤ 2 ^ format.minExponent) :
    ∀ y ∈ format.magnitudes, |0 - number| ≤ |y - number| := by
  intro y member
  rw [zero_sub, abs_neg, abs_of_nonneg nonnegative]
  by_cases below : y < 2 ^ format.minExponent
  · rw [format.eq_zero_of_lt member below, zero_sub, abs_neg]
    exact le_abs_self number
  · exact le_trans (by linarith) (le_abs_self _)

namespace Binary

variable {format : Format} {negative : Bool} {numerator denominator : Nat}

theorem magnitude_zero : (zero negative : Binary format).magnitude = 0 := by
  rw [magnitude_eq]
  exact format.magnitude_zero

theorem magnitude_mem (x : Binary format) : x.magnitude ∈ format.magnitudes :=
  ⟨x.code, x.magnitude_eq.symm⟩

/-- A rounding that is finite is a nearest number. -/
theorem nearest_ofRatio (denominatorPos : 0 < denominator)
    (finite : (ofRatio negative numerator denominator : Binary format).isFinite = true) :
    ∀ y ∈ format.magnitudes,
      |(ofRatio negative numerator denominator : Binary format).magnitude -
          numerator / denominator| ≤ |y - numerator / denominator| := by
  rintro _ ⟨code, rfl⟩
  obtain ⟨multiple, short, exponent, least, isMagnitude⟩ := format.exists_short_magnitude code
  rw [magnitude_eq, isMagnitude]
  exact abs_magnitude_nearestCode_sub_le denominatorPos (of_decide_eq_true finite) short
    (.inl least)

/-- Above the subnormal numbers, no short number lies between a ratio and its rounding. -/
theorem adjoins_ofRatio (denominatorPos : 0 < denominator)
    (finite : (ofRatio negative numerator denominator : Binary format).isFinite = true)
    (normal : format.binade * 2 ^ format.minExponent ≤ (numerator / denominator : ℚ)) :
    Adjoins format.shorts (ofRatio negative numerator denominator : Binary format).magnitude
      (numerator / denominator) := by
  apply Adjoins.of_nearest
  rintro _ ⟨multiple, short, exponent, rfl⟩
  rw [magnitude_eq]
  exact abs_magnitude_nearestCode_sub_le denominatorPos (of_decide_eq_true finite) short
    (.inr normal)

/-- A number times a power of two is rounded once. -/
theorem nearest_scale {x : Binary format} {scale : Int} (finite : (x.scale scale).isFinite = true) :
    ∀ y ∈ format.magnitudes,
      |(x.scale scale).magnitude - x.magnitude * 2 ^ scale| ≤ |y - x.magnitude * 2 ^ scale| := by
  have ratio : ((x.significand * Nat.pow 2 (x.exponent + scale).toNat : Nat) : ℚ) /
      (Nat.pow 2 (-(x.exponent + scale)).toNat : Nat) = x.magnitude * 2 ^ scale := by
    rw [Nat.cast_mul, mul_div_assoc, pow_toNat_div_pow_toNat two_pos, Nat.cast_two,
      zpow_add₀ two_ne_zero, magnitude_eq_significand_mul, mul_assoc]
  rw [← ratio]
  exact nearest_ofRatio (Nat.two_pow_pos _) finite

/-- Numbers that are not negative are magnitudes. -/
theorem value_eq_of_between {y : Binary format} {x number : ℚ}
    (adjoins : Adjoins format.magnitudes x number) (nonnegative : 0 ≤ x) (numberNonneg : 0 ≤ number)
    (between : y.value ∈ Set.uIcc x number) : y.value = x := by
  have isMagnitude : y.value = y.magnitude := by
    rw [← y.abs_value, abs_of_nonneg]
    exact le_trans (le_min nonnegative numberNonneg) between.1
  rw [isMagnitude] at between ⊢
  exact adjoins _ y.magnitude_mem between

/-- What is nearest to less than half of the least positive number is zero. -/
theorem magnitude_eq_zero_of_nearest {x : Binary format} {number : ℚ} (nonnegative : 0 ≤ number)
    (small : 2 * number < 2 ^ format.minExponent)
    (nearest : ∀ y ∈ format.magnitudes, |x.magnitude - number| ≤ |y - number|) :
    x.magnitude = 0 := by
  have closest := nearest 0 ⟨0, format.magnitude_zero⟩
  rw [zero_sub, abs_neg, abs_of_nonneg nonnegative] at closest
  have bound := le_of_abs_le closest
  exact format.eq_zero_of_lt x.magnitude_mem (by linarith)

/-- A number next to a finite one is below infinity. -/
theorem lt_infinity_of_adjoins {x : Binary format} (finite : x.isFinite = true) {number : ℚ}
    (adjoins : Adjoins format.magnitudes x.magnitude number) :
    number < format.magnitude format.infinityCode := by
  by_contra above
  have reached := adjoins.le_of_le ⟨_, rfl⟩ (not_lt.1 above)
  rw [magnitude_eq] at reached
  exact absurd (format.magnitude_strictMono (of_decide_eq_true finite)) (not_lt.2 reached)

end Binary

/-! ## Doubles -/

theorem Format.magnitude_infinityCode_double :
    Format.double.magnitude Format.double.infinityCode = 2 ^ (1024 : Int) := by
  have short : Format.double.binade ≤ 2 * Format.double.binade := by decide
  have first := Format.double.magnitude_of_multiple 2046 short fun _ => le_rfl
  rw [show Format.double.infinityCode = 2046 * Format.double.binade + Format.double.binade from rfl,
    first, Format.binade_eq_two_pow, ← zpow_natCast, ← zpow_add₀ two_ne_zero]
  rfl

namespace Binary

/-- Positive whole numbers of 64 bits are rounded to a neighbour. -/
theorem adjoins_ofInt {n : Nat} (positive : 0 < n) (small : n < Number.unsignedBound) :
    Adjoins Format.double.shorts (ofInt n : Binary64).magnitude n := by
  have normal : (Format.double.binade * 2 ^ Format.double.minExponent : ℚ) ≤
      (n : ℚ) / (1 : Nat) := by
    have least : (Format.double.binade * 2 ^ Format.double.minExponent : ℚ) ≤ 1 := by
      rw [Format.binade_eq_two_pow, ← zpow_natCast, ← zpow_add₀ two_ne_zero]
      exact zpow_le_one_of_nonpos₀ one_le_two (by decide)
    rw [Nat.cast_one, div_one]
    exact least.trans (by exact_mod_cast positive)
  have adjoins := adjoins_ofRatio Nat.one_pos (isFinite_ofInt (n := n) small) normal
  rwa [Nat.cast_one, div_one] at adjoins

end Binary

end RecordTags
