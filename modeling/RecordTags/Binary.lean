/-!
Contract: binary floating-point numbers as exact data.

Owns:
- `Format` and its two instances, `single` and `double`;
- `Binary format`, a sign and a magnitude code. Codes are in the order of the
  magnitudes they stand for: zero, the subnormal numbers, the normal numbers,
  infinity, and above infinity the codes that are not numbers;
- the value of a finite number as `significand * 2 ^ exponent`;
- rounding of a ratio of natural numbers to the nearest number, ties to the
  even code, and the operations that are one rounding of an exact result.

Does not own: text forms; see `RecordTags.Decimal` and `RecordTags.Number`.
-/

namespace RecordTags

/-! ## Formats -/

/-- An interchange format: the bits of the significand, the leading one
included, and the bits of the exponent. -/
structure Format where
  precision : Nat
  exponentBits : Nat
  precision_pos : 0 < precision := by decide
  exponentBits_pos : 0 < exponentBits := by decide

namespace Format

def single : Format := { precision := 24, exponentBits := 8 }

def double : Format := { precision := 53, exponentBits := 11 }

/-- The bits of a number: sign, exponent and all of the significand but its
leading one. -/
def width (format : Format) : Nat := format.exponentBits + format.precision

/-- The weight of the last bit of a subnormal number, as an exponent of two. -/
def minExponent (format : Format) : Int :=
  2 - (Nat.pow 2 (format.exponentBits - 1) : Nat) - (format.precision - 1 : Nat)

/-- The number of codes in one binade. -/
def binade (format : Format) : Nat := Nat.pow 2 (format.precision - 1)

def infinityCode (format : Format) : Nat :=
  (Nat.pow 2 format.exponentBits - 1) * format.binade

/-- The number of magnitude codes. -/
def codes (format : Format) : Nat := Nat.pow 2 (format.width - 1)

/-- Infinity is one of the codes. -/
theorem infinityCode_lt_codes (format : Format) : format.infinityCode < format.codes := by
  have precisionPos := format.precision_pos
  have binadePos : 0 < format.binade := Nat.two_pow_pos _
  have powerPos : 0 < Nat.pow 2 format.exponentBits := Nat.two_pow_pos _
  have split : format.codes = Nat.pow 2 format.exponentBits * format.binade := by
    unfold codes width binade
    rw [Nat.add_sub_assoc precisionPos]
    exact Nat.pow_add 2 _ _
  rw [split]
  unfold infinityCode
  exact Nat.mul_lt_mul_of_pos_right (by omega) binadePos

end Format

/-! ## Numbers -/

/-- A floating-point number: a sign and the code of its magnitude. -/
structure Binary (format : Format) where
  negative : Bool
  code : Nat
  code_lt : code < format.codes
deriving DecidableEq, Repr

abbrev Binary32 := Binary .single
abbrev Binary64 := Binary .double

namespace Binary

variable {format : Format}

def ofBits (bits : Nat) : Binary format :=
  { negative := bits / format.codes % 2 == 1
    code := bits % format.codes
    code_lt := Nat.mod_lt _ (Nat.two_pow_pos _) }

/-- The interchange bits: the sign in front of the code. -/
def toBits (x : Binary format) : Nat :=
  (if x.negative then format.codes else 0) + x.code

def zero (negative : Bool) : Binary format :=
  { negative, code := 0, code_lt := Nat.two_pow_pos _ }

def infinity (negative : Bool) : Binary format :=
  { negative, code := format.infinityCode, code_lt := format.infinityCode_lt_codes }

instance : Inhabited (Binary format) := ⟨zero false⟩

def isFinite (x : Binary format) : Bool := x.code < format.infinityCode

def isInfinite (x : Binary format) : Bool := x.code == format.infinityCode

def isNaN (x : Binary format) : Bool := format.infinityCode < x.code

def isZero (x : Binary format) : Bool := x.code == 0

def neg (x : Binary format) : Binary format := { x with negative := !x.negative }

/-- Equality of values: the two zeros are equal, and what is not a number
equals nothing. -/
def sameValue (x y : Binary format) : Bool :=
  !x.isNaN && !y.isNaN && x.code == y.code && (x.negative == y.negative || x.isZero)

/-- The integer significand of a finite number. -/
def significand (x : Binary format) : Nat :=
  if x.code < format.binade then x.code else format.binade + x.code % format.binade

/-- The weight of the last bit of a finite number, as an exponent of two. -/
def exponent (x : Binary format) : Int :=
  format.minExponent + (x.code / format.binade - 1 : Nat)

/-- The magnitude of a finite number, as a numerator. -/
def numerator (x : Binary format) : Nat := x.significand * Nat.pow 2 x.exponent.toNat

def denominator (x : Binary format) : Nat := Nat.pow 2 (-x.exponent).toNat

/-- The whole number that a finite number equals, if it equals one. -/
def toInt? (x : Binary format) : Option Int :=
  if x.isFinite && x.numerator % x.denominator == 0 then
    let magnitude : Int := (x.numerator / x.denominator : Nat)
    some (if x.negative then -magnitude else magnitude)
  else none

/-! ## Rounding -/

/-- A quotient rounded to the nearest whole number, a half to the even one. -/
def divideToEven (numerator denominator : Nat) : Nat :=
  let quotient := numerator / denominator
  let twice := 2 * (numerator % denominator)
  if twice < denominator then quotient
  else if denominator < twice then quotient + 1
  else if quotient % 2 = 0 then quotient
  else quotient + 1

/-- The exponent of the greatest power of two that does not exceed a positive
ratio. -/
def ratioLog2 (numerator denominator : Nat) : Int :=
  let guess : Int := (numerator.log2 : Int) - denominator.log2
  if denominator * Nat.pow 2 guess.toNat ≤ numerator * Nat.pow 2 (-guess).toNat then guess
  else guess - 1

/-- The exponent of the grid on which a positive ratio is rounded. -/
def gridExponent (format : Format) (numerator denominator : Nat) : Int :=
  max format.minExponent (ratioLog2 numerator denominator - (format.precision - 1 : Nat))

/-- The code of the number nearest to a ratio. A significand that rounds up to
the next power of two carries into the exponent, since codes of neighbouring
binades are adjacent. -/
def nearestCode (format : Format) (numerator denominator : Nat) : Nat :=
  if numerator = 0 then 0
  else
    let grid := gridExponent format numerator denominator
    let rounded :=
      divideToEven (numerator * Nat.pow 2 (-grid).toNat) (denominator * Nat.pow 2 grid.toNat)
    min format.infinityCode ((grid - format.minExponent).toNat * format.binade + rounded)

theorem nearestCode_lt_codes (format : Format) (numerator denominator : Nat) :
    nearestCode format numerator denominator < format.codes := by
  have bound := format.infinityCode_lt_codes
  unfold nearestCode
  split
  · exact Nat.two_pow_pos _
  · exact Nat.lt_of_le_of_lt (Nat.min_le_left _ _) bound

/-- The number nearest to a ratio with a sign. -/
def ofRatio (negative : Bool) (numerator denominator : Nat) : Binary format :=
  { negative
    code := nearestCode format numerator denominator
    code_lt := nearestCode_lt_codes format numerator denominator }

/-- The number nearest to `magnitude * 2 ^ scale` with a sign. -/
def ofScaled (negative : Bool) (magnitude : Nat) (scale : Int) : Binary format :=
  ofRatio negative (magnitude * Nat.pow 2 scale.toNat) (Nat.pow 2 (-scale).toNat)

/-- The number nearest to a whole number; zero is positive. -/
def ofInt (n : Int) : Binary format := ofRatio (n < 0) n.natAbs 1

/-- A finite number times a power of two. -/
def scale (x : Binary format) (exponent : Int) : Binary format :=
  ofScaled x.negative x.significand (x.exponent + exponent)

def times (x y : Binary format) : Binary format :=
  ofRatio (x.negative != y.negative) (x.numerator * y.numerator) (x.denominator * y.denominator)

/-- The quotient of finite numbers, the divisor not zero. -/
def dividedBy (x y : Binary format) : Binary format :=
  ofRatio (x.negative != y.negative) (x.numerator * y.denominator) (x.denominator * y.numerator)

/-- The nearest number of another format. What is not a number stays so. -/
def convert {source target : Format} (x : Binary source) : Binary target :=
  if x.isFinite then ofRatio x.negative x.numerator x.denominator
  else if x.isInfinite then infinity x.negative
  else
    { negative := x.negative
      code := target.codes - 1
      code_lt := Nat.sub_one_lt_of_lt target.infinityCode_lt_codes }

def greatest : Binary format :=
  { negative := false
    code := format.infinityCode - 1
    code_lt := Nat.lt_of_le_of_lt (Nat.sub_le _ _) format.infinityCode_lt_codes }

end Binary

end RecordTags
