import RecordTags.Binary
import RecordTags.Text.Numeral

/-!
Contract: decimal texts of finite double-precision numbers.

Owns:
- `Decimal.shortest`: of the decimals that round to a number, those with the
  fewest digits, and of these the nearest; an exact tie goes as the layout says;
- `Layout`, the decisions of a text form: which exponents are written
  positionally, how an exponent is written, where ties go.

Does not own: which layout a particular output uses.

The search is over all-integer data. A finite number and the two ends of the
interval that rounds to it are whole multiples of one power of ten, and each
candidate is a multiple of a greater power of ten next to the number.
-/

namespace RecordTags

/-- The number `digits * 10 ^ exponent`. -/
structure Decimal where
  digits : Nat
  exponent : Int
deriving DecidableEq, Repr

namespace Decimal

/-- Where an exact tie between two nearest decimals goes. -/
inductive Tie where
  | toEven
  | up
deriving DecidableEq, Repr

/-- A number and the interval that rounds to it, as multiples of a common unit. -/
structure Neighbourhood where
  low : Nat
  value : Nat
  high : Nat
  /-- Whether the ends of the interval round to the number. -/
  closed : Bool
deriving DecidableEq, Repr

namespace Neighbourhood

def contains (neighbourhood : Neighbourhood) (candidate : Nat) : Bool :=
  if neighbourhood.closed then
    neighbourhood.low ≤ candidate && candidate ≤ neighbourhood.high
  else neighbourhood.low < candidate && candidate < neighbourhood.high

/-- The multiple of `step` next to the value that lies in the interval: the
nearer one if both do. -/
def nearest? (neighbourhood : Neighbourhood) (tie : Tie) (step : Nat) : Option Nat :=
  let below := neighbourhood.value / step
  let above := below + 1
  match neighbourhood.contains (below * step), neighbourhood.contains (above * step) with
  | false, false => none
  | true, false => some below
  | false, true => some above
  | true, true =>
    let fromBelow := neighbourhood.value - below * step
    let fromAbove := above * step - neighbourhood.value
    if fromBelow < fromAbove then some below
    else if fromAbove < fromBelow then some above
    else match tie with
      | .up => some above
      | .toEven => some (if below % 2 = 0 then below else above)

/-- The coarsest multiple of a power of ten, from `10 ^ place` downwards, that
lies in the interval next to the value, with its power. -/
def coarsest (neighbourhood : Neighbourhood) (tie : Tie) : (place : Nat) → Nat × Nat
  | 0 => (neighbourhood.value, 0)
  | place + 1 =>
    match neighbourhood.nearest? tie (Nat.pow 10 (place + 1)) with
    | some multiple => (multiple, place + 1)
    | none => neighbourhood.coarsest tie place

end Neighbourhood

/-- The exponent of two whose multiples hold a positive finite number and the
ends of the interval that rounds to it. -/
def quarterExponent (x : Binary64) : Int := x.exponent - 2

/-- The interval that rounds to a positive finite number. Below a power of two
the neighbour is half as far away, except at the smallest exponent. -/
def neighbourhood (x : Binary64) : Neighbourhood :=
  let significand := x.significand
  let unit :=
    if quarterExponent x < 0 then Nat.pow 5 (-quarterExponent x).toNat
    else Nat.pow 2 (quarterExponent x).toNat
  let isBinadeStart :=
    significand == Format.double.binade && Format.double.minExponent < x.exponent
  { low := (4 * significand - if isBinadeStart then 1 else 2) * unit
    value := 4 * significand * unit
    high := (4 * significand + 2) * unit
    closed := significand % 2 == 0 }

/-- Without trailing zeros. `fuel` bounds their number. -/
def trimZeros : (fuel : Nat) → Decimal → Decimal
  | 0, decimal => decimal
  | fuel + 1, decimal =>
    if decimal.digits ≠ 0 && decimal.digits % 10 == 0 then
      trimZeros fuel ⟨decimal.digits / 10, decimal.exponent + 1⟩
    else decimal

/-- The shortest decimal that rounds to a positive finite number. -/
def shortest (tie : Tie) (x : Binary64) : Decimal :=
  let near := neighbourhood x
  let length := (Nat.toDigits 10 near.value).length
  let (multiple, place) := near.coarsest tie (length - 1)
  trimZeros (length + 1) ⟨multiple, (place : Int) + min 0 (quarterExponent x)⟩

/-! ## Text -/

/-- The decisions of a text form. -/
structure Layout where
  /-- The least and greatest exponents, in the sense of `d.ddd * 10 ^ exponent`,
  that are written positionally. -/
  plainFrom : Int
  plainTo : Int
  /-- Whether a positive exponent has a plus sign. -/
  plusSign : Bool
  tie : Tie
deriving DecidableEq, Repr

namespace Layout

/-- Digits with the point behind the first `places` of them. -/
def plain (digits : List Char) (places : Int) : List Char :=
  if places ≤ 0 then
    ['0', '.'] ++ List.replicate (-places).toNat '0' ++ digits
  else
    let whole := digits.take places.toNat
    let zeros := List.replicate (places.toNat - digits.length) '0'
    let fraction := digits.drop places.toNat
    whole ++ zeros ++ ['.'] ++ (if fraction.isEmpty then ['0'] else fraction)

/-- Digits with the point behind the first, and an exponent. -/
def scientific (layout : Layout) (digits : List Char) (exponent : Int) : List Char :=
  let mantissa := match digits with
    | first :: second :: rest => first :: '.' :: second :: rest
    | short => short
  let sign := if exponent < 0 then ['-'] else if layout.plusSign then ['+'] else []
  mantissa ++ ['e'] ++ sign ++ Nat.toDigits 10 exponent.natAbs

def text (layout : Layout) (x : Binary64) : String :=
  let sign := if x.negative then ['-'] else []
  if x.isZero then String.ofList (sign ++ ['0', '.', '0'])
  else
    let decimal := shortest layout.tie { x with negative := false }
    let digits := Nat.toDigits 10 decimal.digits
    let exponent := decimal.exponent + digits.length - 1
    let magnitude :=
      if layout.plainFrom ≤ exponent && exponent ≤ layout.plainTo then
        plain digits (exponent + 1)
      else layout.scientific digits exponent
    String.ofList (sign ++ magnitude)

end Layout

end Decimal

end RecordTags
