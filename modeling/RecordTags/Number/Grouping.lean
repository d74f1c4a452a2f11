import RecordTags.Radix

/-!
Contract: underscores that group the digits of a numeral.

An underscore may stand only between two digits. The letter of a base counts
as a digit, so `0x_1` is well grouped and `0_x1` is not.
-/

namespace RecordTags.Number

open RecordTags.Text

/-- A sign in front, and the rest. -/
def signAndBody (text : List Char) : Bool × List Char :=
  match text with
  | c :: rest => if isSign c then (c == '-', rest) else (false, c :: rest)
  | [] => (false, [])

inductive Before where
  | start
  | digit
  | underscore
  | other
deriving DecidableEq, Repr

/-- Whether every underscore stands between two digits, given what came before. -/
def groupedFrom (isDigit : Char → Bool) : Before → List Char → Bool
  | before, [] => before != .underscore
  | before, c :: rest =>
    if isDigit c then groupedFrom isDigit .digit rest
    else if c == '_' then before == .digit && groupedFrom isDigit .underscore rest
    else before != .underscore && groupedFrom isDigit .other rest

/-- Whether the underscores of a numeral, which may have a sign and a base,
stand between digits. -/
def isGrouped (text : List Char) : Bool :=
  let body := (signAndBody text).2
  match body with
  | '0' :: letter :: rest =>
    match Radix.ofLetter? letter with
    | some .hexadecimal => groupedFrom (isDigitIn 16) .digit rest
    | some _ => groupedFrom isAsciiDigit .digit rest
    | none => groupedFrom isAsciiDigit .start body
  | _ => groupedFrom isAsciiDigit .start body

end RecordTags.Number
