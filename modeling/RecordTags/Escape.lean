import RecordTags.TagError

/-!
Contract: escapes in quoted strings.

Owns: the content of a quoted string. A backslash and a letter denote a control
character, a quote or a backslash; `\x`, `\u` and `\U` with exactly two, four
and eight hexadecimal digits denote a code point; three octal digits denote a
code point up to 255.

The first escape without meaning is reported. Its span goes up to the letter if
the letter is unknown or digits are missing, and up to the last digit if the
digits denote no character.
-/

namespace RecordTags.Escape

open RecordTags.Text

/-- Exactly `count` digits in a base at the head of a text, and the rest. -/
def takeDigits? (base : Nat) : (count : Nat) → List Char → Option (List Char × List Char)
  | 0, text => some ([], text)
  | _ + 1, [] => none
  | count + 1, c :: rest =>
    if isDigitIn base c then
      (takeDigits? base count rest).map fun (digits, rest) => (c :: digits, rest)
    else none

/-- Taking digits leaves no more text than there was, so decoding ends. -/
theorem length_takeDigits? {base count : Nat} {text digits rest : List Char}
    (taken : takeDigits? base count text = some (digits, rest)) :
    rest.length ≤ text.length := by
  induction count generalizing text digits rest with
  | zero =>
    simp only [takeDigits?, Option.some.injEq, Prod.mk.injEq] at taken
    exact Nat.le_of_eq (congrArg List.length taken.2.symm)
  | succ count inductionHypothesis =>
    match text with
    | [] => simp [takeDigits?] at taken
    | c :: tail =>
      simp only [takeDigits?] at taken
      split at taken
      · obtain ⟨⟨innerDigits, innerRest⟩, inner, same⟩ := Option.map_eq_some_iff.1 taken
        simp only [Prod.mk.injEq] at same
        rw [← same.2, List.length_cons]
        exact Nat.le_succ_of_le (inductionHypothesis inner)
      · simp at taken

/-- The character that a letter denotes behind a backslash. -/
def letterMeaning? (letter : Char) : Option Char :=
  match letter with
  | 'a' => some (Char.ofNat 0x07)
  | 'b' => some (Char.ofNat 0x08)
  | 'f' => some (Char.ofNat 0x0C)
  | 'n' => some '\n'
  | 'r' => some '\r'
  | 't' => some '\t'
  | 'v' => some (Char.ofNat 0x0B)
  | '\\' => some '\\'
  | '\x27' => some '\x27'
  | '\x22' => some '\x22'
  | _ => none

/-- A numeric escape: how many digits follow the letter, in which base, what
the letter itself contributes, and the greatest code point. -/
structure NumericEscape where
  count : Nat
  base : Nat
  leading : Nat
  greatest : Nat
deriving DecidableEq, Repr

/-- The numeric escape that a letter introduces. The first of three octal
digits is the letter itself. -/
def numericEscape? (letter : Char) : Option NumericEscape :=
  match letter with
  | 'x' => some ⟨2, 16, 0, 0x10FFFF⟩
  | 'u' => some ⟨4, 16, 0, 0x10FFFF⟩
  | 'U' => some ⟨8, 16, 0, 0x10FFFF⟩
  | _ => (digitValue? 8 letter).map fun digit => ⟨2, 8, digit, 0xFF⟩

namespace NumericEscape

def codePoint (numeric : NumericEscape) (digits : List Char) : Nat :=
  ofDigits numeric.base (numeric.leading :: digits.filterMap (digitValue? numeric.base))

/-- The character of a code point. Surrogates are not characters. -/
def character? (numeric : NumericEscape) (codePoint : Nat) : Option Char :=
  if codePoint ≤ numeric.greatest && codePoint.isValidChar then some (Char.ofNat codePoint)
  else none

end NumericEscape

/-- The failure of an escape that is written `source` and starts at `start`. -/
def invalid (start : Nat) (source : List Char) : TagError :=
  .invalidEscape (String.ofList source) ⟨start, start + byteLength source⟩

/-- The content of the text between quotes, which starts at byte `start`. -/
def decodeFrom (start : Nat) (text : List Char) : Except TagError (List Char) :=
  match text with
  | [] => .ok []
  | c :: afterBackslash =>
    if c != '\\' then (decodeFrom (start + c.utf8Size) afterBackslash).map (c :: ·)
    else
      match afterBackslash with
      | [] => .error (invalid start [c])
      | letter :: rest =>
        let letterEnd := start + byteLength [c, letter]
        match letterMeaning? letter with
        | some meaning => (decodeFrom letterEnd rest).map (meaning :: ·)
        | none =>
          match numericEscape? letter with
          | none => .error (invalid start [c, letter])
          | some numeric =>
            match taken : takeDigits? numeric.base numeric.count rest with
            | none => .error (invalid start [c, letter])
            | some (digits, rest') =>
              have : rest'.length ≤ rest.length := length_takeDigits? taken
              match numeric.character? (numeric.codePoint digits) with
              | none => .error (invalid start (c :: letter :: digits))
              | some meaning =>
                (decodeFrom (letterEnd + byteLength digits) rest').map (meaning :: ·)
termination_by text.length

/-- The content of a quoted string whose opening quote is at byte `start`. -/
def unquote (start : Nat) (quoted : List Char) : Except TagError String :=
  (decodeFrom (start + 1) (quoted.drop 1).dropLast).map String.ofList

end RecordTags.Escape
