import RecordTags.Proofs.Checked.Bytes
import RecordTags.Tree.Build

/-!
Contract: the readings of a numeric literal, with every operation that can fail.

The sign and the base of a literal are told by its bytes, and then cut off by
their number. The text is any text, not only what the scanner takes for a number.

Owns:
- the readings with their cuts and their indices in bytes;
- that nothing fails, and that every reading is that of `Readings.ofText`.
-/

namespace RecordTags.Checked

open RecordTags.Text RecordTags.Number

/-! ## Sign, base and grouping -/

def signAndBody (text : List Char) : Option (Bool × List Char) := do
  let first := (bytes text).head?
  if first.any isSign then return (first == some '-', ← suffix? text 1)
  else return (false, text)

/-- The base that the second byte selects, in a text of at least so many bytes. -/
def letterRadix (least : Nat) (data : List Char) : Option (Option Radix) :=
  if least ≤ data.length then data[1]?.map Radix.ofLetter? else some none

def baseAndDigits (text : List Char) : Option (Radix × List Char) := do
  let data := bytes text
  if data.head?.any (· == '0') then
    match ← letterRadix 3 data with
    | some radix => return (radix, ← suffix? text 2)
    | none => return (.octal, ← suffix? text 1)
  else return (.decimal, text)

def dropBytes (data : List Char) (start : Nat) : Option (List Char) :=
  if start ≤ data.length then some (data.drop start) else none

/-- The base that the first two bytes select. -/
def markedRadix (data : List Char) : Option (Option Radix) :=
  if data.head?.any (· == '0') then letterRadix 2 data else some none

def isGrouped (text : List Char) : Option Bool := do
  let (_, body) ← signAndBody text
  let data := bytes body
  match ← markedRadix data with
  | some radix =>
    let isDigit := if radix = .hexadecimal then isDigitIn 16 else isAsciiDigit
    return groupedFrom isDigit .digit (← dropBytes data 2)
  | none => return groupedFrom isAsciiDigit .start (← dropBytes data 0)

/-- The cut behind a sign never fails. -/
theorem signAndBody_eq (text : List Char) : signAndBody text = some (Number.signAndBody text) := by
  rw [signAndBody, any_head?_bytes (ofAscii_of_lt lt_of_isSign)]
  cases text with
  | nil => rfl
  | cons c rest =>
    by_cases sign : isSign c = true
    · have isAscii := lt_of_isSign c sign
      have first : (bytes (c :: rest)).head? = some c := by
        rw [bytes_cons, bytes_of_ascii isAscii]
        rfl
      simp [first, suffix?_one isAscii, Number.signAndBody, sign]
    · simp [Number.signAndBody, sign]

theorem letterRadix_cons (least : Nat) (text : List Char)
    (isLong : least ≤ byteLength ('0' :: text)) :
    letterRadix least (bytes ('0' :: text)) = text.head?.map Radix.ofLetter? := by
  have second : (bytes ('0' :: text))[1]? = (bytes text).head? := by
    rw [bytes_cons, bytes_of_ascii (by decide), List.head?_eq_getElem?]
    rfl
  rw [letterRadix, length_bytes, if_pos isLong, second, head?_bytes ofAscii_ofLetter?]

theorem head?_bytes_zero (text : List Char) :
    (bytes text).head?.any (· == '0') = text.head?.any (· == '0') :=
  any_head?_bytes (ofAscii_beq '0' (by decide)) text

theorem any_head?_of_ne {text : List Char} {ascii : Char} (isOther : ∀ rest, text ≠ ascii :: rest) :
    text.head?.any (· == ascii) = false := by
  cases text with
  | nil => rfl
  | cons c rest =>
    have first : c ≠ ascii := by
      rintro rfl
      exact isOther rest rfl
    simpa using first

theorem three_le_byteLength (letter next : Char) (rest : List Char) :
    3 ≤ byteLength ('0' :: letter :: next :: rest) := by
  have first := letter.utf8Size_pos
  have second := next.utf8Size_pos
  have zero : '0'.utf8Size = 1 := rfl
  simp only [byteLength_cons, zero]
  omega

/-- Behind a zero and a single character no base is selected: a letter is too short, and what is
long enough is no letter. -/
theorem letterRadix_short {text : List Char}
    (isShort : ∀ letter next rest, text ≠ letter :: next :: rest) :
    letterRadix 3 (bytes ('0' :: text)) = some none := by
  by_cases isLong : 3 ≤ byteLength ('0' :: text)
  · rw [letterRadix_cons 3 text isLong]
    cases text with
    | nil => exact absurd isLong (by decide)
    | cons letter rest =>
      cases rest with
      | cons next rest => exact absurd rfl (isShort letter next rest)
      | nil =>
        have zero : '0'.utf8Size = 1 := rfl
        have notAscii : 128 ≤ letter.toNat := by
          apply Nat.le_of_not_lt
          intro isAscii
          have oneByte := utf8Size_of_ascii isAscii
          simp only [byteLength_cons, byteLength_nil, zero, oneByte] at isLong
          omega
        rw [List.head?_cons, Option.map_some, ofAscii_ofLetter? letter notAscii]
  · rw [letterRadix, length_bytes, if_neg isLong]

/-- The cuts behind a leading zero and behind a base letter never fail. -/
theorem baseAndDigits_eq (text : List Char) :
    baseAndDigits text = some (Number.baseAndDigits text) := by
  rw [baseAndDigits, head?_bytes_zero]
  fun_cases Number.baseAndDigits text with
  | case1 letter next rest radix selects =>
    simp [letterRadix_cons 3 _ (three_le_byteLength letter next rest), selects,
      suffix?_two _ (lt_of_ofLetter? selects)]
  | case2 letter next rest selectsNone =>
    simp [letterRadix_cons 3 _ (three_le_byteLength letter next rest), selectsNone, suffix?_one]
  | case3 rest notLong =>
    simp [letterRadix_short notLong, suffix?_one]
  | case4 =>
    rename_i notZero
    rw [any_head?_of_ne notZero]
    rfl

theorem groupedFrom_large {isDigit : Char → Bool} (ofAscii : OfAscii isDigit false)
    (before : Before) {c : Char} (notAscii : 128 ≤ c.toNat) (rest : List Char) :
    groupedFrom isDigit before (c :: rest) =
      (before != .underscore && groupedFrom isDigit .other rest) := by
  have notUnderscore : (c == '_') = false := ofAscii_beq '_' (by decide) c notAscii
  rw [groupedFrom, ofAscii c notAscii, notUnderscore]
  rfl

/-- The bytes of a character that is not ASCII are no digits and no underscores. -/
theorem groupedFrom_append {isDigit : Char → Bool} (ofAscii : OfAscii isDigit false)
    (before : Before) {units : List Char} (nonempty : units ≠ [])
    (large : ∀ unit ∈ units, 128 ≤ unit.toNat) (rest : List Char) :
    groupedFrom isDigit before (units ++ rest) =
      (before != .underscore && groupedFrom isDigit .other rest) := by
  induction units generalizing before with
  | nil => exact absurd rfl nonempty
  | cons unit others inductionHypothesis =>
    rw [List.cons_append, groupedFrom_large ofAscii before (large unit List.mem_cons_self)]
    cases others with
    | nil => rfl
    | cons second others =>
      have behind := inductionHypothesis .other (List.cons_ne_nil second others)
        fun unit member => large unit (List.mem_cons_of_mem _ member)
      rw [behind]
      rfl

/-- Grouping can be told from the bytes. -/
theorem groupedFrom_bytes {isDigit : Char → Bool} (ofAscii : OfAscii isDigit false)
    (before : Before) (text : List Char) :
    groupedFrom isDigit before (bytes text) = groupedFrom isDigit before text := by
  induction text generalizing before with
  | nil => rfl
  | cons c rest inductionHypothesis =>
    rw [bytes_cons]
    by_cases isAscii : c.toNat < 128
    · rw [bytes_of_ascii isAscii, List.singleton_append, groupedFrom, groupedFrom]
      simp only [inductionHypothesis]
    · have notAscii : 128 ≤ c.toNat := Nat.le_of_not_lt isAscii
      obtain ⟨lead, tail, isCons⟩ := exists_bytes_cons c []
      have nonempty : bytes [c] ≠ [] := by simp [isCons]
      rw [groupedFrom_append ofAscii before nonempty fun _ => le_toNat_of_mem_bytes notAscii,
        inductionHypothesis, groupedFrom_large ofAscii before notAscii]

theorem dropBytes_zero (data : List Char) : dropBytes data 0 = some data := rfl

theorem dropBytes_two {letter : Char} (isAscii : letter.toNat < 128) (rest : List Char) :
    dropBytes (bytes ('0' :: letter :: rest)) 2 = some (bytes rest) := by
  have marks : bytes ('0' :: letter :: rest) = '0' :: letter :: bytes rest := by
    rw [bytes_cons, bytes_of_ascii (by decide), bytes_cons letter, bytes_of_ascii isAscii]
    rfl
  rw [marks, dropBytes, if_pos (by simp)]
  rfl

theorem markedRadix_cons (letter : Char) (rest : List Char) :
    markedRadix (bytes ('0' :: letter :: rest)) = some (Radix.ofLetter? letter) := by
  have isLong : 2 ≤ byteLength ('0' :: letter :: rest) := by
    have zero : '0'.utf8Size = 1 := rfl
    have positive := letter.utf8Size_pos
    simp only [byteLength_cons, zero]
    omega
  rw [markedRadix, head?_bytes_zero, letterRadix_cons 2 _ isLong]
  rfl

theorem markedRadix_of_ne {text : List Char}
    (isOther : ∀ letter rest, text ≠ '0' :: letter :: rest) :
    markedRadix (bytes text) = some none := by
  by_cases notZero : ∀ rest, text ≠ '0' :: rest
  · rw [markedRadix, head?_bytes_zero, any_head?_of_ne notZero]
    rfl
  · obtain ⟨rest, rfl⟩ : ∃ rest, text = '0' :: rest := by simpa using notZero
    cases rest with
    | nil => decide
    | cons letter rest => exact absurd rfl (isOther letter rest)

/-- The grouping rule sees on bytes what it sees on characters. -/
theorem isGrouped_eq (text : List Char) : isGrouped text = some (Number.isGrouped text) := by
  rw [isGrouped, signAndBody_eq]
  fun_cases Number.isGrouped text with
  | case1 body letter rest isBody selects =>
    simp [body, isBody, markedRadix_cons, selects, dropBytes_two (lt_of_ofLetter? selects),
      groupedFrom_bytes ofAscii_isDigitIn]
  | case2 body letter rest isBody radix notHexadecimal selects =>
    have isDecimal : (if radix = .hexadecimal then isDigitIn 16 else isAsciiDigit) = isAsciiDigit :=
      if_neg notHexadecimal
    simp [body, isBody, markedRadix_cons, selects, dropBytes_two (lt_of_ofLetter? selects),
      isDecimal, groupedFrom_bytes ofAscii_isAsciiDigit]
  | case3 body letter rest isBody selectsNone =>
    simp [body, isBody, markedRadix_cons, selectsNone, dropBytes_zero,
      groupedFrom_bytes ofAscii_isAsciiDigit]
  | case4 body isOther =>
    have marked : markedRadix (bytes (Number.signAndBody text).2) = some none :=
      markedRadix_of_ne isOther
    simp [body, marked, dropBytes_zero, groupedFrom_bytes ofAscii_isAsciiDigit]

/-! ## Integers -/

/-- Whether a text with underscores in its digits has them elsewhere than between digits. -/
def isMisgrouped (digits text : List Char) : Option Bool := do
  if digits.contains '_' then return !(← isGrouped text) else return false

def readUnsigned (text : List Char) : Option (Except Unread Nat) := do
  if text.isEmpty then return .error .malformed
  let (radix, digits) ← baseAndDigits text
  match readDigits radix.base 0 digits with
  | .error unread => return .error unread
  | .ok value => return if ← isMisgrouped digits text then .error .malformed else .ok value

def readSigned (text : List Char) : Option (Except Unread Int) := do
  let (negative, body) ← signAndBody text
  match ← readUnsigned body with
  | .error unread => return .error unread
  | .ok magnitude =>
    if negative then
      return if magnitude ≤ signedBound then .ok (-(magnitude : Int)) else .error .tooLarge
    else return if magnitude < signedBound then .ok magnitude else .error .tooLarge

theorem isMisgrouped_eq (digits text : List Char) :
    isMisgrouped digits text = some (digits.contains '_' && !Number.isGrouped text) := by
  rw [isMisgrouped, isGrouped_eq]
  cases digits.contains '_' <;> rfl

theorem readUnsigned_eq (text : List Char) :
    readUnsigned text = some (Number.readUnsigned text) := by
  cases text with
  | nil => rfl
  | cons c rest =>
    rw [readUnsigned, Number.readUnsigned]
    simp only [List.isEmpty_cons, baseAndDigits_eq, isMisgrouped_eq, Option.bind_eq_bind,
      Option.bind_some]
    generalize Number.baseAndDigits (c :: rest) = based
    cases readDigits based.1.base 0 based.2 <;> rfl

theorem readSigned_eq (text : List Char) : readSigned text = some (Number.readSigned text) := by
  rw [readSigned, Number.readSigned]
  simp only [signAndBody_eq, readUnsigned_eq, Option.bind_eq_bind, Option.bind_some]
  cases Number.readUnsigned (Number.signAndBody text).2 with
  | error => rfl
  | ok magnitude => cases (Number.signAndBody text).1 <;> rfl

/-! ## Hexadecimal floating-point literals -/

/-- The text before and behind the first character of a class, if there is one. -/
def splitOnce (p : Char → Bool) (text : List Char) : Option (Option (List Char × List Char)) := do
  let found := byteLength (text.takeWhile (!p ·))
  match ← peek text found with
  | none => return none
  | some c => return some (← slice? text 0 found, ← suffix? text (found + c.utf8Size))

def exponentParts (text : List Char) : Option (Option (Bool × List Char)) := do
  let (negative, digits) ← signAndBody text
  return if !digits.isEmpty && digits.all isAsciiDigit then some (negative, digits) else none

/-- The parts of a hexadecimal literal behind its mark. -/
def hexadecimalParts (text : List Char) : Option (Option DecimalParts) := do
  match ← splitOnce Radix.hexadecimal.isExponentMark text with
  | none => return none
  | some (mantissa, exponent) =>
    let (whole, fraction) := (← splitOnce (· == '.') mantissa).getD (mantissa, [])
    if (whole.isEmpty && fraction.isEmpty) || !(whole ++ fraction).all (isDigitIn 16) then
      return none
    else
      return (← exponentParts exponent).map fun (negative, exponent) =>
        ⟨whole, fraction, negative, exponent⟩

def halves? (p : Char → Bool) (text : List Char) : Option (List Char × List Char) :=
  match text.dropWhile (!p ·) with
  | [] => none
  | _ :: rest => some (text.takeWhile (!p ·), rest)

/-- The cuts before and behind the first character of a class never fail. -/
theorem splitOnce_eq (p : Char → Bool) (text : List Char) :
    splitOnce p text = some (halves? p text) := by
  have before : Facing text 0 (text.takeWhile (!p ·) ++ text.dropWhile (!p ·)) := by
    rw [List.takeWhile_append_dropWhile]
    exact Facing.start text
  have found := before.advance
  have front := before.slice?
  rw [Nat.zero_add] at found front
  rw [splitOnce, found.peek, front, halves?]
  cases isRest : text.dropWhile (!p ·) with
  | nil => rfl
  | cons c rest =>
    rw [isRest] at found
    simp [found.tail.suffix?]

theorem halves?_getD (p : Char → Bool) (text : List Char) :
    (halves? p text).getD (text, []) =
      (text.takeWhile (!p ·), (text.dropWhile (!p ·)).drop 1) := by
  have whole : text.takeWhile (!p ·) ++ text.dropWhile (!p ·) = text :=
    List.takeWhile_append_dropWhile
  rw [halves?]
  cases isRest : text.dropWhile (!p ·) with
  | cons c rest => rfl
  | nil =>
    rw [isRest, List.append_nil] at whole
    simp [whole]

theorem exponentParts_eq (text : List Char) : exponentParts text = some (exponentParts? text) := by
  rw [exponentParts, signAndBody_eq]
  rfl

/-- A literal in base sixteen is taken apart without a failure. -/
theorem hexadecimalParts_eq (text : List Char) :
    hexadecimalParts text = some (hexadecimalParts? text) := by
  rw [hexadecimalParts, hexadecimalParts?]
  simp only [splitOnce_eq, exponentParts_eq, Option.bind_eq_bind, Option.bind_some]
  rw [halves?]
  cases text.dropWhile (!Radix.hexadecimal.isExponentMark ·) with
  | nil => simp
  | cons mark exponent =>
    dsimp only
    rw [halves?_getD]
    generalize text.takeWhile (!Radix.hexadecimal.isExponentMark ·) = mantissa
    by_cases malformed : ((mantissa.takeWhile (· != '.')).isEmpty &&
        ((mantissa.dropWhile (· != '.')).drop 1).isEmpty ||
        !(mantissa.takeWhile (· != '.') ++ (mantissa.dropWhile (· != '.')).drop 1).all
          (isDigitIn 16)) = true
    · rw [if_pos malformed]
      exact if_pos malformed
    · rw [if_neg malformed]
      exact if_neg malformed

/-! ## Decimal floating-point literals -/

/-- The number of digits behind a point, and the index behind them. -/
noncomputable def acceptPlaces (data : List Char) (index : Nat) : Option (Nat × Nat) := do
  let (hasPoint, start) ← acceptByte data (· == '.') index
  if hasPoint then
    let stop ← acceptBytes data isAsciiDigit start
    return (stop - start, stop)
  else return (0, start)

/-- Whether nothing stands at an index but an exponent. -/
noncomputable def endsInExponent (data : List Char) (index : Nat) : Option Bool := do
  let (hasMark, behindMark) ← acceptByte data Radix.decimal.isExponentMark index
  if hasMark then
    let (_, start) ← acceptByte data isSign behindMark
    let stop ← acceptBytes data isAsciiDigit start
    return stop != start && stop == data.length
  else return index == data.length

noncomputable def isDecimal (text : List Char) : Option Bool := do
  let data := bytes text
  let whole ← acceptBytes data isAsciiDigit 0
  let (places, stop) ← acceptPlaces data whole
  if whole + places = 0 then return false else endsInExponent data stop

/-- The digits behind a point, and what follows them. -/
def placesAndRest (text : List Char) : List Char × List Char :=
  match text with
  | '.' :: rest => (rest.takeWhile isAsciiDigit, rest.dropWhile isAsciiDigit)
  | rest => ([], rest)

/-- Whether a text is an exponent, or nothing. -/
def isExponentOrEnd : List Char → Bool
  | [] => true
  | mark :: rest => Radix.decimal.isExponentMark mark && (exponentParts? rest).isSome

theorem signAndBody_snd (text : List Char) :
    (Number.signAndBody text).2 = (Split.one isSign text).rest := by
  cases text with
  | nil => rfl
  | cons c rest =>
    by_cases sign : isSign c = true
    · simp [Number.signAndBody, Split.one, sign]
    · simp [Number.signAndBody, Split.one, Split.none, sign]

theorem isSome_exponentParts? (text : List Char) :
    (exponentParts? text).isSome =
      (!(Split.one isSign text).rest.isEmpty && (Split.one isSign text).rest.all isAsciiDigit) := by
  rw [← signAndBody_snd, exponentParts?]
  generalize Number.signAndBody text = signed
  by_cases areDigits : (!signed.2.isEmpty && signed.2.all isAsciiDigit) = true
  · simp [areDigits]
  · simp [areDigits]

/-- The parts of a decimal literal, found run by run. -/
theorem decimalParts?_eq (text : List Char) :
    decimalParts? text =
      let whole := text.takeWhile isAsciiDigit
      let places := placesAndRest (text.dropWhile isAsciiDigit)
      if whole.isEmpty && places.1.isEmpty then none
      else
        match places.2 with
        | [] => some ⟨whole, places.1, false, []⟩
        | mark :: rest =>
          if Radix.decimal.isExponentMark mark then
            (exponentParts? rest).map fun (negative, exponent) =>
              ⟨whole, places.1, negative, exponent⟩
          else none :=
  rfl

namespace ByteFacing

variable {data text : List Char} {index : Nat}

/-- A point and its digits. -/
theorem exists_acceptPlaces (facing : ByteFacing data index text) :
    ∃ stop, acceptPlaces data index = some ((placesAndRest text).1.length, stop) ∧
      ByteFacing data stop (placesAndRest text).2 := by
  rw [acceptPlaces, facing.acceptByte (ofAscii_beq '.' (by decide))]
  fun_cases placesAndRest text with
  | case1 rest =>
    have behind := facing.tail (by decide)
    have digits := behind.acceptBytes lt_of_isAsciiDigit
    refine ⟨_, ?_, behind.run lt_of_isAsciiDigit⟩
    simp [Split.one, digits]
  | case2 =>
    rename_i notPoint
    have noPoint := any_head?_of_ne notPoint
    refine ⟨index, ?_, facing⟩
    cases text with
    | nil => rfl
    | cons c rest =>
      have isOther : c ≠ '.' := by simpa using noPoint
      simp [Split.one, Split.none, isOther]

/-- A run of digits up to the end is a text of digits. -/
theorem digits_atEnd (facing : ByteFacing data index text) :
    (index + (text.takeWhile isAsciiDigit).length != index &&
      index + (text.takeWhile isAsciiDigit).length == data.length) =
    (!text.isEmpty && text.all isAsciiDigit) := by
  rw [(facing.run lt_of_isAsciiDigit).atEnd]
  by_cases areDigits : text.all isAsciiDigit = true
  · have taken : text.takeWhile isAsciiDigit = text :=
      List.takeWhile_eq_self_iff.2 (List.all_eq_true.1 areDigits)
    have nothingLeft : text.dropWhile isAsciiDigit = [] :=
      List.dropWhile_eq_nil_iff.2 (List.all_eq_true.1 areDigits)
    rw [taken, nothingLeft, areDigits]
    cases text <;> simp
  · have somethingLeft : text.dropWhile isAsciiDigit ≠ [] := fun nothing =>
      areDigits (List.all_eq_true.2 (List.dropWhile_eq_nil_iff.1 nothing))
    have notEmpty : (text.dropWhile isAsciiDigit).isEmpty = false :=
      List.isEmpty_eq_false_iff.2 somethingLeft
    rw [notEmpty, Bool.eq_false_iff.2 areDigits, Bool.and_false, Bool.and_false]

/-- The bytes from an index on are an exponent, or none, exactly where the text there is. -/
theorem endsInExponent (facing : ByteFacing data index text) :
    endsInExponent data index = some (isExponentOrEnd text) := by
  rw [Checked.endsInExponent, facing.acceptByte (ofAscii_of_lt lt_of_isExponentMark),
    facing.atEnd]
  cases text with
  | nil => rfl
  | cons mark rest =>
    by_cases isMark : Radix.decimal.isExponentMark mark = true
    · have behindMark := facing.tail (lt_of_isExponentMark mark isMark)
      have behindSign := behindMark.one lt_of_isSign
      have digits := behindSign.acceptBytes lt_of_isAsciiDigit
      have takesMark : (Split.one Radix.decimal.isExponentMark (mark :: rest)).taken = [mark] := by
        simp [Split.one, isMark]
      simp only [takesMark, List.head?_cons, Option.any_some, isMark, if_true,
        List.length_singleton, behindMark.acceptByte (ofAscii_of_lt lt_of_isSign), digits,
        behindSign.digits_atEnd,
        Option.bind_eq_bind, Option.bind_some, isExponentOrEnd, isSome_exponentParts?,
        Bool.true_and]
      rfl
    · simp [isExponentOrEnd, isMark]

end ByteFacing

/-- The bytes tell a decimal literal exactly where the characters can be taken apart. -/
theorem isDecimal_eq (text : List Char) : isDecimal text = some (decimalParts? text).isSome := by
  have start := ByteFacing.start text
  obtain ⟨stop, places, facing⟩ := (start.run lt_of_isAsciiDigit).exists_acceptPlaces
  rw [isDecimal, start.acceptBytes lt_of_isAsciiDigit, decimalParts?_eq]
  simp only [Option.bind_eq_bind, Option.bind_some, places, facing.endsInExponent]
  generalize text.takeWhile isAsciiDigit = whole
  generalize placesAndRest (text.dropWhile isAsciiDigit) = split
  have count : 0 + whole.length + split.1.length = 0 ↔
      (whole.isEmpty && split.1.isEmpty) = true := by
    simp
  by_cases noDigits : (whole.isEmpty && split.1.isEmpty) = true
  · rw [if_pos (count.2 noDigits), if_pos noDigits]
    rfl
  · rw [if_neg (noDigits ∘ count.1), if_neg noDigits]
    cases split.2 with
    | nil => rfl
    | cons mark rest =>
      by_cases isMark : Radix.decimal.isExponentMark mark = true
      · simp [isExponentOrEnd, isMark]
      · simp [isExponentOrEnd, isMark]

/-! ## All readings -/

def isHexadecimalMark : List Char → Bool
  | ['0', letter] => Radix.ofLetter? letter == some .hexadecimal
  | _ => false

noncomputable def readMagnitude (body : List Char) : Option (Option Binary64) := do
  -- where the first two bytes are no text they are no mark either
  if (slice? body 0 2).any isHexadecimalMark then
    return (← hexadecimalParts (← suffix? body 2)).map DecimalParts.toDoubleHex
  else if ← isDecimal body then return (decimalParts? body).map DecimalParts.toDouble
  else return none

noncomputable def readFloat (text : List Char) : Option (Option Binary64) := do
  let (negative, body) ← signAndBody text
  if ← isMisgrouped body text then return none
  match ← readMagnitude (body.filter (· != '_')) with
  | none => return none
  | some magnitude =>
    return if magnitude.isFinite then some (if negative then magnitude.neg else magnitude) else none

noncomputable def readings (text : List Char) : Option (Except NumberFault Readings) := do
  let unsigned ← readUnsigned text
  let signed ← readSigned text
  match signed, unsigned with
  | .ok n, unsigned =>
    let uint := if n = 0 then some 0 else unsigned.toOption.map UInt64.ofNat
    return .ok { int := some (.ofInt n), uint, float := some (.ofInt n) }
  | .error _, .ok n => return .ok { int := none, uint := some (.ofNat n), float := some (.ofInt n) }
  | .error signed, .error unsigned =>
    match ← readFloat text with
    | none => return .error .illegalNumber
    | some x =>
      if Readings.looksFractional text then return .ok (.ofDouble x)
      else if signed == .tooLarge || unsigned == .tooLarge then return .error .integerOverflow
      else return .error .illegalNumber

/-- The numeric literal of a text that stands at a span. -/
noncomputable def classify (text : String) (span : Span) :
    Option (Except TagError NumberLiteral) := do
  match ← readings text.toList with
  | .ok readings => return .ok { toReadings := readings, text, span }
  | .error fault => return .error (.numeric fault text span)

/-- A mark is a zero and a letter that selects base sixteen. -/
theorem isHexadecimalMark_iff {text : List Char} :
    isHexadecimalMark text = true ↔
      ∃ letter, text = ['0', letter] ∧ Radix.ofLetter? letter = some .hexadecimal := by
  fun_cases isHexadecimalMark text with
  | case1 letter => simp
  | case2 =>
    rename_i isOther
    constructor
    · intro isTrue
      contradiction
    · rintro ⟨letter, isText, -⟩
      exact (isOther letter isText).elim

/-- The mark is two characters of one byte each. -/
theorem any_isHexadecimalMark_iff {body : List Char} :
    (slice? body 0 2).any isHexadecimalMark = true ↔
      ∃ letter rest, body = '0' :: letter :: rest ∧ Radix.ofLetter? letter = some .hexadecimal := by
  constructor
  · intro marked
    cases cut : slice? body 0 2 with
    | none => simp [cut] at marked
    | some front =>
      rw [cut] at marked
      obtain ⟨letter, rfl, selects⟩ := isHexadecimalMark_iff.1 marked
      obtain ⟨before, after, rfl, isSpan⟩ := Span.source?_eq_some_iff.1 cut
      have starts : byteLength before = 0 := (congrArg Span.start isSpan).symm
      have nothing : before = [] := by
        by_contra nonempty
        have positive := byteLength_pos nonempty
        omega
      exact ⟨letter, after, by rw [nothing]; rfl, selects⟩
  · rintro ⟨letter, rest, rfl, selects⟩
    have front : Facing ('0' :: letter :: rest) 0 (['0', letter] ++ rest) := Facing.start _
    have stop : 0 + byteLength ['0', letter] = 2 := by
      simp [utf8Size_of_ascii (lt_of_ofLetter? selects), show '0'.utf8Size = 1 from rfl]
    have cut := front.slice?
    rw [stop] at cut
    rw [cut]
    exact isHexadecimalMark_iff.2 ⟨letter, rfl, selects⟩

theorem readMagnitude?_of_unmarked {body : List Char}
    (unmarked : ¬ ∃ letter rest, body = '0' :: letter :: rest ∧
      Radix.ofLetter? letter = some .hexadecimal) :
    readMagnitude? body = (decimalParts? body).map DecimalParts.toDouble := by
  fun_cases readMagnitude? body with
  | case1 letter rest selects => exact absurd ⟨letter, rest, rfl, by simpa using selects⟩ unmarked
  | case2 => rfl
  | case3 => rfl

theorem readMagnitude_eq (body : List Char) : readMagnitude body = some (readMagnitude? body) := by
  rw [readMagnitude]
  by_cases marked : (slice? body 0 2).any isHexadecimalMark = true
  · obtain ⟨letter, rest, rfl, selects⟩ := any_isHexadecimalMark_iff.1 marked
    rw [if_pos marked, suffix?_two (by decide) (lt_of_ofLetter? selects)]
    simp [hexadecimalParts_eq, readMagnitude?, selects]
  · rw [if_neg marked, isDecimal_eq,
      readMagnitude?_of_unmarked (marked ∘ any_isHexadecimalMark_iff.2)]
    cases decimalParts? body <;> rfl

/-- Reading a double never fails, whatever the text is. -/
theorem readFloat_eq (text : List Char) : readFloat text = some (readFloat? text) := by
  rw [readFloat, readFloat?]
  simp only [signAndBody_eq, isMisgrouped_eq, readMagnitude_eq, Option.bind_eq_bind,
    Option.bind_some]
  generalize Number.signAndBody text = signed
  by_cases misgrouped : (signed.2.contains '_' && !Number.isGrouped text) = true
  · rw [if_pos misgrouped, if_pos misgrouped]
    rfl
  · rw [if_neg misgrouped, if_neg misgrouped]
    cases readMagnitude? (signed.2.filter (· != '_')) <;> rfl

/-- Nothing fails, whatever the text is. -/
theorem readings_eq (text : List Char) : readings text = some (Readings.ofText text) := by
  rw [readings, Readings.ofText]
  simp only [readUnsigned_eq, readSigned_eq, readFloat_eq, Option.bind_eq_bind, Option.bind_some]
  cases Number.readSigned text with
  | ok n => rfl
  | error signed =>
    cases Number.readUnsigned text with
    | ok n => rfl
    | error unsigned =>
      simp only [Readings.ofFloatText]
      cases readFloat? text with
      | none => rfl
      | some x =>
        dsimp only
        split_ifs <;> rfl

theorem classify_eq (text : String) (span : Span) :
    (classify text span).map (·.map Value.number) = some (Value.ofToken ⟨.number, text, span⟩) := by
  rw [classify, readings_eq, Value.ofToken]
  cases Readings.ofText text.toList <;> rfl

end RecordTags.Checked
