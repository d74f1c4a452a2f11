import RecordTags.Json.Print
import RecordTags.Json.Read
import RecordTags.Proofs.Number.Decimal

/-!
Contract: the texts of JSON scalars are read as the lexemes that they write.

Owns:
- `Lexes`, a text that is read as a scalar wherever what follows continues
  neither a number nor a word;
- the first lexeme of a text that starts with a blank, a mark or a string;
- words, whole numbers and doubles as scalars.

That a double is printed as a number is proved; that this number denotes it is
`KeepsDouble`, which fails for some doubles, since reading rounds twice.
-/

namespace RecordTags.Json

open RecordTags.Text

/-- What continues neither a number nor a word. -/
def Closes (text : List Char) : Prop :=
  ∀ c ∈ text.head?, isNumberChar c = false ∧ c.isAlpha = false

def andMore (lexeme : Lexeme) (more : List Lexeme × Bool) : List Lexeme × Bool :=
  (lexeme :: more.1, more.2)

/-- A text that is read as a scalar, wherever it is closed. -/
def Lexes (text : List Char) (value : Json) : Prop :=
  ∀ rest, Closes rest → lexemes (text ++ rest) = andMore (.scalar value) (lexemes rest)

/-! ## Blanks and marks -/

theorem lexemes_blank {c : Char} (blank : isBlank c = true) (rest : List Char) :
    lexemes (c :: rest) = lexemes rest := by
  rw [lexemes, if_pos blank]

theorem isBlank_of_mark {c : Char} {mark : Mark} (isMark : mark? c = some mark) :
    isBlank c = false := by
  unfold mark? at isMark
  split at isMark <;> first | rfl | contradiction

theorem lexemes_mark {c : Char} {mark : Mark} (isMark : mark? c = some mark)
    (rest : List Char) : lexemes (c :: rest) = andMore (.mark mark) (lexemes rest) := by
  rw [lexemes, isBlank_of_mark isMark, isMark]
  rfl

/-! ## Strings -/

/-- A string is one lexeme. -/
theorem lexemes_string {text after : List Char} {units : List Nat}
    (read : readUnits text = some (units, after)) :
    lexemes ('\x22' :: text) =
      andMore (.string ((textOfUnits? units).map String.ofList)) (lexemes after) := by
  rw [lexemes]
  have noMark : mark? '\x22' = none := rfl
  simp only [noMark]
  rw [if_neg (by decide), if_pos (by decide)]
  split
  next unread =>
    rw [read] at unread
    contradiction
  next otherUnits otherAfter same =>
    rw [read] at same
    cases same
    rfl

theorem readUnits_quote (rest : List Char) : readUnits ('\x22' :: rest) = some ([], rest) := by
  rw [readUnits.eq_def]
  rfl

theorem readUnits_letter {letter : Char} {unit : Nat} (known : escapedUnit? letter = some unit)
    (rest : List Char) :
    readUnits ('\\' :: letter :: rest) =
      (readUnits rest).map fun (units, after) => (unit :: units, after) := by
  have notNumeric : ¬ (letter == 'u') = true := by
    intro isNumeric
    rw [eq_of_beq isNumeric] at known
    contradiction
  rw [readUnits.eq_def]
  simp only [if_neg notNumeric, known]
  rfl

theorem readUnits_plain {c : Char} (noQuote : ¬ (c == '\x22') = true)
    (noBackslash : ¬ (c == '\\') = true) (noControl : ¬ c.toNat < 0x20) (rest : List Char) :
    readUnits (c :: rest) =
      (readUnits rest).map fun (units, after) => (c.toNat :: units, after) := by
  rw [readUnits.eq_def]
  simp only [if_neg noQuote, if_neg noBackslash, if_neg noControl]

/-- A control character in its escaped form is read as itself. -/
theorem readUnits_hexadecimal {n : Nat} (isControl : n < 0x20) (rest : List Char) :
    readUnits ('\\' :: 'u' :: ((hexadecimal 4 n).toList ++ rest)) =
      (readUnits rest).map fun (units, after) => (n :: units, after) := by
  have fourDigits : ∀ n < 0x20,
      (hexadecimal 4 n).toList = ['0', '0', (n / 16).digitChar, (n % 16).digitChar] := by
    decide +kernel
  have values : ∀ n < 0x20,
      ['0', '0', (n / 16).digitChar, (n % 16).digitChar].mapM (digitValue? 16) =
        some [0, 0, n / 16, n % 16] := by
    decide +kernel
  have whole : ofDigits 16 [0, 0, n / 16, n % 16] = n := by
    simp only [ofDigits, List.foldl_cons, List.foldl_nil]
    omega
  rw [fourDigits n isControl, readUnits.eq_def]
  simp only [List.cons_append, List.nil_append, values n isControl, whole]
  rfl

/-- What is written for a character inside a string denotes the character. -/
theorem readUnits_escapedChar (c : Char) (rest : List Char) :
    readUnits ((escapedChar c).toList ++ rest) =
      (readUnits rest).map fun (units, after) => (c.toNat :: units, after) := by
  unfold escapedChar
  split_ifs with isQuote isBackslash isFeed isReturn isTab isBackspace isPageFeed isControl
  · rw [eq_of_beq isQuote]
    exact readUnits_letter rfl rest
  · rw [eq_of_beq isBackslash]
    exact readUnits_letter rfl rest
  · rw [eq_of_beq isFeed]
    exact readUnits_letter rfl rest
  · rw [eq_of_beq isReturn]
    exact readUnits_letter rfl rest
  · rw [eq_of_beq isTab]
    exact readUnits_letter rfl rest
  · rw [isBackspace]
    exact readUnits_letter rfl rest
  · rw [isPageFeed]
    exact readUnits_letter rfl rest
  · have marks : "\\u".toList = ['\\', 'u'] := by decide
    rw [String.toList_append, List.append_assoc, marks, List.cons_append, List.singleton_append]
    exact readUnits_hexadecimal isControl rest
  · rw [String.toList_singleton, List.singleton_append]
    exact readUnits_plain isQuote isBackslash isControl rest

theorem readUnits_escaped (text rest : List Char) :
    readUnits (text.flatMap (fun c => (escapedChar c).toList) ++ '\x22' :: rest) =
      some (text.map Char.toNat, rest) := by
  induction text with
  | nil => exact readUnits_quote rest
  | cons c text inductionHypothesis =>
      rw [List.flatMap_cons, List.append_assoc, readUnits_escapedChar, inductionHypothesis]
      rfl

/-- Characters are no halves of surrogate pairs. -/
theorem textOfUnits?_map_toNat (text : List Char) :
    textOfUnits? (text.map Char.toNat) = some text := by
  induction text with
  | nil => rw [List.map_nil, textOfUnits?]
  | cons c text inductionHypothesis =>
      have valid : c.toNat < 0xD800 ∨ 0xDFFF < c.toNat ∧ c.toNat < 0x110000 := c.valid
      have noHigh : ¬ (0xD800 ≤ c.toNat && c.toNat < 0xDC00) = true := by
        rw [Bool.and_eq_true, decide_eq_true_iff, decide_eq_true_iff]
        omega
      have noLow : ¬ (0xDC00 ≤ c.toNat && c.toNat < 0xE000) = true := by
        rw [Bool.and_eq_true, decide_eq_true_iff, decide_eq_true_iff]
        omega
      rw [List.map_cons, textOfUnits?.eq_def]
      simp only [if_neg noHigh, if_neg noLow, inductionHypothesis, Option.map_some,
        Char.ofNat_toNat]

theorem toList_quote (text : String) :
    (quote text).toList =
      '\x22' :: (text.toList.flatMap (fun c => (escapedChar c).toList) ++ ['\x22']) := by
  rw [quote, String.toList_append, String.toList_append, String.toList_join, List.flatMap_map]
  rfl

theorem lexemes_quote (text : String) (rest : List Char) :
    lexemes ((quote text).toList ++ rest) = andMore (.string (some text)) (lexemes rest) := by
  rw [toList_quote, List.cons_append, List.append_assoc, List.singleton_append,
    lexemes_string (readUnits_escaped text.toList rest), textOfUnits?_map_toNat,
    Option.map_some, String.ofList_toList]

/-! ## Numbers and words -/

theorem mark?_of_isNumberChar {c : Char} (isNumber : isNumberChar c = true) : mark? c = none := by
  unfold mark?
  split <;> first | rfl | contradiction

theorem isBlank_of_isNumberChar {c : Char} (isNumber : isNumberChar c = true) :
    isBlank c = false := by
  by_contra isBlank
  simp only [Json.isBlank, Bool.not_eq_false, Bool.or_eq_true, beq_iff_eq] at isBlank
  rcases isBlank with ((rfl | rfl) | rfl) | rfl <;> contradiction

def startsNumber (c : Char) : Bool := c == '-' || isAsciiDigit c

theorem isNumberChar_of_startsNumber {c : Char} (starts : startsNumber c = true) :
    isNumberChar c = true := by
  rw [startsNumber, Bool.or_eq_true] at starts
  rcases starts with isMinus | isDigit
  · rw [eq_of_beq isMinus]
    rfl
  · simp [isNumberChar, isDigit]

/-- A run of characters ends where something else follows. -/
theorem takeWhile_append_of_closed {p : Char → Bool} {run rest : List Char}
    (all : ∀ c ∈ run, p c = true) (closed : ∀ c ∈ rest.head?, p c = false) :
    (run ++ rest).takeWhile p = run ∧ (run ++ rest).dropWhile p = rest := by
  rw [List.takeWhile_append_of_pos all, List.dropWhile_append_of_pos all]
  cases rest with
  | nil => simp
  | cons c rest =>
      have stops : p c = false := closed c rfl
      simp [stops]

/-- What starts a number is none of the other lexemes. -/
theorem lexemes_number {first : Char} (starts : startsNumber first = true) (text : List Char) :
    lexemes (first :: text) =
      match scalar? first text with
      | none => ([], false)
      | some (value, extent) => andMore (.scalar value) (lexemes extent.rest) := by
  have isNumber := isNumberChar_of_startsNumber starts
  have noQuote : ¬ (first == '\x22') = true := by
    intro isQuote
    rw [eq_of_beq isQuote] at isNumber
    contradiction
  rw [lexemes]
  simp only [isBlank_of_isNumberChar isNumber, mark?_of_isNumberChar isNumber, if_neg noQuote]
  rfl

/-- A text that is a number in full is one lexeme. -/
theorem lexes_number {first : Char} {rest : List Char} {parts : NumberParts}
    (starts : startsNumber first = true) (all : ∀ c ∈ rest, isNumberChar c = true)
    (read : NumberParts.ofText? (first :: rest) = some parts) :
    Lexes (first :: rest) parts.value := by
  intro after closes
  obtain ⟨taken, left⟩ := takeWhile_append_of_closed all fun c member => (closes c member).1
  have scalar : scalar? first (rest ++ after) =
      some (parts.value, Split.run isNumberChar (rest ++ after)) := by
    refine (if_pos starts).trans ?_
    simp only [Split.run, taken, read, Option.map_some]
  rw [List.cons_append, lexemes_number starts, scalar]
  simp only [Split.run, left]

/-- A word that has a value is one lexeme. -/
theorem lexes_word {first : Char} {rest : List Char} {value : Json}
    (noBlank : isBlank first = false) (noMark : mark? first = none)
    (noQuote : ¬ (first == '\x22') = true) (noNumber : ¬ startsNumber first = true)
    (all : ∀ c ∈ rest, c.isAlpha = true) (read : word? (first :: rest) = some value) :
    Lexes (first :: rest) value := by
  intro after closes
  obtain ⟨taken, left⟩ := takeWhile_append_of_closed all fun c member => (closes c member).2
  have scalar : scalar? first (rest ++ after) =
      some (value, Split.run Char.isAlpha (rest ++ after)) := by
    refine (if_neg noNumber).trans ?_
    simp only [Split.run, taken, read, Option.map_some]
  rw [List.cons_append, lexemes]
  simp only [noBlank, noMark, if_neg noQuote, scalar, Split.run, left]
  rfl

theorem lexes_null : Lexes "null".toList .null :=
  lexes_word rfl rfl (by decide) (by decide) (by decide) rfl

theorem lexes_bool (value : Bool) :
    Lexes (if value then "true" else "false").toList (.bool value) := by
  cases value with
  | true => exact lexes_word rfl rfl (by decide) (by decide) (by decide) rfl
  | false => exact lexes_word rfl rfl (by decide) (by decide) (by decide) rfl

/-! ## Whole numbers -/

/-- The digits of a number denote it. -/
theorem ofDigits_toDigits (n : Nat) :
    ofDigits 10 (Number.digitValues 10 (Nat.toDigits 10 n)) = n := by
  induction n using Nat.strongRecOn with
  | ind n inductionHypothesis =>
      by_cases oneDigit : n < 10
      · rw [Nat.toDigits_of_lt_base oneDigit]
        simp [Number.digitValues, Number.digitValue?_digitChar oneDigit, ofDigits]
      · have lastDigit : n % 10 < 10 := Nat.mod_lt n (by decide)
        rw [Nat.toDigits_of_base_le (by decide) (by omega), Number.digitValues,
          List.filterMap_append]
        have last : [(n % 10).digitChar].filterMap (digitValue? 10) = [n % 10] := by
          simp [Number.digitValue?_digitChar lastDigit]
        rw [last, ofDigits_append_singleton, ← Number.digitValues,
          inductionHypothesis (n / 10) (by omega)]
        omega

/-- Digits without a needless zero are a number, with or without a minus sign. -/
theorem ofText?_digits (negative : Bool) {first : Char} {rest : List Char}
    (all : ∀ c ∈ first :: rest, isAsciiDigit c = true) (plain : first = '0' → rest = []) :
    NumberParts.ofText? ((if negative then ['-'] else []) ++ first :: rest) =
      some ⟨negative, Number.digitValues 10 (first :: rest), none, none⟩ := by
  have taken : (first :: rest).takeWhile isAsciiDigit = first :: rest :=
    List.takeWhile_eq_self_iff.2 all
  have left : (first :: rest).dropWhile isAsciiDigit = [] := List.dropWhile_eq_nil_iff.2 all
  have isDigit : isAsciiDigit first = true := all first List.mem_cons_self
  unfold NumberParts.ofText?
  split
  next sign body signed =>
    have sameSign : (negative, first :: rest) = (sign, body) := by
      cases negative with
      | true => exact signed
      | false =>
          rw [← signed]
          split
          next isMinus =>
            obtain ⟨rfl, -⟩ := List.cons.inj isMinus
            contradiction
          next => rfl
    cases sameSign
    simp only [taken, left]
    refine (if_neg ?_).trans rfl
    split
    next => contradiction
    next second others same =>
      obtain ⟨rfl, rfl⟩ := List.cons.inj same
      exact absurd (plain rfl) (List.cons_ne_nil _ _)
    next => decide

/-- The digits of a natural number, with their parts as a JSON number. -/
theorem exists_toDigits (n : Nat) :
    ∃ first rest, Nat.toDigits 10 n = first :: rest ∧ startsNumber first = true ∧
      (∀ c ∈ first :: rest, isNumberChar c = true) ∧
      ∀ negative, NumberParts.ofText? ((if negative then ['-'] else []) ++ first :: rest) =
        some ⟨negative, Number.digitValues 10 (Nat.toDigits 10 n), none, none⟩ := by
  obtain ⟨first, rest, digits, isDigit⟩ := Number.exists_cons_toDigits n
  have all : ∀ c ∈ first :: rest, isAsciiDigit c = true := by
    rw [← digits]
    exact fun c => Number.isAsciiDigit_of_mem_toDigits
  have plain : first = '0' → rest = [] := by
    rintro rfl
    by_cases isZero : n = 0
    · rw [isZero, Nat.toDigits_zero] at digits
      exact (List.cons.inj digits).2.symm
    · exact absurd digits (Number.toDigits_ne_zero_cons (Nat.pos_of_ne_zero isZero) rest)
  refine ⟨first, rest, digits, by simp [startsNumber, isDigit], fun c member => ?_, ?_⟩
  · simp [isNumberChar, all c member]
  · rw [digits]
    exact fun negative => ofText?_digits negative all plain

/-- Whole numbers that fit 64 bits, signed or unsigned, are read from their digits. -/
theorem lexes_decimalInt {n : Int} (lower : -(Number.signedBound : Int) ≤ n)
    (upper : n < Number.unsignedBound) : Lexes (decimalInt n).toList (.int n) := by
  obtain ⟨first, rest, digits, starts, all, read⟩ := exists_toDigits n.natAbs
  by_cases negative : n < 0
  · have value : NumberParts.value
        ⟨true, Number.digitValues 10 (Nat.toDigits 10 n.natAbs), none, none⟩ = .int n := by
      have inRange : (0 < n.natAbs && n.natAbs ≤ Number.signedBound) = true := by
        simp only [Bool.and_eq_true, decide_eq_true_iff]
        omega
      simp only [NumberParts.value, ofDigits_toDigits, if_true, if_pos inRange]
      congr 1
      omega
    rw [Number.toList_decimalInt_of_neg negative, digits, ← value]
    exact lexes_number rfl all (read true)
  · have value : NumberParts.value
        ⟨false, Number.digitValues 10 (Nat.toDigits 10 n.natAbs), none, none⟩ = .int n := by
      have inRange : n.natAbs < Number.unsignedBound := by omega
      simp only [NumberParts.value, ofDigits_toDigits, Bool.false_eq_true, if_false,
        if_pos inRange]
      congr 1
      omega
    rw [Number.toList_decimalInt_of_nonneg (Int.not_lt.1 negative), digits, ← value]
    exact lexes_number starts (fun c member => all c (List.mem_cons_of_mem first member))
      (read false)

/-! ## Doubles -/

/-- A text of characters of numbers, the first of which may start one. -/
structure IsNumeric (text : List Char) : Prop where
  starts : ∃ first rest, text = first :: rest ∧ startsNumber first = true
  all : ∀ c ∈ text, isNumberChar c = true

theorem IsNumeric.cons {first : Char} {rest : List Char} (starts : startsNumber first = true)
    (all : ∀ c ∈ rest, isNumberChar c = true) : IsNumeric (first :: rest) :=
  ⟨⟨first, rest, rfl, starts⟩,
    List.forall_mem_cons.2 ⟨isNumberChar_of_startsNumber starts, all⟩⟩

theorem IsNumeric.append {left right : List Char} (numeric : IsNumeric left)
    (all : ∀ c ∈ right, isNumberChar c = true) : IsNumeric (left ++ right) := by
  obtain ⟨⟨first, rest, rfl, starts⟩, allLeft⟩ := numeric
  exact ⟨⟨first, rest ++ right, rfl, starts⟩, List.forall_mem_append.2 ⟨allLeft, all⟩⟩

theorem isNumberChar_of_mem_toDigits {n : Nat} {c : Char} (member : c ∈ Nat.toDigits 10 n) :
    isNumberChar c = true := by
  simp [isNumberChar, Number.isAsciiDigit_of_mem_toDigits member]

theorem isNumberChar_of_mem_zeros {count : Nat} {c : Char} (member : c ∈ List.replicate count '0') :
    isNumberChar c = true := by
  rw [List.eq_of_mem_replicate member]
  rfl

/-- The positional form of a number is numeric. -/
theorem isNumeric_plain {digits : List Char} (numeric : IsNumeric digits) (places : Int) :
    IsNumeric (Decimal.Layout.plain digits places) := by
  have zero : IsNumeric ['0', '.'] := .cons rfl (by decide)
  unfold Decimal.Layout.plain
  split
  next => exact (zero.append fun c => isNumberChar_of_mem_zeros).append numeric.all
  next positive =>
    obtain ⟨⟨first, rest, rfl, starts⟩, all⟩ := numeric
    obtain ⟨count, isSucc⟩ : ∃ count, places.toNat = count + 1 :=
      ⟨places.toNat - 1, by omega⟩
    have whole : IsNumeric ((first :: rest).take places.toNat) := by
      rw [isSucc, List.take_succ_cons]
      exact .cons starts fun c member =>
        all c (List.mem_cons_of_mem first (List.mem_of_mem_take member))
    refine ((whole.append fun c => isNumberChar_of_mem_zeros).append (by decide)).append ?_
    split
    · decide
    · exact fun c member => all c (List.mem_of_mem_drop member)

/-- The scientific form of a number is numeric. -/
theorem isNumeric_scientific {digits : List Char} (numeric : IsNumeric digits)
    (layout : Decimal.Layout) (exponent : Int) :
    IsNumeric (layout.scientific digits exponent) := by
  obtain ⟨⟨first, rest, rfl, starts⟩, all⟩ := numeric
  have allRest : ∀ c ∈ rest, isNumberChar c = true := (List.forall_mem_cons.1 all).2
  unfold Decimal.Layout.scientific
  refine (IsNumeric.append (IsNumeric.append ?_ (by decide)) ?_).append
    fun c => isNumberChar_of_mem_toDigits
  · cases rest with
    | nil => exact .cons starts allRest
    | cons second rest => exact .cons starts (List.forall_mem_cons.2 ⟨rfl, allRest⟩)
  · split
    · decide
    · split <;> decide

theorem isNumeric_toDigits (n : Nat) : IsNumeric (Nat.toDigits 10 n) := by
  obtain ⟨first, rest, digits, starts, all, -⟩ := exists_toDigits n
  exact ⟨⟨first, rest, digits, starts⟩, fun c => isNumberChar_of_mem_toDigits⟩

/-- The text of a double is numeric in every layout. -/
theorem isNumeric_text (layout : Decimal.Layout) (x : Binary64) :
    IsNumeric (layout.text x).toList := by
  have signed {text : List Char} (numeric : IsNumeric text) :
      IsNumeric ((if x.negative then ['-'] else []) ++ text) := by
    split
    · exact .cons rfl numeric.all
    · exact numeric
  by_cases isZero : x.isZero = true
  · simp only [Decimal.Layout.text, if_pos isZero, String.toList_ofList]
    exact signed (.cons rfl (by decide))
  · simp only [Decimal.Layout.text, if_neg isZero, String.toList_ofList]
    apply signed
    split
    · exact isNumeric_plain (isNumeric_toDigits _) _
    · exact isNumeric_scientific (isNumeric_toDigits _) layout _

/-- A double that reading its text gives back. -/
def KeepsDouble (x : Binary64) : Prop := read (floatText x) = .ok (.float x)

instance (x : Binary64) : Decidable (KeepsDouble x) :=
  match found : read (floatText x) with
  | .ok (.float y) => decidable_of_iff (y = x) (by simp [KeepsDouble, found])
  | .ok .null | .ok (.bool _) | .ok (.int _) | .ok (.string _) | .ok (.array _) | .ok (.object _)
  | .ok (.unreadable _) | .error _ => isFalse (by simp [KeepsDouble, found])

-- Numbers are read in two roundings, which is one too many for some doubles.
example : ¬ KeepsDouble (.ofRatio false 1 (Nat.pow 10 39)) := by decide +kernel

theorem read_of_lexes {text : String} {value : Json} (lexes : Lexes text.toList value) :
    read text = .ok value := by
  have whole := lexes [] (by simp [Closes])
  rw [List.append_nil, lexemes] at whole
  rw [read, whole]
  rfl

theorem read_of_not_number {text : String} {first : Char} {rest : List Char}
    (split : text.toList = first :: rest) (starts : startsNumber first = true)
    (all : ∀ c ∈ rest, isNumberChar c = true)
    (noNumber : NumberParts.ofText? (first :: rest) = none) (value : Json) :
    read text ≠ .ok value := by
  have unread : scalar? first rest = none := by
    refine (if_pos starts).trans ?_
    simp only [Split.run, List.takeWhile_eq_self_iff.2 all, noNumber, Option.map_none]
  have none : lexemes text.toList = ([], false) := by
    rw [split, lexemes_number starts, unread]
  rw [read, none]
  rintro ⟨⟩

/-- A double is read from its text, if the text keeps it. -/
theorem lexes_floatText {x : Binary64} (keeps : KeepsDouble x) :
    Lexes (floatText x).toList (.float x) := by
  rw [KeepsDouble, floatText] at keeps
  rw [floatText]
  by_cases finite : x.isFinite = true
  · rw [if_pos finite] at keeps ⊢
    obtain ⟨⟨first, rest, split, starts⟩, all⟩ := isNumeric_text floatLayout x
    rw [split] at all
    have allRest := (List.forall_mem_cons.1 all).2
    cases parsed : NumberParts.ofText? (first :: rest) with
    | none => exact absurd keeps (read_of_not_number split starts allRest parsed _)
    | some parts =>
        have lexes := lexes_number starts allRest parsed
        rw [← split] at lexes
        have value : parts.value = .float x :=
          Except.ok.inj ((read_of_lexes lexes).symm.trans keeps)
        rwa [value] at lexes
  · rw [if_neg finite, read_of_lexes lexes_null] at keeps
    cases keeps

end RecordTags.Json
