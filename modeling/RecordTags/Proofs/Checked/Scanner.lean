import Mathlib.Data.PFun
import RecordTags.Proofs.Number.Extent
import RecordTags.Proofs.Text.Source
import RecordTags.Proofs.Token.Sequence
import RecordTags.Token.Cursor

/-!
Contract: the scanner on byte offsets, with every operation that can fail.

A scanner keeps its place in a tag as a number of bytes. To look at the next
character and to take the text of a token it cuts the tag at such numbers, and a
cut beyond the tag, inside a character or with its ends out of order fails. Here
such a failure is `none`, and so is a loop that does not end.

Owns:
- `loop`, which repeats an operation until it has a result;
- `slice?`, the cut that can fail, and what the scanner makes of it: looking at a
  character, taking one, taking a run of them;
- `Scanner`, its modes and its steps;
- that no request for a token fails: the scanner always stands between two
  characters, with its mark not behind it, and it gives the tokens of a `Cursor`.
-/

namespace RecordTags.Checked

open RecordTags.Text

noncomputable section

/-! ## Loops -/

open Classical in
/-- The result of a loop. A round ends the loop or goes on from another state, and a loop that
does not end has no result. -/
def loop {σ β : Type} (round : σ → Option (β ⊕ σ)) (state : σ) : Option β :=
  (PFun.fix (fun state => Part.ofOption (round state)) state).toOption

section Loop

variable {σ β : Type} {round : σ → Option (β ⊕ σ)} {state : σ}

theorem loop_eq_some_iff {result : β} :
    loop round state = some result ↔ round state = some (.inl result) ∨
      ∃ next, round state = some (.inr next) ∧ loop round next = some result := by
  simp only [loop, ← Option.mem_def, Part.mem_toOption]
  simp only [← Part.mem_ofOption]
  exact PFun.mem_fix_iff

theorem loop_of_done {result : β} (isDone : round state = some (.inl result)) :
    loop round state = some result :=
  loop_eq_some_iff.2 (.inl isDone)

theorem loop_of_next {next : σ} (goesOn : round state = some (.inr next)) :
    loop round state = loop round next := by
  ext result
  rw [loop_eq_some_iff, goesOn]
  simp

end Loop

/-! ## Cutting at bytes -/

/-- The characters between two bytes, if both are between characters and in order. -/
def slice? (input : List Char) (start stop : Nat) : Option (List Char) :=
  (⟨start, stop⟩ : Span).source? input

/-- The characters from a byte on. -/
def suffix? (input : List Char) (start : Nat) : Option (List Char) :=
  slice? input start (byteLength input)

/-- The character at a byte, or none at the end. -/
def peek (input : List Char) (position : Nat) : Option (Option Char) := do
  let text ← suffix? input position
  return text.head?

/-- The character at a byte, and the byte behind it. -/
def bump (input : List Char) (position : Nat) : Option (Option Char × Nat) := do
  match ← peek input position with
  | none => return (none, position)
  | some c => return (some c, position + c.utf8Size)

/-- Whether the next character is in a class, and the byte behind it if it is. -/
def accept (input : List Char) (p : Char → Bool) (position : Nat) :
    Option (Bool × Nat) := do
  match ← peek input position with
  | none => return (false, position)
  | some c => return if p c then (true, position + c.utf8Size) else (false, position)

/-- The byte behind a run of characters of a class. -/
def acceptRun (input : List Char) (p : Char → Bool) : Nat → Option Nat :=
  loop fun position => do
    let (accepted, next) ← accept input p position
    return if accepted then .inr next else .inl next

/-- The text stands at the byte, up to the end of the input. -/
def Facing (input : List Char) (position : Nat) (text : List Char) : Prop :=
  ∃ before, input = before ++ text ∧ position = byteLength before

namespace Facing

variable {input text : List Char} {position : Nat}

theorem start (input : List Char) : Facing input 0 input := ⟨[], rfl, rfl⟩

/-- Between two places that the scanner can stand at there is a text to cut out. -/
theorem slice? {taken rest : List Char} (facing : Facing input position (taken ++ rest)) :
    slice? input position (position + byteLength taken) = some taken := by
  obtain ⟨before, rfl, rfl⟩ := facing
  rw [← List.append_assoc]
  exact Span.source?_ofText before taken rest

theorem advance {taken rest : List Char} (facing : Facing input position (taken ++ rest)) :
    Facing input (position + byteLength taken) rest := by
  obtain ⟨before, rfl, rfl⟩ := facing
  exact ⟨before ++ taken, by rw [List.append_assoc], by rw [byteLength_append]⟩

theorem split (facing : Facing input position text) (split : Split text) :
    Facing input (position + byteLength split.taken) split.rest := by
  rw [← split.whole] at facing
  exact facing.advance

/-- A token of a character and a part of what follows it, in front of the rest. -/
theorem consSplit {first : Char} (facing : Facing input position (first :: text))
    (tail : Split text) : Facing input position (first :: tail.taken ++ tail.rest) := by
  rw [List.cons_append, tail.whole]
  exact facing

theorem stop_eq (facing : Facing input position text) :
    position + byteLength text = byteLength input := by
  obtain ⟨before, rfl, rfl⟩ := facing
  rw [byteLength_append]

theorem suffix? (facing : Facing input position text) : suffix? input position = some text := by
  have whole := facing
  rw [← List.append_nil text] at whole
  rw [Checked.suffix?, ← facing.stop_eq, whole.slice?]

theorem peek (facing : Facing input position text) : peek input position = some text.head? := by
  rw [Checked.peek, facing.suffix?]
  rfl

theorem bump_cons {c : Char} {rest : List Char} (facing : Facing input position (c :: rest)) :
    bump input position = some (some c, position + c.utf8Size) := by
  rw [bump, facing.peek]
  rfl

theorem bump_nil (facing : Facing input position []) :
    bump input position = some (none, position) := by
  rw [bump, facing.peek]
  rfl

theorem tail {c : Char} {rest : List Char} (facing : Facing input position (c :: rest)) :
    Facing input (position + c.utf8Size) rest := by
  have cut : Facing input position ([c] ++ rest) := facing
  exact cut.advance

theorem accept (facing : Facing input position text) (p : Char → Bool) :
    accept input p position =
      some (text.head?.any p, position + byteLength (Split.one p text).taken) := by
  rw [Checked.accept, facing.peek]
  cases text with
  | nil => rfl
  | cons c rest =>
    by_cases member : p c = true
    · simp [Split.one, member]
    · simp [Split.one, member, Split.none]

/-- A run of characters is passed over. -/
theorem acceptRun (facing : Facing input position text) (p : Char → Bool) :
    acceptRun input p position =
      some (position + byteLength (Split.run p text).taken) := by
  induction text generalizing position with
  | nil => exact loop_of_done (by rw [facing.accept]; rfl)
  | cons c rest inductionHypothesis =>
    by_cases member : p c = true
    · calc Checked.acceptRun input p position
          = Checked.acceptRun input p (position + c.utf8Size) :=
            loop_of_next (by simp [facing.accept, Split.one, member])
        _ = _ := by simp [inductionHypothesis facing.tail, Split.run, member, Nat.add_assoc]
    · exact loop_of_done (by simp [facing.accept, Split.one, Split.run, member, Split.none])

end Facing

/-- A cut succeeds exactly between two places in order that are between characters. -/
theorem isSome_slice?_iff {input : List Char} {start stop : Nat} :
    (slice? input start stop).isSome = true ↔ (⟨start, stop⟩ : Span).Within input := by
  constructor
  · intro succeeds
    obtain ⟨cut, isCut⟩ := Option.isSome_iff_exists.1 succeeds
    exact Span.within_of_source? isCut
  · intro within
    obtain ⟨front, isFront⟩ := Option.isSome_iff_exists.1 within.starts
    obtain ⟨back, isBack⟩ := Option.isSome_iff_exists.1 within.stops
    have startLength : byteLength front.taken = start := byteLength_of_cutAt? isFront
    have stopLength : byteLength back.taken = stop := byteLength_of_cutAt? isBack
    obtain ⟨between, isTaken⟩ : ∃ between, back.taken = front.taken ++ between := by
      obtain ⟨between, isTaken, -⟩ | ⟨between, isTaken, -⟩ :=
        List.append_eq_append_iff.1 (front.whole.trans back.whole.symm)
      · exact ⟨between, isTaken⟩
      · have lengths := congrArg byteLength isTaken
        have ordered : start ≤ stop := within.ordered
        have nothing : between = [] := by
          by_contra nonempty
          have positive := byteLength_pos nonempty
          rw [byteLength_append] at lengths
          omega
        rw [nothing, List.append_nil] at isTaken
        exact ⟨[], by rw [isTaken, List.append_nil]⟩
    have facing : Facing input start (between ++ back.rest) := by
      refine ⟨front.taken, ?_, startLength.symm⟩
      rw [← List.append_assoc, ← isTaken, back.whole]
    have stops : start + byteLength between = stop := by
      rw [← startLength, ← byteLength_append, ← isTaken, stopLength]
    rw [← stops, facing.slice?]
    rfl

example : slice? ['a', 'é'] 1 2 = none := by decide

/-! ## Numbers and quoted strings -/

/-- The base that a letter behind a leading zero selects, and the byte behind the letter. -/
def acceptRadix (input : List Char) (position : Nat) : Option (Radix × Nat) := do
  let (isHexadecimal, behind) ← accept input (Radix.ofLetter? · == some .hexadecimal) position
  if isHexadecimal then return (.hexadecimal, behind)
  let (isOctal, behind) ← accept input (Radix.ofLetter? · == some .octal) position
  if isOctal then return (.octal, behind)
  let (isBinary, behind) ← accept input (Radix.ofLetter? · == some .binary) position
  if isBinary then return (.binary, behind)
  return (.decimal, position)

def acceptFraction (input : List Char) (radix : Radix) (position : Nat) : Option Nat := do
  let (hasPoint, position) ← accept input (· == '.') position
  if hasPoint then acceptRun input radix.isDigitOrUnderscore position else return position

def acceptExponent (input : List Char) (radix : Radix) (position : Nat) : Option Nat := do
  let (hasExponent, position) ← accept input radix.isExponentMark position
  if hasExponent then
    let (_, position) ← accept input isSign position
    acceptRun input Radix.decimal.isDigitOrUnderscore position
  else return position

def acceptDigits (input : List Char) (radix : Radix) (position : Nat) : Option Nat := do
  let position ← acceptRun input radix.isDigitOrUnderscore position
  let position ← acceptFraction input radix position
  acceptExponent input radix position

def acceptUnsigned (input : List Char) (position : Nat) : Option Nat := do
  let (isZero, position) ← accept input (· == '0') position
  if isZero then
    let (radix, position) ← acceptRadix input position
    acceptDigits input radix position
  else acceptDigits input .decimal position

def acceptNumber (input : List Char) (position : Nat) : Option Nat := do
  let (_, position) ← accept input isSign position
  acceptUnsigned input position

/-- Goes on to the closing quote, and says whether there is one. -/
def acceptQuoted (input : List Char) (closing : Option Char) : Nat → Option (Bool × Nat) :=
  loop fun position => do
    match ← bump input position with
    | (none, position) => return .inl (false, position)
    | (some c, position) =>
      if c == '\\' then
        match ← bump input position with
        | (none, position) => return .inl (false, position)
        | (some _, position) => return .inr position
      else if some c == closing then return .inl (true, position)
      else return .inr position

namespace Facing

variable {input text : List Char} {position : Nat}

theorem acceptRadix_cons {letter : Char} {rest : List Char} {radix : Radix}
    (facing : Facing input position (letter :: rest))
    (selects : Radix.ofLetter? letter = some radix) :
    acceptRadix input position = some (radix, position + letter.utf8Size) := by
  have cases : radix = .hexadecimal ∨ radix = .octal ∨ radix = .binary := by
    unfold Radix.ofLetter? at selects
    grind
  rw [acceptRadix, facing.accept, facing.accept, facing.accept]
  rcases cases with rfl | rfl | rfl <;> simp [Split.one, selects]

theorem acceptRadix_of_none (facing : Facing input position text)
    (selectsNone : text.head?.bind Radix.ofLetter? = none) :
    acceptRadix input position = some (.decimal, position) := by
  rw [acceptRadix, facing.accept, facing.accept, facing.accept]
  cases text with
  | nil => rfl
  | cons letter rest =>
    have selectsNone : Radix.ofLetter? letter = none := selectsNone
    simp [selectsNone]

/-- A point and its digits are passed over. -/
theorem acceptFraction (facing : Facing input position text) (radix : Radix) :
    acceptFraction input radix position =
      some (position + byteLength (Token.fractionExtent radix text).taken) := by
  rw [Checked.acceptFraction, facing.accept]
  cases text with
  | nil => rfl
  | cons c rest =>
    by_cases isPoint : c = '.'
    · have behind := facing.tail.acceptRun radix.isDigitOrUnderscore
      simpa [Token.fractionExtent, isPoint, Split.one, Split.cons, Nat.add_assoc] using behind
    · simp [Token.fractionExtent, isPoint, Split.one, Split.none]

theorem acceptExponent (facing : Facing input position text) (radix : Radix) :
    acceptExponent input radix position =
      some (position + byteLength (Token.exponentExtent radix text).taken) := by
  rw [Checked.acceptExponent, facing.accept]
  cases text with
  | nil => rfl
  | cons c rest =>
    by_cases isMark : radix.isExponentMark c = true
    · have behindSign := facing.tail.split (Split.one isSign rest)
      have behind := behindSign.acceptRun Radix.decimal.isDigitOrUnderscore
      simpa [Token.exponentExtent, isMark, Split.one, Split.cons, Split.andThen,
        facing.tail.accept, Nat.add_assoc] using behind
    · simp [Token.exponentExtent, isMark, Split.one, Split.none]

theorem acceptDigits (facing : Facing input position text) (radix : Radix) :
    acceptDigits input radix position =
      some (position + byteLength (Token.digitsExtent radix text).taken) := by
  have behindDigits := facing.split (Split.run radix.isDigitOrUnderscore text)
  have behindFraction := behindDigits.split (Token.fractionExtent radix _)
  rw [Checked.acceptDigits, facing.acceptRun]
  simp only [Option.bind_eq_bind, Option.bind_some, behindDigits.acceptFraction,
    behindFraction.acceptExponent, Token.digitsExtent, Split.andThen, byteLength_append]
  rw [Nat.add_assoc, Nat.add_assoc, Nat.add_assoc]

/-- What stands behind a leading zero: a letter that selects the base, or digits. -/
theorem afterZero (facing : Facing input position text) :
    (do
        let (radix, position) ← acceptRadix input position
        Checked.acceptDigits input radix position) =
      some (position + byteLength (Token.afterZeroExtent text).taken) := by
  cases text with
  | nil =>
    rw [facing.acceptRadix_of_none rfl]
    exact facing.acceptDigits .decimal
  | cons letter rest =>
    cases selects : Radix.ofLetter? letter with
    | none =>
      rw [facing.acceptRadix_of_none selects]
      simp only [Token.afterZeroExtent, selects]
      exact facing.acceptDigits .decimal
    | some radix =>
      rw [facing.acceptRadix_cons selects]
      have behind := facing.tail.acceptDigits radix
      simpa [Token.afterZeroExtent, selects, Split.cons, Nat.add_assoc] using behind

/-- The longest text that could be an unsigned numeral is passed over. -/
theorem acceptUnsigned (facing : Facing input position text) :
    acceptUnsigned input position =
      some (position + byteLength (Token.unsignedExtent text).taken) := by
  rw [Checked.acceptUnsigned, facing.accept]
  cases text with
  | nil => exact facing.acceptDigits .decimal
  | cons c rest =>
    by_cases isZero : c = '0'
    · have behind := facing.tail.afterZero
      simpa [Token.unsignedExtent, isZero, Split.one, Split.cons, Nat.add_assoc] using behind
    · have behind := facing.acceptDigits .decimal
      simpa [Token.unsignedExtent, isZero, Split.one, Split.none] using behind

/-- A numeral is passed over, from its first character on, a sign or a digit. -/
theorem acceptNumber {first : Char} {rest : List Char} (numeric : isNumericStart first = true)
    (facing : Facing input position (first :: rest)) :
    acceptNumber input position =
      some (position + byteLength (first :: (Token.numberTail first rest).taken)) := by
  rw [Checked.acceptNumber, facing.accept]
  by_cases sign : isSign first = true
  · have behind := facing.tail.acceptUnsigned
    simpa [Token.numberTail, sign, Split.one, Nat.add_assoc] using behind
  · have behind := facing.acceptUnsigned
    have sameExtent : (Token.unsignedExtent (first :: rest)).taken =
        first :: (Token.numberTail first rest).taken := by
      have isDigit : isAsciiDigit first = true := by simpa [isNumericStart, sign] using numeric
      have isTaken := Number.isDigitOrUnderscore_of_isAsciiDigit isDigit
      by_cases isZero : first = '0'
      · simp [Token.unsignedExtent, Token.numberTail, isZero, Split.cons, isSign]
      · have passed := List.dropWhile_cons_of_pos (l := rest) isTaken
        simp [Token.unsignedExtent, Token.numberTail, isZero, sign, Token.digitsExtent,
          Split.andThen, Split.run, isTaken]
        rw [passed]
    rw [sameExtent] at behind
    simpa [sign, Split.one, Split.none] using behind

/-- The scanner comes out behind the closing quote, or at the end if there is none. -/
theorem acceptQuoted (facing : Facing input position text) (quote : Char) :
    acceptQuoted input (some quote) position =
      match Token.quoteTail? quote text with
      | some tail => some (true, position + byteLength tail.taken)
      | none => some (false, position + byteLength text) := by
  fun_induction Token.quoteTail? quote text generalizing position with
  | case1 => exact loop_of_done (by rw [facing.bump_nil]; rfl)
  | case2 c isBackslash =>
    obtain rfl := eq_of_beq isBackslash
    exact loop_of_done (by simp [facing.bump_cons, facing.tail.bump_nil])
  | case3 c isBackslash escaped rest inductionHypothesis =>
    obtain rfl := eq_of_beq isBackslash
    have goesOn : Checked.acceptQuoted input (some quote) position =
        Checked.acceptQuoted input (some quote)
          (position + '\\'.utf8Size + escaped.utf8Size) :=
      loop_of_next (by simp [facing.bump_cons, facing.tail.bump_cons])
    rw [goesOn, inductionHypothesis facing.tail.tail]
    cases Token.quoteTail? quote rest with
    | none => simp [Nat.add_assoc]
    | some tail => simp [Split.cons, Nat.add_assoc]
  | case4 c rest notBackslash isQuote =>
    obtain rfl := eq_of_beq isQuote
    rw [beq_iff_eq] at notBackslash
    exact loop_of_done (by simp [facing.bump_cons, notBackslash])
  | case5 c rest notBackslash notQuote inductionHypothesis =>
    rw [beq_iff_eq] at notBackslash notQuote
    have goesOn : Checked.acceptQuoted input (some quote) position =
        Checked.acceptQuoted input (some quote) (position + c.utf8Size) :=
      loop_of_next (by simp [facing.bump_cons, notBackslash, notQuote])
    rw [goesOn, inductionHypothesis facing.tail]
    cases Token.quoteTail? quote rest with
    | none => simp [Nat.add_assoc]
    | some tail => simp [Split.cons, Nat.add_assoc]

end Facing

/-! ## Steps -/

/-- What a scanner is about to read. -/
inductive Mode where
  | argumentStart
  | inArgument
  | value
  | word
  | quoted
  | number
deriving DecidableEq, Repr

/-- A scanner: where it stands, where its token starts, what it is about to read, and the token
that it has found. -/
structure Scanner where
  position : Nat
  start : Nat
  mode : Option Mode
  pending : Option Token

namespace Scanner

/-- The scanner in a mode, in front of a token. -/
def poised (start : Nat) (mode : Mode) : Scanner :=
  { position := start, start, mode := some mode, pending := none }

/-- Finds a token that ends where the scanner stands. -/
def emit (input : List Char) (kind : TokenKind) (next : Option Mode) (scanner : Scanner) :
    Option Scanner := do
  let text ← slice? input scanner.start scanner.position
  let span : Span := ⟨scanner.start, scanner.position⟩
  return { scanner with
    start := scanner.position
    mode := next
    pending := some { kind, text := String.ofList text, span } }

def fail (fault : LexFault) (start stop : Nat) (scanner : Scanner) : Scanner :=
  { scanner with mode := none, pending := some (.ofFault fault ⟨start, stop⟩) }

def failAt (character : Char) (position : Nat) (scanner : Scanner) : Scanner :=
  scanner.fail (.badCharacter character) position (position + character.utf8Size)

/-- Turns to the literal that a character starts. -/
def literalStart (character : Char) (scanner : Scanner) : Scanner :=
  if isNameStart character then { scanner with mode := some .word }
  else if isNumericStart character then { scanner with mode := some .number }
  else if character == '\x22' || character == '\x27' then { scanner with mode := some .quoted }
  else scanner.failAt character scanner.position

def argumentStart (input : List Char) (scanner : Scanner) : Option Scanner := do
  match ← peek input scanner.position with
  | none => scanner.emit input .eof none
  | some c =>
    if c == '~' || c == '!' then
      let (_, behind) ← bump input scanner.position
      let after : Scanner := { scanner with position := behind }
      let next ← peek input after.position
      if next.any isNameStart then
        after.emit input (if c == '!' then .disable else .enable) (some .word)
      else return after.failAt c scanner.position
    else return scanner.literalStart c

def valueStart (input : List Char) (scanner : Scanner) : Option Scanner := do
  match ← peek input scanner.position with
  | none => return scanner.fail .missingValue scanner.position scanner.position
  | some c => return scanner.literalStart c

def inArgument (input : List Char) (scanner : Scanner) : Option Scanner := do
  let (next, behind) ← bump input scanner.position
  let after : Scanner := { scanner with position := behind }
  match next with
  | none => after.emit input .eof none
  | some c =>
    if c == ',' then after.emit input .argumentSeparator (some .argumentStart)
    else if c == ';' then after.emit input .listSeparator (some .value)
    else if c == '=' then after.emit input .assign (some .value)
    else return after.failAt c scanner.position

/-- Finds a word or a number that ends where the scanner stands, unless what follows cannot
follow one. -/
def closeLiteral (input : List Char) (kind : Option TokenKind) (scanner : Scanner) :
    Option Scanner := do
  let next ← peek input scanner.position
  if next.all isTerminator then scanner.emit input (← kind) (some .inArgument)
  else return scanner.failAt (next.getD '\uFFFD') scanner.position

def word (input : List Char) (scanner : Scanner) : Option Scanner := do
  let behind ← acceptRun input isNameContinue scanner.position
  let after : Scanner := { scanner with position := behind }
  after.closeLiteral input ((slice? input after.start after.position).map Token.wordKind)

def number (input : List Char) (scanner : Scanner) : Option Scanner := do
  let behind ← acceptNumber input scanner.position
  let after : Scanner := { scanner with position := behind }
  after.closeLiteral input (some .number)

def quoted (input : List Char) (scanner : Scanner) : Option Scanner := do
  let (closing, inside) ← bump input scanner.position
  let (isClosed, behind) ← acceptQuoted input closing inside
  let after : Scanner := { scanner with position := behind }
  if isClosed then after.emit input .string (some .inArgument)
  else return after.fail .unterminatedString after.start after.position

def step (input : List Char) (mode : Mode) (scanner : Scanner) : Option Scanner :=
  match mode with
  | .argumentStart => scanner.argumentStart input
  | .inArgument => scanner.inArgument input
  | .value => scanner.valueStart input
  | .word => scanner.word input
  | .quoted => scanner.quoted input
  | .number => scanner.number input

def next (input : List Char) : Scanner → Option (Option Token × Scanner) :=
  loop fun scanner =>
    match scanner.pending with
    | some token => return .inl (some token, { scanner with pending := none })
    | none =>
      match scanner.mode with
      | none => return .inl (none, scanner)
      | some mode => (step input mode { scanner with mode := none }).map .inr

end Scanner

/-! ## The tokens of a cursor -/

/-- The mode in which a scanner reads what is expected. -/
def modeOf : Token.Expect → Mode
  | .argument => .argumentStart
  | .name => .word
  | .value => .value
  | .separator => .inArgument

/-- The scanner stands where the cursor stands, with its token still to come. -/
def Stands (input : List Char) (scanner : Scanner) : Cursor → Prop
  | .ended => scanner.mode = none ∧ scanner.pending = none
  | .before expect start text =>
    Facing input start text ∧ expect.Ready text ∧ scanner = .poised start (modeOf expect)

/-- The scanner has found the token, and stands where the cursor stands once it is taken. -/
def Found (input : List Char) (scanner : Scanner) (outcome : Token × Cursor) : Prop :=
  scanner.pending = some outcome.1 ∧ Stands input { scanner with pending := none } outcome.2

/-- The token of a step at a byte, and the cursor behind it. -/
def landing (start : Nat) (first : Char) {text : List Char} :
    Token.Step text → Token × Cursor
  | .token kind tail expect =>
    let token := Token.ofText kind start (first :: tail.taken)
    (token, .before expect token.span.stop tail.rest)
  | .bad before character =>
    let position := start + byteLength before
    (.ofFault (.badCharacter character) ⟨position, position + character.utf8Size⟩, .ended)
  | .unterminated =>
    (.ofFault .unterminatedString ⟨start, start + byteLength (first :: text)⟩, .ended)

theorem next_before (expect : Token.Expect) (start : Nat) (first : Char) (rest : List Char) :
    (Cursor.before expect start (first :: rest)).next =
      (some (landing start first (Token.step expect first rest)).1,
        (landing start first (Token.step expect first rest)).2) := by
  rw [Cursor.next]
  cases Token.step expect first rest <;> rfl

/-- Asking the scanner gives the token, and leaves it where the cursor stands. -/
def Gives (input : List Char) (scanner : Scanner) (outcome : Token × Cursor) : Prop :=
  ∃ after, scanner.next input = some (some outcome.1, after) ∧ Stands input after outcome.2

namespace Scanner

variable {input : List Char} {start : Nat}

theorem next_poised {mode : Mode} {after : Scanner}
    (stepped : step input mode ⟨start, start, none, none⟩ = some after) :
    next input (.poised start mode) = next input after :=
  loop_of_next (by simp only [Scanner.poised, stepped]; rfl)

/-- A step that finds a token. -/
theorem gives_of_found {mode : Mode} {outcome : Token × Cursor}
    (stepped : ∃ after, step input mode ⟨start, start, none, none⟩ = some after ∧
      Found input after outcome) : Gives input (.poised start mode) outcome := by
  obtain ⟨after, stepped, isPending, stands⟩ := stepped
  refine ⟨{ after with pending := none }, ?_, stands⟩
  calc next input (.poised start mode)
      = next input after := next_poised stepped
    _ = _ := loop_of_done (by rw [isPending]; rfl)

/-- A step that finds nothing yet, but turns to another mode. -/
theorem gives_of_turn {mode turned : Mode} {outcome : Token × Cursor}
    (stepped : step input mode ⟨start, start, none, none⟩ = some (.poised start turned))
    (gives : Gives input (.poised start turned) outcome) :
    Gives input (.poised start mode) outcome := by
  obtain ⟨after, isNext, stands⟩ := gives
  exact ⟨after, (next_poised stepped).trans isNext, stands⟩

/-- A token from the mark up to where the scanner stands. -/
theorem exists_emit {taken rest : List Char} (facing : Facing input start (taken ++ rest))
    (kind : TokenKind) {expect : Token.Expect} (ready : expect.Ready rest) :
    ∃ after, emit input kind (some (modeOf expect))
        ⟨start + byteLength taken, start, none, none⟩ = some after ∧
      Found input after (.ofText kind start taken,
        .before expect (start + byteLength taken) rest) := by
  refine ⟨⟨start + byteLength taken, start + byteLength taken, some (modeOf expect),
    some (.ofText kind start taken)⟩, ?_, rfl, facing.advance, ready, rfl⟩
  simp only [emit, facing.slice?]
  rfl

/-- A token of one character. -/
theorem exists_emit_mark {first : Char} {text : List Char}
    (facing : Facing input start (first :: text)) (kind : TokenKind) (expect : Token.Expect)
    (ready : expect.Ready text) :
    ∃ after, emit input kind (some (modeOf expect))
        ⟨start + first.utf8Size, start, none, none⟩ = some after ∧
      Found input after (landing start first (.token kind (.none text) expect)) := by
  have whole : Facing input start ([first] ++ text) := facing
  exact exists_emit whole kind ready

theorem found_fault (scanner : Scanner) (fault : LexFault) (start stop : Nat) :
    Found input (scanner.fail fault start stop) (.ofFault fault ⟨start, stop⟩, .ended) :=
  ⟨rfl, rfl, rfl⟩

/-- A word or a number that ends here is found, or else the character that cannot follow one. -/
theorem exists_closeLiteral {first : Char} {text : List Char}
    (facing : Facing input start (first :: text)) (kind : TokenKind) (tail : Split text) :
    ∃ after, closeLiteral input (some kind)
        ⟨start + byteLength (first :: tail.taken), start, none, none⟩ = some after ∧
      Found input after (landing start first (Token.closed kind first tail)) := by
  have whole := facing.consSplit tail
  have behind := whole.advance
  have ready : Token.Expect.separator.Ready tail.rest :=
    Token.Expect.ready_of_ne_name (by decide) tail.rest
  have emits := exists_emit whole kind ready
  unfold Token.closed
  split
  next atEnd =>
    simp only [closeLiteral, behind.peek, atEnd, Option.bind_eq_bind, Option.bind_some,
      List.head?_nil, Option.all_none, if_true]
    exact emits
  next c rest isRest =>
    simp only [closeLiteral, behind.peek, isRest, Option.bind_eq_bind, Option.bind_some,
      List.head?_cons, Option.all_some]
    by_cases ends : isTerminator c = true
    · rw [if_pos ends, if_pos ends]
      exact emits
    · rw [if_neg ends, if_neg ends]
      exact ⟨_, rfl, found_fault _ _ _ _⟩

theorem isNameContinue_of_isNameStart {c : Char} (isStart : isNameStart c = true) :
    isNameContinue c = true := by
  have isLetter : isLetter c = true := isStart
  simp [isNameContinue, isLetter]

/-- From a letter on a name or a reserved word is found. -/
theorem exists_word {first : Char} {text : List Char}
    (facing : Facing input start (first :: text)) (isStart : isNameStart first = true) :
    ∃ after, step input .word ⟨start, start, none, none⟩ = some after ∧
      Found input after (landing start first (Token.wordStep first text)) := by
  have isRun : (Split.run isNameContinue (first :: text)).taken =
      first :: (Split.run isNameContinue text).taken :=
    List.takeWhile_cons_of_pos (isNameContinue_of_isNameStart isStart)
  have whole := facing.consSplit (Split.run isNameContinue text)
  have closes := exists_closeLiteral facing
    (Token.wordKind (first :: (Split.run isNameContinue text).taken))
    (Split.run isNameContinue text)
  simp only [step, word, facing.acceptRun, isRun, Option.bind_eq_bind, Option.bind_some,
    whole.slice?, Option.map_some]
  exact closes

theorem exists_number {first : Char} {text : List Char}
    (facing : Facing input start (first :: text)) (numeric : isNumericStart first = true) :
    ∃ after, step input .number ⟨start, start, none, none⟩ = some after ∧
      Found input after
        (landing start first (Token.closed .number first (Token.numberTail first text))) := by
  have closes := exists_closeLiteral facing .number (Token.numberTail first text)
  simpa only [step, number, facing.acceptNumber numeric, Option.bind_eq_bind, Option.bind_some]
    using closes

/-- From a quote on a string is found, or that nothing closes it. -/
theorem exists_quoted {first : Char} {text : List Char}
    (facing : Facing input start (first :: text)) :
    ∃ after, step input .quoted ⟨start, start, none, none⟩ = some after ∧
      Found input after (landing start first
        (match Token.quoteTail? first text with
          | some tail => .token .string tail .separator
          | none => .unterminated)) := by
  have inside := facing.tail.acceptQuoted first
  simp only [step, quoted, facing.bump_cons, Option.bind_eq_bind, Option.bind_some, inside]
  cases Token.quoteTail? first text with
  | none =>
    simp only [Option.bind_some, Nat.add_assoc]
    exact ⟨_, rfl, found_fault _ _ _ _⟩
  | some tail =>
    have whole := facing.consSplit tail
    have ready : Token.Expect.separator.Ready tail.rest :=
      Token.Expect.ready_of_ne_name (by decide) tail.rest
    simp only [Option.bind_some, if_true, Nat.add_assoc]
    exact exists_emit whole .string ready

/-- A literal, whichever mode turns to it. -/
theorem gives_literal {mode : Mode} {first : Char} {text : List Char}
    (facing : Facing input start (first :: text))
    (turns : step input mode ⟨start, start, none, none⟩ =
      some (literalStart first ⟨start, start, none, none⟩)) :
    Gives input (.poised start mode) (landing start first (Token.literalStep first text)) := by
  unfold literalStart at turns
  unfold Token.literalStep
  split_ifs at turns ⊢ with isStart numeric isQuote
  · exact gives_of_turn turns (gives_of_found (exists_word facing isStart))
  · exact gives_of_turn turns (gives_of_found (exists_number facing numeric))
  · exact gives_of_turn turns (gives_of_found (exists_quoted facing))
  · exact gives_of_found ⟨_, turns, found_fault _ _ _ _⟩

/-- The token at the start of an argument. -/
theorem gives_argument {first : Char} {text : List Char}
    (facing : Facing input start (first :: text)) :
    Gives input (.poised start .argumentStart)
      (landing start first (Token.argumentStep first text)) := by
  unfold Token.argumentStep
  by_cases isMark : (first == '~' || first == '!') = true
  · rw [if_pos isMark]
    apply gives_of_found
    simp only [step, argumentStart, facing.peek, List.head?_cons, Option.bind_eq_bind,
      Option.bind_some, isMark, if_true, facing.bump_cons, facing.tail.peek]
    by_cases ready : text.head?.any isNameStart = true
    · rw [if_pos ready, if_pos ready]
      exact exists_emit_mark facing _ .name fun _ => ready
    · rw [if_neg ready, if_neg ready]
      exact ⟨_, rfl, found_fault _ _ _ _⟩
  · rw [if_neg isMark]
    apply gives_literal facing
    simp only [step, argumentStart, facing.peek, List.head?_cons, Option.bind_eq_bind,
      Option.bind_some, isMark]
    rfl

/-- The token behind a value or a name. -/
theorem gives_separator {first : Char} {text : List Char}
    (facing : Facing input start (first :: text)) :
    Gives input (.poised start .inArgument)
      (landing start first (Token.separatorStep first text)) := by
  apply gives_of_found
  simp only [step, inArgument, facing.bump_cons, Option.bind_eq_bind, Option.bind_some]
  unfold Token.separatorStep
  split_ifs
  · exact exists_emit_mark facing _ .argument (Token.Expect.ready_of_ne_name (by decide) text)
  · exact exists_emit_mark facing _ .value (Token.Expect.ready_of_ne_name (by decide) text)
  · exact exists_emit_mark facing _ .value (Token.Expect.ready_of_ne_name (by decide) text)
  · exact ⟨_, rfl, found_fault _ _ _ _⟩

/-- The token at a character, whatever is expected there. -/
theorem gives_step {expect : Token.Expect} {first : Char} {text : List Char}
    (facing : Facing input start (first :: text)) (ready : expect.Ready (first :: text)) :
    Gives input (.poised start (modeOf expect))
      (landing start first (Token.step expect first text)) := by
  cases expect with
  | argument => exact gives_argument facing
  | name => exact gives_of_found (exists_word facing (ready rfl))
  | value =>
    apply gives_literal facing
    simp only [step, valueStart, facing.peek]
    rfl
  | separator => exact gives_separator facing

/-- The token at the end of the text. -/
theorem gives_end {expect : Token.Expect} (facing : Facing input start [])
    (ready : expect.Ready []) :
    Gives input (.poised start (modeOf expect)) (Token.atEnd expect start, .ended) := by
  have emitted : emit input .eof none ⟨start, start, none, none⟩ =
      some ⟨start, start, none, some (.endAt start)⟩ := by
    have whole : Facing input start ([] ++ []) := facing
    have nothing : Checked.slice? input start start = some [] := whole.slice?
    simp only [emit, nothing]
    rfl
  apply gives_of_found
  cases expect with
  | argument =>
    simp only [modeOf, step, argumentStart, facing.peek, List.head?_nil, Option.bind_eq_bind,
      Option.bind_some]
    exact ⟨_, emitted, rfl, rfl, rfl⟩
  | name => exact absurd (ready rfl) (by simp)
  | value =>
    simp only [modeOf, step, valueStart, facing.peek]
    exact ⟨_, rfl, found_fault _ _ _ _⟩
  | separator =>
    simp only [modeOf, step, inArgument, facing.bump_nil, Option.bind_eq_bind, Option.bind_some]
    exact ⟨_, emitted, rfl, rfl, rfl⟩

/-- A request for a token never fails, and gives the token of the cursor. -/
theorem exists_next {scanner : Scanner} {cursor : Cursor} (stands : Stands input scanner cursor) :
    ∃ after, scanner.next input = some (cursor.next.1, after) ∧
      Stands input after cursor.next.2 := by
  cases cursor with
  | ended =>
    exact ⟨scanner, loop_of_done (by rw [stands.2, stands.1]; rfl), stands⟩
  | before expect start text =>
    obtain ⟨facing, ready, rfl⟩ := stands
    cases text with
    | nil => exact gives_end facing ready
    | cons first rest =>
      rw [next_before]
      exact gives_step facing ready

end Scanner

end

end RecordTags.Checked
