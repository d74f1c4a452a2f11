import Mathlib.Data.List.TakeWhile
import RecordTags.Token.Scan

/-!
Contract: the token sequences that a scan can give.

Owns:
- the spellings of each class of tokens: names, reserved words, quoted
  literals, marks and separators;
- `step_emits`, which says everything that a step with a token can do;
- from it, by induction over the scan: every token is spelled as its class
  says, the classes follow one another as the scanner expects them, and the
  texts of a scan without fault are the text.

Does not own: where tokens stand, and what a parser makes of them.
-/

namespace RecordTags

namespace Text

/-! ## Spellings -/

/-- A letter, and behind it letters, ASCII digits, `_` and `-`. -/
def IsWord : List Char → Prop
  | [] => False
  | first :: rest => isNameStart first = true ∧ ∀ c ∈ rest, isNameContinue c = true

instance : DecidablePred IsWord
  | [] => inferInstanceAs (Decidable False)
  | _ :: _ => inferInstanceAs (Decidable (_ ∧ _))

def reservedWords : List (List Char) :=
  [['n', 'i', 'l'], ['t', 'r', 'u', 'e'], ['f', 'a', 'l', 's', 'e']]

def IsName (text : List Char) : Prop := IsWord text ∧ text ∉ reservedWords

instance (text : List Char) : Decidable (IsName text) := inferInstanceAs (Decidable (_ ∧ _))

/-- What follows the opening quote of a literal, up to and with the closing
one. A backslash protects whatever character is behind it. -/
inductive IsQuoteTail (quote : Char) : List Char → Prop where
  | close : IsQuoteTail quote [quote]
  | escaped (c : Char) {rest : List Char} (tail : IsQuoteTail quote rest) :
      IsQuoteTail quote ('\\' :: c :: rest)
  | plain {c : Char} {rest : List Char} (notBackslash : c ≠ '\\') (notQuote : c ≠ quote)
      (tail : IsQuoteTail quote rest) : IsQuoteTail quote (c :: rest)

def IsQuote (c : Char) : Prop := c = '\x22' ∨ c = '\x27'

def IsQuoted (text : List Char) : Prop :=
  ∃ quote tail, text = quote :: tail ∧ IsQuote quote ∧ IsQuoteTail quote tail

/-- A sign or an ASCII digit in front. -/
def StartsNumber (text : List Char) : Prop := text.head?.any isNumericStart = true

instance (text : List Char) : Decidable (StartsNumber text) :=
  inferInstanceAs (Decidable (_ = _))

end Text

open RecordTags.Text

namespace TokenKind

/-- The texts that tokens of a class have. The text of an error token is the
message of its fault. -/
def Spells : TokenKind → List Char → Prop
  | error fault, text => String.ofList text = fault.message
  | eof, text => text = []
  | nil, text => text = ['n', 'i', 'l']
  | bool, text => text = ['t', 'r', 'u', 'e'] ∨ text = ['f', 'a', 'l', 's', 'e']
  | number, text => StartsNumber text
  | string, text => IsQuoted text
  | identifier, text => IsName text
  | enable, text => text = ['~']
  | disable, text => text = ['!']
  | assign, text => text = ['=']
  | listSeparator, text => text = [';']
  | argumentSeparator, text => text = [',']

/-- What the scanner looks for behind a token of this class. -/
def expectAfter : TokenKind → Token.Expect
  | enable | disable => .name
  | argumentSeparator => .argument
  | assign | listSeparator => .value
  | _ => .separator

end TokenKind

namespace Token

/-- The text of the token is one that its class can have. -/
def Spelled (token : Token) : Prop := token.kind.Spells token.text.toList

namespace Expect

/-- The classes of tokens that can come where the scanner looks for this. -/
def kinds : Expect → List TokenKind
  | argument => [.enable, .disable, .nil, .bool, .number, .string, .identifier]
  | name => [.nil, .bool, .identifier]
  | value => [.nil, .bool, .number, .string, .identifier]
  | separator => [.assign, .listSeparator, .argumentSeparator]

/-- No class that can come ends a token sequence. -/
theorem isTerminal_of_mem_kinds {expect : Expect} {kind : TokenKind}
    (admitted : kind ∈ expect.kinds) : kind.isTerminal = false := by
  revert kind
  cases expect <;> decide

/-- The name of a switch is looked for only in front of its first letter. -/
def Ready (expect : Expect) (text : List Char) : Prop :=
  expect = .name → text.head?.any isNameStart = true

theorem ready_of_ne_name {expect : Expect} (notName : expect ≠ .name) (text : List Char) :
    expect.Ready text :=
  fun isName => absurd isName notName

end Expect

/-! ## One step -/

/-- What the scanner takes behind an opening quote goes up to the closing one. -/
theorem isQuoteTail_of_quoteTail? {quote : Char} {text : List Char} {tail : Split text}
    (found : quoteTail? quote text = some tail) : IsQuoteTail quote tail.taken := by
  fun_induction quoteTail? quote text with
  | case1 => contradiction
  | case2 => contradiction
  | case3 c isBackslash escaped rest inductionHypothesis =>
      obtain ⟨inner, innerFound, rfl⟩ := Option.map_eq_some_iff.1 found
      rw [eq_of_beq isBackslash]
      exact .escaped escaped (inductionHypothesis innerFound)
  | case4 c rest notBackslash isQuote =>
      cases found
      rw [eq_of_beq isQuote]
      exact .close
  | case5 c rest notBackslash notQuote inductionHypothesis =>
      obtain ⟨inner, innerFound, rfl⟩ := Option.map_eq_some_iff.1 found
      exact .plain (by simpa using notBackslash) (by simpa using notQuote)
        (inductionHypothesis innerFound)

theorem wordKind_spells {text : List Char} (word : IsWord text) :
    (wordKind text).Spells text := by
  unfold wordKind
  split_ifs with isBool isNil
  · simpa [TokenKind.Spells] using isBool
  · exact eq_of_beq isNil
  · refine ⟨word, ?_⟩
    simp only [Bool.or_eq_true, beq_iff_eq, not_or] at isBool isNil
    simp [reservedWords, isBool, isNil]

theorem wordKind_mem_name_kinds (text : List Char) : wordKind text ∈ Expect.name.kinds := by
  unfold wordKind
  split_ifs <;> decide

theorem expectAfter_wordKind (text : List Char) : (wordKind text).expectAfter = .separator := by
  unfold wordKind
  split_ifs <;> rfl

/-- Everything that a step with a token says about the token and what follows it. -/
structure Emits (expect : Expect) (first : Char) {text : List Char} (kind : TokenKind)
    (tail : Split text) (next : Expect) : Prop where
  spelled : kind.Spells (first :: tail.taken)
  admitted : kind ∈ expect.kinds
  next_eq : next = kind.expectAfter
  ready : next.Ready tail.rest

theorem Emits.mono {expect wider : Expect} {first : Char} {text : List Char} {kind : TokenKind}
    {tail : Split text} {next : Expect} (subset : expect.kinds ⊆ wider.kinds)
    (emits : Emits expect first kind tail next) : Emits wider first kind tail next :=
  { emits with admitted := subset emits.admitted }

theorem eq_of_closed_eq_token {text : List Char} {kind emitted : TokenKind} {first : Char}
    {tail taken : Split text} {next : Expect}
    (stepped : closed kind first tail = .token emitted taken next) :
    emitted = kind ∧ taken = tail ∧ next = .separator := by
  unfold closed at stepped
  split at stepped
  · cases stepped
    exact ⟨rfl, rfl, rfl⟩
  · split_ifs at stepped
    cases stepped
    exact ⟨rfl, rfl, rfl⟩

theorem wordStep_emits {first : Char} {text : List Char} {kind : TokenKind} {tail : Split text}
    {next : Expect} (start : isNameStart first = true)
    (stepped : wordStep first text = .token kind tail next) :
    Emits .name first kind tail next := by
  obtain ⟨rfl, rfl, rfl⟩ := eq_of_closed_eq_token stepped
  have word : IsWord (first :: (Split.run isNameContinue text).taken) :=
    ⟨start, fun c member => List.mem_takeWhile_imp member⟩
  exact ⟨wordKind_spells word, wordKind_mem_name_kinds _, (expectAfter_wordKind _).symm,
    Expect.ready_of_ne_name (by decide) _⟩

/-- What a step tells about a literal. -/
theorem literalStep_emits {first : Char} {text : List Char} {kind : TokenKind}
    {tail : Split text} {next : Expect} (stepped : literalStep first text = .token kind tail next) :
    Emits .value first kind tail next := by
  unfold literalStep at stepped
  split_ifs at stepped with start numeric quote
  · exact (wordStep_emits start stepped).mono (by decide)
  · obtain ⟨rfl, rfl, rfl⟩ := eq_of_closed_eq_token stepped
    exact ⟨numeric, by decide, rfl, Expect.ready_of_ne_name (by decide) _⟩
  · split at stepped
    next found =>
      cases stepped
      have isQuote : IsQuote first := by simpa [IsQuote] using quote
      exact ⟨⟨first, _, rfl, isQuote, isQuoteTail_of_quoteTail? found⟩, by decide, rfl,
        Expect.ready_of_ne_name (by decide) _⟩
    next => contradiction

/-- What a step tells about the start of an argument. -/
theorem argumentStep_emits {first : Char} {text : List Char} {kind : TokenKind}
    {tail : Split text} {next : Expect}
    (stepped : argumentStep first text = .token kind tail next) :
    Emits .argument first kind tail next := by
  unfold argumentStep at stepped
  split_ifs at stepped with mark ready isOff
  · cases stepped
    exact ⟨by rw [eq_of_beq isOff]; rfl, by decide, rfl, fun _ => ready⟩
  · cases stepped
    have isOn : first = '~' := by simpa [isOff] using mark
    exact ⟨by rw [isOn]; rfl, by decide, rfl, fun _ => ready⟩
  · exact (literalStep_emits stepped).mono (by decide)

/-- What a step tells about a separator. -/
theorem separatorStep_emits {first : Char} {text : List Char} {kind : TokenKind}
    {tail : Split text} {next : Expect}
    (stepped : separatorStep first text = .token kind tail next) :
    Emits .separator first kind tail next := by
  unfold separatorStep at stepped
  split_ifs at stepped with isComma isSemicolon isEquals
  · cases stepped
    exact ⟨by rw [eq_of_beq isComma]; rfl, by decide, rfl, Expect.ready_of_ne_name (by decide) _⟩
  · cases stepped
    exact ⟨by rw [eq_of_beq isSemicolon]; rfl, by decide, rfl,
      Expect.ready_of_ne_name (by decide) _⟩
  · cases stepped
    exact ⟨by rw [eq_of_beq isEquals]; rfl, by decide, rfl, Expect.ready_of_ne_name (by decide) _⟩

/-- A step with a token emits one that is spelled as its class says, that may come
here, and that determines what is looked for next. -/
theorem step_emits {expect : Expect} {first : Char} {text : List Char} {kind : TokenKind}
    {tail : Split text} {next : Expect} (ready : expect.Ready (first :: text))
    (stepped : step expect first text = .token kind tail next) :
    Emits expect first kind tail next := by
  cases expect with
  | argument => exact argumentStep_emits stepped
  | name => exact wordStep_emits (ready rfl) stepped
  | value => exact literalStep_emits stepped
  | separator => exact separatorStep_emits stepped

/-! ## The scan -/

@[simp] theorem kind_ofText (kind : TokenKind) (start : Nat) (text : List Char) :
    (ofText kind start text).kind = kind := rfl

@[simp] theorem toList_text_ofText (kind : TokenKind) (start : Nat) (text : List Char) :
    (ofText kind start text).text.toList = text :=
  String.toList_ofList

/-- The token sequences that a scan can give where it looks for `expect`. -/
inductive Sequence : Expect → List Token → Prop where
  | terminal {expect : Expect} {token : Token} (spelled : token.Spelled)
      (isTerminal : token.kind.isTerminal = true) : Sequence expect [token]
  | cons {expect : Expect} {token : Token} {rest : List Token} (spelled : token.Spelled)
      (admitted : token.kind ∈ expect.kinds) (tail : Sequence token.kind.expectAfter rest) :
      Sequence expect (token :: rest)

theorem spelled_ofFault (fault : LexFault) (span : Span) : (ofFault fault span).Spelled :=
  String.ofList_toList

theorem spelled_atEnd (expect : Expect) (position : Nat) : (atEnd expect position).Spelled := by
  cases expect with
  | value => exact spelled_ofFault _ _
  | argument | name | separator => exact toList_text_ofText _ _ _

theorem isTerminal_atEnd (expect : Expect) (position : Nat) :
    (atEnd expect position).kind.isTerminal = true := by
  cases expect <;> rfl

/-- Scans give token sequences. -/
theorem scanFrom_sequence (expect : Expect) (start : Nat) (text : List Char)
    (ready : expect.Ready text) : Sequence expect (scanFrom expect start text) := by
  fun_induction scanFrom expect start text with
  | case1 expect start =>
      exact .terminal (spelled_atEnd expect start) (isTerminal_atEnd expect start)
  | case2 expect start first rest kind tail next stepped token _ inductionHypothesis =>
      have emits := step_emits ready stepped
      refine .cons ?_ emits.admitted ?_
      · show kind.Spells (ofText kind start (first :: tail.taken)).text.toList
        rw [toList_text_ofText]
        exact emits.spelled
      · show Sequence kind.expectAfter _
        rw [← emits.next_eq]
        exact inductionHypothesis emits.ready
  | case3 expect start first rest before character stepped position =>
      exact .terminal (spelled_ofFault _ _) rfl
  | case4 expect start first rest stepped =>
      exact .terminal (spelled_ofFault _ _) rfl

/-- The tokens of every tag are spelled as their classes say and come in the order
that the scanner expects. -/
theorem scan_sequence (text : String) : Sequence .argument (scan text) :=
  scanFrom_sequence _ _ _ (Expect.ready_of_ne_name (by decide) _)

theorem Sequence.spelled {expect : Expect} {tokens : List Token}
    (sequence : Sequence expect tokens) : ∀ token ∈ tokens, token.Spelled := by
  induction sequence with
  | terminal spelled => exact List.forall_mem_singleton.2 spelled
  | cons spelled _ _ inductionHypothesis =>
      exact List.forall_mem_cons.2 ⟨spelled, inductionHypothesis⟩

/-- The texts of tokens one behind the other. -/
def texts (tokens : List Token) : List Char := tokens.flatMap (·.text.toList)

@[simp] theorem texts_nil : texts [] = [] := rfl

@[simp] theorem texts_cons (token : Token) (rest : List Token) :
    texts (token :: rest) = token.text.toList ++ texts rest := rfl

/-- Nothing of the text is lost between the tokens of a scan without fault. -/
theorem texts_scanFrom (expect : Expect) (start : Nat) (text : List Char)
    (noFault : ∀ token ∈ scanFrom expect start text, ∀ fault, token.kind ≠ .error fault) :
    texts (scanFrom expect start text) = text := by
  fun_induction scanFrom expect start text with
  | case1 expect start =>
      cases expect with
      | value => exact absurd rfl (noFault _ (List.mem_singleton_self _) _)
      | argument | name | separator => simp [texts, atEnd, endAt]
  | case2 expect start first rest kind tail next stepped token _ inductionHypothesis =>
      rw [texts_cons, inductionHypothesis fun other member =>
        noFault other (List.mem_cons_of_mem _ member), toList_text_ofText, List.cons_append,
        tail.whole]
  | case3 expect start first rest before character stepped position =>
      exact absurd rfl (noFault _ (List.mem_singleton_self _) _)
  | case4 expect start first rest stepped =>
      exact absurd rfl (noFault _ (List.mem_singleton_self _) _)

end Token

end RecordTags
