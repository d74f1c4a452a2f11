import Mathlib.Data.List.Chain
import RecordTags.Proofs.Text.Source
import RecordTags.Proofs.Token.Whole
import RecordTags.Token.Cursor

/-!
Contract: the tokens of a scan tile the text.

Owns:
- `Tiled`, tokens one behind the other, each as long as its text;
- `Stops`, everything that a scan can end in, and where the terminal token
  then stands;
- the cut that a scan makes, by induction over the scan: tokens that tile the
  text up to where it stops, and one terminal token;
- that asking for one token after the other gives the scan and then nothing.

Does not own: which classes of tokens follow one another; that is
`RecordTags.Proofs.Token.Sequence`.
-/

namespace RecordTags

open RecordTags.Text

namespace Token

/-! ## Tokens one behind the other -/

/-- The first token starts at a byte, and each one ends where the next one starts. -/
def Tiled : Nat → List Token → Prop
  | _, [] => True
  | start, token :: rest =>
    token.span = .ofText start token.text.toList ∧
      Tiled (start + byteLength token.text.toList) rest

theorem tiled_append {start : Nat} {left right : List Token} :
    Tiled start (left ++ right) ↔
      Tiled start left ∧ Tiled (start + byteLength (texts left)) right := by
  induction left generalizing start with
  | nil => simp [Tiled]
  | cons token left inductionHypothesis =>
      rw [List.cons_append, Tiled, Tiled, inductionHypothesis, texts_cons, byteLength_append,
        Nat.add_assoc, and_assoc]

/-- Each of tiled tokens has its text for its source, whatever follows. -/
theorem Tiled.source {before : List Char} {tokens : List Token}
    (tiled : Tiled (byteLength before) tokens) (after : List Char) :
    ∀ token ∈ tokens,
      token.span.source? (before ++ texts tokens ++ after) = some token.text.toList := by
  induction tokens generalizing before with
  | nil => simp
  | cons first rest inductionHypothesis =>
      obtain ⟨place, tail⟩ := tiled
      rw [← byteLength_append] at tail
      have regroup : before ++ texts (first :: rest) ++ after =
          before ++ first.text.toList ++ texts rest ++ after := by
        rw [texts_cons, ← List.append_assoc before]
      rw [regroup]
      refine List.forall_mem_cons.2 ⟨?_, inductionHypothesis tail⟩
      rw [place, List.append_assoc (before ++ first.text.toList)]
      exact Span.source?_ofText before first.text.toList (texts rest ++ after)

theorem Tiled.starts {start : Nat} {tokens : List Token} (tiled : Tiled start tokens) :
    ∀ token ∈ tokens.head?, token.span.start = start := by
  cases tokens with
  | nil => simp
  | cons first rest =>
      intro token isFirst
      cases isFirst
      rw [tiled.1]
      rfl

theorem Tiled.adjoins {start : Nat} {tokens : List Token} (tiled : Tiled start tokens) :
    tokens.IsChain fun left right => left.span.stop = right.span.start := by
  induction tokens generalizing start with
  | nil => exact .nil
  | cons first rest inductionHypothesis =>
      refine List.isChain_cons.2 ⟨fun next isNext => ?_, inductionHypothesis tiled.2⟩
      rw [tiled.2.starts next isNext, tiled.1]
      rfl

/-- Tiled tokens end inside their texts. -/
theorem Tiled.stop_le {start : Nat} {tokens : List Token} (tiled : Tiled start tokens) :
    ∀ token ∈ tokens, token.span.stop ≤ start + byteLength (texts tokens) := by
  induction tokens generalizing start with
  | nil => simp
  | cons first rest inductionHypothesis =>
      rw [texts_cons, byteLength_append]
      refine List.forall_mem_cons.2 ⟨?_, fun token member => ?_⟩
      · rw [tiled.1]
        show start + byteLength first.text.toList ≤ _
        omega
      · have bound := inductionHypothesis tiled.2 token member
        omega

/-! ## The end of a scan -/

/-- The terminal tokens of a scan that stops at a byte, in front of a text. -/
inductive Stops (position : Nat) : List Char → Token → Prop where
  | complete : Stops position [] (endAt position)
  | missingValue : Stops position [] (ofFault .missingValue (.empty position))
  | badCharacter (before : List Char) (c : Char) (after : List Char) :
      Stops position (before ++ c :: after)
        (ofFault (.badCharacter c) (.ofText (position + byteLength before) [c]))
  | unterminated {quote : Char} {content : List Char} (isQuote : IsQuote quote)
      (isOpen : quoteTail? quote content = none) :
      Stops position (quote :: content)
        (ofFault .unterminatedString (.ofText position (quote :: content)))

theorem stops_atEnd (expect : Expect) (position : Nat) :
    Stops position [] (atEnd expect position) := by
  cases expect with
  | value => exact .missingValue
  | argument | name | separator => exact .complete

/-- A character that cannot follow a literal stands in the text. -/
theorem exists_of_closed_eq_bad {text : List Char} {kind : TokenKind} {first c : Char}
    {tail : Split text} {before : List Char} (stepped : closed kind first tail = .bad before c) :
    ∃ after, first :: text = before ++ c :: after := by
  unfold closed at stepped
  split at stepped
  next => contradiction
  next next after rest =>
    split_ifs at stepped
    cases stepped
    refine ⟨after, ?_⟩
    rw [List.cons_append, ← rest, tail.whole]

theorem exists_of_literalStep_eq_bad {text : List Char} {first c : Char} {before : List Char}
    (stepped : literalStep first text = .bad before c) :
    ∃ after, first :: text = before ++ c :: after := by
  unfold literalStep at stepped
  split_ifs at stepped
  · exact exists_of_closed_eq_bad stepped
  · exact exists_of_closed_eq_bad stepped
  · split at stepped <;> contradiction
  · cases stepped
    exact ⟨text, rfl⟩

/-- The bad character of a step stands in the text, behind what the step names. -/
theorem exists_of_step_eq_bad {expect : Expect} {text : List Char} {first c : Char}
    {before : List Char} (stepped : step expect first text = .bad before c) :
    ∃ after, first :: text = before ++ c :: after := by
  cases expect with
  | argument =>
      change argumentStep first text = _ at stepped
      unfold argumentStep at stepped
      split_ifs at stepped
      · cases stepped
        exact ⟨text, rfl⟩
      · exact exists_of_literalStep_eq_bad stepped
  | name => exact exists_of_closed_eq_bad stepped
  | value => exact exists_of_literalStep_eq_bad stepped
  | separator =>
      change separatorStep first text = _ at stepped
      unfold separatorStep at stepped
      split_ifs at stepped
      cases stepped
      exact ⟨text, rfl⟩

theorem closed_ne_unterminated {text : List Char} (kind : TokenKind) (first : Char)
    (tail : Split text) : closed kind first tail ≠ .unterminated := by
  intro stepped
  unfold closed at stepped
  split at stepped
  next => contradiction
  next => split_ifs at stepped

theorem quoteTail?_of_literalStep {text : List Char} {first : Char}
    (stepped : literalStep first text = .unterminated) :
    IsQuote first ∧ quoteTail? first text = none := by
  unfold literalStep at stepped
  split_ifs at stepped with isStart isNumber isQuote
  · exact absurd stepped (closed_ne_unterminated _ _ _)
  · exact absurd stepped (closed_ne_unterminated _ _ _)
  · split at stepped
    next => contradiction
    next isOpen => exact ⟨by simpa [IsQuote] using isQuote, isOpen⟩

/-- Only a quote that is not closed is unterminated. -/
theorem quoteTail?_of_step {expect : Expect} {text : List Char} {first : Char}
    (stepped : step expect first text = .unterminated) :
    IsQuote first ∧ quoteTail? first text = none := by
  cases expect with
  | argument =>
      change argumentStep first text = _ at stepped
      unfold argumentStep at stepped
      split_ifs at stepped
      exact quoteTail?_of_literalStep stepped
  | name => exact absurd stepped (closed_ne_unterminated _ _ _)
  | value => exact quoteTail?_of_literalStep stepped
  | separator =>
      change separatorStep first text = _ at stepped
      unfold separatorStep at stepped
      split_ifs at stepped

/-! ## The cut -/

/-- A text cut into tokens and a rest, where the scan stops. -/
structure Cuts (start : Nat) (text : List Char) (tokens : List Token) (rest : List Char)
    (terminal : Token) : Prop where
  whole : text = texts tokens ++ rest
  tiled : Tiled start tokens
  goesOn : ∀ token ∈ tokens, token.kind.isTerminal = false ∧ token.text.toList ≠ []
  stops : Stops (start + byteLength (texts tokens)) rest terminal

theorem cuts_of_stops {start : Nat} {text : List Char} {terminal : Token}
    (stops : Stops start text terminal) : Cuts start text [] text terminal :=
  ⟨rfl, trivial, by simp, stops⟩

/-- A token in front of a cut. -/
theorem Cuts.cons {start : Nat} {first : Char} {text : List Char} {kind : TokenKind}
    {tail : Split text} {tokens : List Token} {rest : List Char} {terminal : Token}
    (notTerminal : kind.isTerminal = false)
    (cuts : Cuts (start + byteLength (first :: tail.taken)) tail.rest tokens rest terminal) :
    Cuts start (first :: text) (ofText kind start (first :: tail.taken) :: tokens) rest
      terminal := by
  have spelling := toList_text_ofText kind start (first :: tail.taken)
  refine ⟨?_, ⟨?_, ?_⟩, List.forall_mem_cons.2 ⟨⟨notTerminal, ?_⟩, cuts.goesOn⟩, ?_⟩
  · rw [texts_cons, spelling, List.append_assoc, ← cuts.whole, List.cons_append, tail.whole]
  · rw [spelling]
    rfl
  · rw [spelling]
    exact cuts.tiled
  · rw [spelling]
    exact List.cons_ne_nil _ _
  · rw [texts_cons, spelling, byteLength_append, ← Nat.add_assoc]
    exact cuts.stops

/-- Every scan cuts its text. -/
theorem scanFrom_cuts (expect : Expect) (start : Nat) (text : List Char)
    (ready : expect.Ready text) :
    ∃ tokens rest terminal, scanFrom expect start text = tokens ++ [terminal] ∧
      Cuts start text tokens rest terminal := by
  fun_induction scanFrom expect start text with
  | case1 expect start => exact ⟨[], [], _, rfl, cuts_of_stops (stops_atEnd expect start)⟩
  | case2 expect start first rest kind tail next stepped token _ inductionHypothesis =>
      have emits := step_emits ready stepped
      obtain ⟨tokens, left, terminal, scanned, cuts⟩ := inductionHypothesis emits.ready
      refine ⟨token :: tokens, left, terminal, ?_, ?_⟩
      · rw [scanned, List.cons_append]
      · exact cuts.cons (Expect.isTerminal_of_mem_kinds emits.admitted)
  | case3 expect start first rest before character stepped position =>
      obtain ⟨after, whole⟩ := exists_of_step_eq_bad stepped
      refine ⟨[], _, _, rfl, cuts_of_stops ?_⟩
      rw [whole]
      exact .badCharacter before character after
  | case4 expect start first rest stepped =>
      obtain ⟨isQuote, isOpen⟩ := quoteTail?_of_step stepped
      exact ⟨[], _, _, rfl, cuts_of_stops (.unterminated isQuote isOpen)⟩

theorem scan_cuts (text : String) :
    ∃ tokens rest terminal, scan text = tokens ++ [terminal] ∧
      Cuts 0 text.toList tokens rest terminal :=
  scanFrom_cuts _ _ _ (Expect.ready_of_ne_name (by decide) _)

/-! ## Where the terminal token stands -/

theorem Stops.isTerminal {position : Nat} {rest : List Char} {terminal : Token}
    (stops : Stops position rest terminal) : terminal.kind.isTerminal = true := by
  cases stops <;> rfl

theorem Stops.le_start {position : Nat} {rest : List Char} {terminal : Token}
    (stops : Stops position rest terminal) : position ≤ terminal.span.start := by
  cases stops with
  | complete | missingValue | unterminated => exact Nat.le_refl _
  | badCharacter before => exact Nat.le_add_right _ _

theorem Stops.complete_of_eof {position : Nat} {rest : List Char} {terminal : Token}
    (stops : Stops position rest terminal) (kind : terminal.kind = .eof) :
    rest = [] ∧ terminal = endAt position := by
  cases stops with
  | complete => exact ⟨rfl, rfl⟩
  | missingValue | badCharacter | unterminated => contradiction

end Token

namespace LexFault

/-- Where a fault stands in a text whose tokens end at a byte: at the character that it names;
from the quote that nothing closes to the end of the text; at the end of the text. -/
def StandsAt (text : List Char) (position : Nat) (span : Span) : LexFault → Prop
  | badCharacter c => span.source? text = some [c]
  | unterminatedString =>
    ∃ quote content, IsQuote quote ∧ span = .ofText position (quote :: content) ∧
      span.source? text = some (quote :: content) ∧ span.stop = byteLength text ∧
      ∀ tail after, content = tail ++ after → ¬ IsQuoteTail quote tail
  | missingValue => span = .empty (byteLength text)

/-- A fault lies in the text. -/
theorem StandsAt.within {text : List Char} {position : Nat} {span : Span} {fault : LexFault}
    (stands : fault.StandsAt text position span) : span.Within text := by
  cases fault with
  | badCharacter c => exact Span.within_of_source? stands
  | unterminatedString =>
      obtain ⟨quote, content, -, -, found, -⟩ := stands
      exact Span.within_of_source? found
  | missingValue =>
      rw [show span = _ from stands]
      exact Span.within_of_source? (Span.source?_empty text)

end LexFault

namespace Token

theorem not_isQuoteTail_of_quoteTail? {quote : Char} (isQuote : IsQuote quote)
    {tail after : List Char} (isOpen : quoteTail? quote (tail ++ after) = none) :
    ¬ IsQuoteTail quote tail := by
  intro closes
  obtain ⟨taken, found, -⟩ := quoteTail?_of_isQuoteTail isQuote.ne_backslash closes after
  rw [isOpen] at found
  contradiction

/-- A terminal token stands where its fault stands. -/
theorem Stops.standsAt {before rest : List Char} {terminal : Token}
    (stops : Stops (byteLength before) rest terminal) {fault : LexFault}
    (kind : terminal.kind = .error fault) :
    fault.StandsAt (before ++ rest) (byteLength before) terminal.span := by
  cases stops with
  | complete => contradiction
  | missingValue =>
      cases kind
      rw [List.append_nil]
      exact rfl
  | badCharacter skipped c after =>
      cases kind
      have found := Span.source?_ofText (before ++ skipped) [c] after
      rw [byteLength_append, List.append_assoc, List.append_assoc, List.singleton_append] at found
      exact found
  | @unterminated quote content isQuote isOpen =>
      cases kind
      have found := Span.source?_ofText before (quote :: content) []
      rw [List.append_nil] at found
      refine ⟨quote, content, isQuote, rfl, found, ?_, ?_⟩
      · exact (byteLength_append before (quote :: content)).symm
      · rintro tail after rfl
        exact not_isQuoteTail_of_quoteTail? isQuote isOpen

end Token

/-! ## Tokens one at a time -/

namespace Cursor

theorem take_ended (count : Nat) : ended.take count = List.replicate count none := by
  induction count with
  | zero => rfl
  | succ count inductionHypothesis => rw [take, next, inductionHypothesis, List.replicate_succ]

/-- Asking for the tokens of a text gives those of its scan, and then none for ever. -/
theorem take_before (expect : Token.Expect) (start : Nat) (text : List Char) (extra : Nat) :
    (before expect start text).take ((Token.scanFrom expect start text).length + extra) =
      (Token.scanFrom expect start text).map some ++ List.replicate extra none := by
  fun_induction Token.scanFrom expect start text with
  | case1 expect start =>
      rw [List.length_singleton, Nat.add_comm, take, next, take_ended]
      rfl
  | case2 expect start first rest kind tail expected stepped token _ inductionHypothesis =>
      have behind : (before expect start (first :: rest)).next =
          (some token, before expected token.span.stop tail.rest) := by
        simp only [next, stepped, token]
      rw [List.length_cons, Nat.add_right_comm, take, behind, inductionHypothesis]
      rfl
  | case3 expect start first rest text character stepped position =>
      rw [List.length_singleton, Nat.add_comm, take, next]
      simp only [stepped, take_ended]
      rfl
  | case4 expect start first rest stepped =>
      rw [List.length_singleton, Nat.add_comm, take, next]
      simp only [stepped, take_ended]
      rfl

end Cursor

/-! ## Tags -/

namespace Token

/-- How tokens and the terminal token behind them lie in a text. -/
structure Tiling (text : List Char) (tokens : List Token) (terminal : Token) : Prop where
  isTerminal : terminal.kind.isTerminal = true
  notTerminal : ∀ token ∈ tokens, token.kind.isTerminal = false
  nonempty : ∀ token ∈ tokens, token.span.start < token.span.stop
  starts : ∀ token ∈ tokens.head?, token.span.start = 0
  adjoins : tokens.IsChain fun left right => left.span.stop = right.span.start
  source : ∀ token ∈ tokens, token.span.source? text = some token.text.toList
  complete : terminal.kind = .eof →
    terminal.text = "" ∧ terminal.span = .empty (byteLength text) ∧ texts tokens = text
  fault : ∀ fault, terminal.kind = .error fault →
    terminal.text = fault.message ∧ terminal.span.Within text ∧
      (∀ token ∈ tokens, token.span.stop ≤ terminal.span.start) ∧
      fault.StandsAt text (byteLength (texts tokens)) terminal.span

theorem Stops.message {position : Nat} {rest : List Char} {terminal : Token}
    (stops : Stops position rest terminal) {fault : LexFault}
    (kind : terminal.kind = .error fault) : terminal.text = fault.message := by
  cases stops with
  | complete => contradiction
  | missingValue | badCharacter | unterminated =>
      cases kind
      rfl

theorem Tiled.nonempty {start : Nat} {tokens : List Token} (tiled : Tiled start tokens) :
    ∀ token ∈ tokens, token.text.toList ≠ [] → token.span.start < token.span.stop := by
  induction tokens generalizing start with
  | nil => simp
  | cons first rest inductionHypothesis =>
      refine List.forall_mem_cons.2 ⟨fun nonempty => ?_, inductionHypothesis tiled.2⟩
      rw [tiled.1]
      exact Nat.lt_add_of_pos_right (byteLength_pos nonempty)

/-- A text that is cut into tokens and a rest is tiled by them. -/
theorem Cuts.tiling {text : List Char} {tokens : List Token} {rest : List Char} {terminal : Token}
    (cuts : Cuts 0 text tokens rest terminal) : Tiling text tokens terminal := by
  obtain ⟨rfl, tiled, goesOn, stops⟩ := cuts
  rw [Nat.zero_add] at stops
  have fromStart : Tiled (byteLength []) tokens := tiled
  refine ⟨stops.isTerminal, fun token member => (goesOn token member).1, ?_, tiled.starts,
    tiled.adjoins, ?_, ?_, ?_⟩
  · intro token member
    exact tiled.nonempty token member (goesOn token member).2
  · exact fromStart.source rest
  · intro kind
    obtain ⟨rfl, rfl⟩ := stops.complete_of_eof kind
    rw [List.append_nil]
    exact ⟨rfl, rfl, rfl⟩
  · intro fault kind
    have stands := stops.standsAt kind
    refine ⟨stops.message kind, stands.within, ?_, stands⟩
    intro token member
    have bound := tiled.stop_le token member
    have start := stops.le_start
    omega

/-- The tokens of a tag tile its text. There is one terminal token, the last, and asking for more
gives nothing. The others are non-empty, start at the first byte, adjoin one another and hold the
text that they stand at; a scan that is complete has left nothing out, and the fault of one that
is not stands in the text behind them. -/
theorem scan_tiles (text : String) :
    ∃ tokens terminal, scan text = tokens ++ [terminal] ∧
      Tiling text.toList tokens terminal ∧
      ∀ extra, (Cursor.ofText text).take ((scan text).length + extra) =
        (scan text).map some ++ List.replicate extra none := by
  obtain ⟨tokens, rest, terminal, scanned, cuts⟩ := scan_cuts text
  exact ⟨tokens, terminal, scanned, cuts.tiling, Cursor.take_before _ _ _⟩

end Token

end RecordTags
