import RecordTags.Proofs.Checked.Scanner
import RecordTags.TagError

/-!
Contract: a reader of tokens that looks a few tokens ahead, with every operation
that can fail.

Owns:
- `Reader`, a scanner with the tokens that it has given but that are not taken
  yet, and its actions. The reader keeps only so many tokens, and an action that
  would keep more fails, as does one that looks at a token that is not kept. A tag
  that is wrong is no failure: it ends an action with an error;
- `Read.loop`, which repeats an action;
- `Meets`, which says that an action does not fail and what comes of it;
- that looking at a token and taking one do not fail, and give the tokens of a
  scan one behind the other, up to a fault of the scanner.
-/

namespace RecordTags.Checked

open RecordTags.Text

/-! ## The reader -/

/-- A scanner, and tokens that it has given but that are not taken yet. -/
structure Reader where
  scanner : Scanner
  ahead : List Token

/-- How many tokens a reader can keep. -/
def lookahead : Nat := 3

/-- An action of a reader on a tag: it can go wrong with the tag, and it can fail. -/
abbrev Read (α : Type) : Type := StateT Reader (ExceptT TagError Option) α

/-- Repeats an action, up to a round that ends the loop or goes wrong. -/
noncomputable def Read.loop {α β : Type} (round : α → Read (β ⊕ α)) (a : α) : Read β :=
  fun reader => Checked.loop (fun (a, reader) => ((round a).run reader).run.map fun
    | .ok (.inl b, after) => .inl (.ok (b, after))
    | .ok (.inr a, after) => .inr (a, after)
    | .error error => .inl (.error error)) (a, reader)

def attempt {α : Type} (operation : Option α) : Read α :=
  fun reader => operation.map fun a => .ok (a, reader)

/-- The span of a token, whose bounds have to be in order. -/
def spanOf (token : Token) : Read Span :=
  attempt (Span.ofBounds? token.span.start token.span.stop)

/-- Goes wrong at a token that cannot be used. -/
def unexpected {α : Type} (token : Token) : Read α := do
  let _ ← spanOf token
  throw (.unexpected token)

noncomputable section Actions

variable (input : List Char)

/-- Keeps one more token, unless the reader is full or the scanner has found a fault. -/
def pull : Read Unit := do
  let reader ← get
  let (found, scanner) ← attempt (reader.scanner.next input)
  let token := found.getD (.endAt (byteLength input))
  match token.kind with
  | .error fault =>
    let span ← spanOf token
    throw (.lexical fault span)
  | _ =>
    if reader.ahead.length < lookahead then set (Reader.mk scanner (reader.ahead ++ [token]))
    else attempt none

def pullUpTo (count : Nat) : Read Unit :=
  Read.loop (fun _ => do
    let reader ← get
    if reader.ahead.length < count then
      pull input
      return .inr ()
    else return .inl ()) ()

/-- Keeps a number of tokens, which has to be one that the reader can keep. -/
def fill (count : Nat) : Read Unit :=
  if count ≤ lookahead then pullUpTo input count else attempt none

/-- The class of the next token, or of one behind it. -/
def peekKind (index : Nat) : Read TokenKind := do
  fill input (index + 1)
  let reader ← get
  let token ← attempt reader.ahead[index]?
  return token.kind

def nextToken : Read Token := do
  fill input 1
  let reader ← get
  match reader.ahead with
  | [] => return .endAt (byteLength input)
  | token :: ahead =>
    set { reader with ahead }
    return token

end Actions

/-! ## Actions that do not fail -/

/-- The action does not fail. What it returns satisfies one condition, and what is wrong with the
tag, if it goes wrong, satisfies another. -/
def Meets {α : Type} (action : Read α) (reader : Reader) (returns : α → Reader → Prop)
    (refuses : TagError → Prop) : Prop :=
  ∃ outcome, action reader = some outcome ∧
    match outcome with
    | .ok (a, after) => returns a after
    | .error error => refuses error

section Meets

variable {α β : Type} {reader : Reader} {refuses : TagError → Prop}

theorem meets_pure {returns : α → Reader → Prop} {a : α} (returned : returns a reader) :
    Meets (pure a) reader returns refuses :=
  ⟨.ok (a, reader), rfl, returned⟩

theorem meets_throw {returns : α → Reader → Prop} {error : TagError} (refused : refuses error) :
    Meets (throw error) reader returns refuses :=
  ⟨.error error, rfl, refused⟩

theorem meets_set {returns : PUnit → Reader → Prop} {after : Reader}
    (returned : returns () after) : Meets (set after) reader returns refuses :=
  ⟨.ok ((), after), rfl, returned⟩

/-- One action behind another. -/
theorem Meets.bind {action : Read α} {next : α → Read β} {returns : α → Reader → Prop}
    {nextReturns : β → Reader → Prop} {nextRefuses : TagError → Prop}
    (meets : Meets action reader returns refuses)
    (goesOn : ∀ a after, returns a after → Meets (next a) after nextReturns nextRefuses)
    (goesWrong : ∀ error, refuses error → nextRefuses error) :
    Meets (action >>= next) reader nextReturns nextRefuses := by
  obtain ⟨outcome, isOutcome, met⟩ := meets
  have isBind : (action >>= next) reader =
      Option.bind (action reader) fun outcome : Except TagError (α × Reader) =>
        match outcome with
        | .ok (a, after) => next a after
        | .error error => some (.error error) := by
    show Option.bind _ _ = _
    congr 1
    funext outcome
    cases outcome <;> rfl
  cases outcome with
  | error error => exact ⟨.error error, by rw [isBind, isOutcome]; rfl, goesWrong error met⟩
  | ok returned =>
    obtain ⟨final, isFinal, finalMet⟩ := goesOn returned.1 returned.2 met
    exact ⟨final, by rw [isBind, isOutcome]; exact isFinal, finalMet⟩

theorem Meets.mono {action : Read α} {returns wider : α → Reader → Prop}
    {refusesWider : TagError → Prop} (meets : Meets action reader returns refuses)
    (implies : ∀ a after, returns a after → wider a after)
    (impliesRefused : ∀ error, refuses error → refusesWider error) :
    Meets action reader wider refusesWider := by
  obtain ⟨outcome, isOutcome, met⟩ := meets
  refine ⟨outcome, isOutcome, ?_⟩
  cases outcome with
  | error error => exact impliesRefused error met
  | ok returned => exact implies returned.1 returned.2 met

/-- One round of a loop. -/
theorem meets_loop {round : α → Read (β ⊕ α)} {a : α} {returns : β → Reader → Prop}
    (meets : Meets (round a) reader (fun outcome after =>
      match outcome with
      | .inl b => returns b after
      | .inr a => Meets (Read.loop round a) after returns refuses) refuses) :
    Meets (Read.loop round a) reader returns refuses := by
  obtain ⟨outcome, isOutcome, met⟩ := meets
  have ran : ((round a).run reader).run = some outcome := isOutcome
  match outcome, met with
  | .error error, refused =>
    exact ⟨.error error, loop_of_done (by simp only [ran]; rfl), refused⟩
  | .ok (.inl b, after), returned =>
    exact ⟨.ok (b, after), loop_of_done (by simp only [ran]; rfl), returned⟩
  | .ok (.inr a', after), ⟨final, isFinal, finalMet⟩ =>
    exact ⟨final, (loop_of_next (by simp only [ran]; rfl)).trans isFinal, finalMet⟩

theorem meets_attempt_bind {operation : Option α} {a : α} {next : α → Read β}
    {returns : β → Reader → Prop} (succeeds : operation = some a)
    (meets : Meets (next a) reader returns refuses) :
    Meets (attempt operation >>= next) reader returns refuses := by
  rw [succeeds]
  exact meets

theorem meets_get_bind {next : Reader → Read β} {returns : β → Reader → Prop}
    (meets : Meets (next reader) reader returns refuses) :
    Meets (get >>= next) reader returns refuses :=
  meets

theorem meets_set_bind {after : Reader} {next : PUnit → Read β} {returns : β → Reader → Prop}
    (meets : Meets (next ()) after returns refuses) :
    Meets (set after >>= next) reader returns refuses :=
  meets

end Meets

end RecordTags.Checked

/-! ## The tokens to come -/

namespace RecordTags.Cursor

/-- The tokens that requests give from here on. -/
def tokens : Cursor → List Token
  | ended => []
  | before expect start text => Token.scanFrom expect start text

/-- A cursor that has not ended has a token, and behind it the tokens of the next cursor. -/
theorem tokens_before (expect : Token.Expect) (start : Nat) (text : List Char) :
    ∃ token, (before expect start text).next.1 = some token ∧
      (before expect start text).tokens = token :: (before expect start text).next.2.tokens := by
  rw [tokens]
  fun_cases Token.scanFrom expect start text with
  | case1 => exact ⟨_, rfl, rfl⟩
  | case2 first rest kind tail next stepped token =>
    simp only [Cursor.next, stepped]
    exact ⟨_, rfl, rfl⟩
  | case3 first rest before character stepped position =>
    simp only [Cursor.next, stepped]
    exact ⟨_, rfl, rfl⟩
  | case4 first rest stepped =>
    simp only [Cursor.next, stepped]
    exact ⟨_, rfl, rfl⟩

end RecordTags.Cursor

namespace RecordTags.Checked

open RecordTags.Text

variable {input : List Char} {reader : Reader} {tokens rest : List Token} {token : Token}

/-- The tokens that a reader has in front of it are what is left of a scan. -/
structure Holds (input : List Char) (reader : Reader) (tokens : List Token) : Prop where
  stands : ∃ cursor, Stands input reader.scanner cursor ∧ tokens = reader.ahead ++ cursor.tokens
  noFault : ∀ token ∈ reader.ahead, ∀ fault, token.kind ≠ .error fault
  sequence : tokens = [] ∨ ∃ expect, Token.Sequence expect tokens
  ordered : ∀ token ∈ tokens, token.span.start ≤ token.span.stop

/-- The scanner's fault is the token at an index. -/
def FaultAt (tokens : List Token) (index : Nat) (error : TagError) : Prop :=
  ∃ token fault, tokens[index]? = some token ∧ token.kind = .error fault ∧
    error = .lexical fault token.span

theorem meets_spanOf_bind {β : Type} {next : Span → Read β} {returns : β → Reader → Prop}
    {refuses : TagError → Prop} (ordered : token.span.start ≤ token.span.stop)
    (meets : Meets (next token.span) reader returns refuses) :
    Meets (spanOf token >>= next) reader returns refuses :=
  meets_attempt_bind (if_pos ordered) meets

theorem meets_unexpected {α : Type} {returns : α → Reader → Prop} {refuses : TagError → Prop}
    (ordered : token.span.start ≤ token.span.stop) (refused : refuses (.unexpected token)) :
    Meets (unexpected token) reader returns refuses :=
  meets_spanOf_bind ordered (meets_throw refused)

/-- A reader with more tokens to come than it keeps, and room for one more. -/
theorem pull_meets (holds : Holds input reader tokens) (room : reader.ahead.length < lookahead)
    (more : reader.ahead.length < tokens.length) :
    Meets (pull input) reader
      (fun _ after => Holds input after tokens ∧ after.ahead.length = reader.ahead.length + 1)
      (FaultAt tokens reader.ahead.length) := by
  obtain ⟨⟨cursor, stands, isTokens⟩, noFault, sequence, ordered⟩ := holds
  cases cursor with
  | ended =>
    rw [isTokens, Cursor.tokens, List.append_nil] at more
    exact absurd more (Nat.lt_irrefl _)
  | before expect start text =>
    obtain ⟨after, isNext, standsAfter⟩ := Scanner.exists_next stands
    obtain ⟨token, found, isScan⟩ := Cursor.tokens_before expect start text
    rw [isScan] at isTokens
    rw [found] at isNext
    have tokenOrdered := ordered token (by simp [isTokens])
    apply meets_get_bind
    apply meets_attempt_bind isNext
    show Meets (match token.kind with | .error fault => _ | _ => _) reader _ _
    split
    next fault isFault =>
      apply meets_spanOf_bind tokenOrdered
      apply meets_throw
      exact ⟨token, fault, by simp [isTokens], isFault, rfl⟩
    next notFault =>
      rw [if_pos room]
      apply meets_set
      refine ⟨⟨⟨_, standsAfter, by simp [isTokens]⟩, ?_, sequence, ordered⟩, by simp⟩
      intro other member
      rcases List.mem_append.1 member with kept | isNew
      · exact noFault other kept
      · rw [List.mem_singleton.1 isNew]
        exact notFault

/-- Tokens are kept up to the number that is wanted, or up to the first fault among them. -/
theorem pullUpTo_meets {count : Nat} (holds : Holds input reader tokens)
    (room : count ≤ lookahead) (enough : count ≤ tokens.length) :
    Meets (pullUpTo input count) reader
      (fun _ after => Holds input after tokens ∧ count ≤ after.ahead.length)
      (fun error => ∃ index < count, FaultAt tokens index error) := by
  generalize isMissing : count - reader.ahead.length = missing
  induction missing generalizing reader with
  | zero =>
    have kept : count ≤ reader.ahead.length := by omega
    apply meets_loop
    apply meets_get_bind
    rw [if_neg (Nat.not_lt_of_le kept)]
    exact meets_pure ⟨holds, kept⟩
  | succ missing inductionHypothesis =>
    have short : reader.ahead.length < count := by omega
    apply meets_loop
    apply meets_get_bind
    rw [if_pos short]
    apply (pull_meets holds (by omega) (by omega)).bind
    · rintro - after ⟨holdsAfter, oneMore⟩
      exact meets_pure (inductionHypothesis holdsAfter (by omega))
    · intro error fault
      exact ⟨_, short, fault⟩

theorem fill_meets {count : Nat} (holds : Holds input reader tokens) (room : count ≤ lookahead)
    (enough : count ≤ tokens.length) :
    Meets (fill input count) reader
      (fun _ after => Holds input after tokens ∧ count ≤ after.ahead.length)
      (fun error => ∃ index < count, FaultAt tokens index error) := by
  rw [fill, if_pos room]
  exact pullUpTo_meets holds room enough

/-- Looking at a token behind others that have been looked at. -/
theorem peekKind_meets {before : List Token} (holds : Holds input reader (before ++ token :: rest))
    (room : before.length < lookahead)
    (noFault : ∀ earlier ∈ before, ∀ fault, earlier.kind ≠ .error fault) :
    Meets (peekKind input before.length) reader
      (fun kind after => kind = token.kind ∧ Holds input after (before ++ token :: rest) ∧
        ∀ fault, token.kind ≠ .error fault)
      (FaultAt (token :: rest) 0) := by
  have present : (before ++ token :: rest)[before.length]? = some token := by simp
  apply (fill_meets holds room (by simp)).bind
  · rintro - after ⟨holdsAfter, kept⟩
    obtain ⟨cursor, -, isTokens⟩ := holdsAfter.stands
    have atIndex : after.ahead[before.length]? = some token := by
      rw [← present, isTokens, List.getElem?_append_left kept]
    apply meets_get_bind
    apply meets_attempt_bind atIndex
    exact meets_pure ⟨rfl, holdsAfter, holdsAfter.noFault token (List.mem_of_getElem? atIndex)⟩
  · rintro error ⟨index, bounded, found, fault, isFound, isFault, isError⟩
    by_cases earlier : index < before.length
    · rw [List.getElem?_append_left earlier] at isFound
      exact absurd isFault (noFault found (List.mem_of_getElem? isFound) fault)
    · obtain rfl : index = before.length := by omega
      exact ⟨found, fault, present.symm.trans isFound, isFault, isError⟩

theorem peek_meets (holds : Holds input reader (token :: rest)) :
    Meets (peekKind input 0) reader
      (fun kind after => kind = token.kind ∧ Holds input after (token :: rest) ∧
        ∀ fault, token.kind ≠ .error fault)
      (FaultAt (token :: rest) 0) := by
  have front : Holds input reader ([] ++ token :: rest) := holds
  exact peekKind_meets front (by decide) (by simp)

/-- What is left behind a token. -/
theorem Holds.tail {ahead : List Token} (holds : Holds input reader (token :: rest))
    (isAhead : reader.ahead = token :: ahead) : Holds input { reader with ahead } rest := by
  obtain ⟨⟨cursor, stands, isTokens⟩, noFault, sequence, ordered⟩ := holds
  rw [isAhead] at isTokens noFault
  refine ⟨⟨cursor, stands, (List.cons.inj isTokens).2⟩, ?_, ?_, ?_⟩
  · intro other member
    exact noFault other (List.mem_cons_of_mem token member)
  · obtain isNil | ⟨expect, isSequence⟩ := sequence
    · contradiction
    · cases isSequence with
      | terminal => exact .inl rfl
      | cons _ _ tail => exact .inr ⟨_, tail⟩
  · intro other member
    exact ordered other (List.mem_cons_of_mem token member)

/-- Taking a token. -/
theorem nextToken_meets (holds : Holds input reader (token :: rest)) :
    Meets (nextToken input) reader
      (fun taken after => taken = token ∧ Holds input after rest ∧
        ∀ fault, token.kind ≠ .error fault)
      (FaultAt (token :: rest) 0) := by
  apply (fill_meets holds (by decide) (by simp)).bind
  · rintro - after ⟨holdsAfter, kept⟩
    obtain ⟨cursor, -, isTokens⟩ := holdsAfter.stands
    apply meets_get_bind
    cases isAhead : after.ahead with
    | nil => simp [isAhead] at kept
    | cons first ahead =>
      obtain rfl : token = first := by
        rw [isAhead] at isTokens
        exact (List.cons.inj isTokens).1
      apply meets_set_bind
      refine meets_pure ⟨rfl, holdsAfter.tail isAhead, ?_⟩
      exact holdsAfter.noFault token (isAhead ▸ List.mem_cons_self)
  · rintro error ⟨index, isFirst, fault⟩
    obtain rfl : index = 0 := Nat.lt_one_iff.1 isFirst
    exact fault

end RecordTags.Checked
