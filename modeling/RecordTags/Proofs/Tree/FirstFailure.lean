import RecordTags.Proofs.Tree.Grammar

/-!
Contract: a tag that cannot be read fails at its first bad token.

Owns:
- what is wrong with a token behind the classes of the tokens before it, and the
  error for it: the scanner stopped there, its number or string has no value, or
  its class cannot go on to make a tag;
- the reading of a tag in these terms. It succeeds when nothing is wrong with
  any token, and otherwise it gives the error of the leftmost bad one.

The scanner never offers a number or a string where the grammar has no place
for one, so a token is never wrong in two ways that have different errors.
-/

namespace RecordTags

open RecordTags.Text

/-- A string without content is reported as an escape without meaning. -/
theorem Escape.code_of_decodeFrom {start : Nat} {text : List Char} {error : TagError}
    (refused : decodeFrom start text = .error error) : error.code = .invalidEscape := by
  fun_induction decodeFrom start text with
  | case1 => contradiction
  | case2 start c rest notBackslash inductionHypothesis =>
      exact inductionHypothesis (eq_error_of_map refused)
  | case3 | case5 | case6 | case7 =>
      cases refused
      rfl
  | case4 | case8 =>
      rename_i inductionHypothesis
      exact inductionHypothesis (eq_error_of_map refused)

theorem Escape.code_of_unquote {start : Nat} {text : List Char} {error : TagError}
    (refused : unquote start text = .error error) : error.code = .invalidEscape :=
  code_of_decodeFrom (eq_error_of_map refused)

/-! ## Bad tokens -/

namespace Token

/-- Something is wrong with a token behind tokens of the given classes. -/
inductive Fails (before : List TokenKind) (token : Token) : Prop where
  | lexical {fault : LexFault} (kind : token.kind = .error fault)
  | number {fault : NumberFault} (kind : token.kind = .number)
      (rejected : Readings.ofText token.text.toList = .error fault)
  | string {error : TagError} (kind : token.kind = .string)
      (rejected : Escape.unquote token.span.start token.text.toList = .error error)
  | misplaced (stuck : ¬ Grammar.Viable (before ++ [token.kind]))

/-- What is wrong with a token, and the error that says so. -/
inductive FailsWith (before : List TokenKind) (token : Token) (error : TagError) : Prop where
  /-- The scanner stopped: its fault, under its message, where it stopped. -/
  | lexical {fault : LexFault} (kind : token.kind = .error fault)
      (is : error = .lexical fault token.span) (message : error.message = token.text)
  | number {fault : NumberFault} (kind : token.kind = .number)
      (rejected : Readings.ofText token.text.toList = .error fault)
      (is : error = .numeric fault token.text token.span)
  | string (kind : token.kind = .string)
      (rejected : Escape.unquote token.span.start token.text.toList = .error error)
      (code : error.code = .invalidEscape)
  | misplaced (noFault : ∀ fault, token.kind ≠ .error fault)
      (stuck : ¬ Grammar.Viable (before ++ [token.kind])) (is : error = .unexpected token)

/-- Nothing is wrong with any token of a sequence, behind tokens of the given classes. -/
inductive NoneFails : List TokenKind → List Token → Prop where
  | nil {kinds : List TokenKind} : NoneFails kinds []
  | cons {kinds : List TokenKind} {token : Token} {rest : List Token} (passes : ¬ token.Fails kinds)
      (tail : NoneFails (kinds ++ [token.kind]) rest) : NoneFails kinds (token :: rest)

/-- The leftmost bad token of a sequence fails with the error. -/
inductive FirstFails (error : TagError) : List TokenKind → List Token → Prop where
  | here {kinds : List TokenKind} {token : Token} {rest : List Token}
      (fails : token.FailsWith kinds error) : FirstFails error kinds (token :: rest)
  | later {kinds : List TokenKind} {token : Token} {rest : List Token}
      (passes : ¬ token.Fails kinds) (tail : FirstFails error (kinds ++ [token.kind]) rest) :
      FirstFails error kinds (token :: rest)

/-- Nothing is wrong with a sequence when nothing is wrong with any of its tokens, behind the
others. -/
theorem noneFails_iff {kinds : List TokenKind} {tokens : List Token} :
    NoneFails kinds tokens ↔ ∀ before token after, tokens = before ++ token :: after →
      ¬ token.Fails (kinds ++ before.map Token.kind) := by
  constructor
  · intro noneFails
    induction noneFails with
    | nil => simp
    | @cons kinds token rest passes tail inductionHypothesis =>
        intro before other after whole
        cases before with
        | nil =>
            cases whole
            simpa using passes
        | cons first before =>
            cases whole
            simpa using inductionHypothesis before other after rfl
  · intro passes
    induction tokens generalizing kinds with
    | nil => exact .nil
    | cons token rest inductionHypothesis =>
        refine .cons (by simpa using passes [] token rest rfl) (inductionHypothesis ?_)
        intro before other after whole
        simpa using passes (token :: before) other after (by rw [whole, List.cons_append])

/-- The leftmost bad token stands behind tokens with which nothing is wrong. -/
theorem firstFails_iff {error : TagError} {kinds : List TokenKind} {tokens : List Token} :
    FirstFails error kinds tokens ↔ ∃ before token after, tokens = before ++ token :: after ∧
      token.FailsWith (kinds ++ before.map Token.kind) error ∧ NoneFails kinds before := by
  constructor
  · intro firstFails
    induction firstFails with
    | @here kinds token rest fails =>
        exact ⟨[], token, rest, rfl, by simpa using fails, .nil⟩
    | @later kinds token rest passes tail inductionHypothesis =>
        obtain ⟨before, other, after, rfl, fails, passed⟩ := inductionHypothesis
        refine ⟨token :: before, other, after, rfl, ?_, .cons passes passed⟩
        simpa using fails
  · rintro ⟨before, token, after, rfl, fails, passed⟩
    induction passed with
    | nil => exact .here (by simpa using fails)
    | cons passes tail inductionHypothesis =>
        exact .later passes (inductionHypothesis (by simpa using fails))

theorem FailsWith.fails {before : List TokenKind} {token : Token} {error : TagError}
    (failsWith : FailsWith before token error) : Fails before token := by
  cases failsWith with
  | lexical kind => exact .lexical kind
  | number kind rejected => exact .number kind rejected
  | string kind rejected => exact .string kind rejected
  | misplaced noFault stuck => exact .misplaced stuck

/-- The token that the scanner stopped at carries the message of its fault. -/
theorem Spelled.message_lexical {token : Token} {fault : LexFault} (spelled : token.Spelled)
    (kind : token.kind = .error fault) :
    (TagError.lexical fault token.span).message = token.text := by
  unfold Token.Spelled at spelled
  rw [kind] at spelled
  exact spelled.symm.trans String.ofList_toList

/-- Everything that can be wrong with a token has an error. -/
theorem Fails.exists_error {before : List TokenKind} {token : Token} (spelled : token.Spelled)
    (fails : Fails before token) : ∃ error, FailsWith before token error := by
  by_cases isFault : ∃ fault, token.kind = .error fault
  · obtain ⟨fault, kind⟩ := isFault
    exact ⟨_, .lexical kind rfl (spelled.message_lexical kind)⟩
  · cases fails with
    | lexical kind => exact absurd ⟨_, kind⟩ isFault
    | number kind rejected => exact ⟨_, .number kind rejected rfl⟩
    | string kind rejected => exact ⟨_, .string kind rejected (Escape.code_of_unquote rejected)⟩
    | misplaced stuck => exact ⟨_, .misplaced (not_exists.1 isFault) stuck rfl⟩

theorem firstFails_cons_iff {error : TagError} {kinds : List TokenKind} {token : Token}
    {rest : List Token} (passes : ¬ token.Fails kinds) :
    FirstFails error kinds (token :: rest) ↔ FirstFails error (kinds ++ [token.kind]) rest := by
  constructor
  · intro firstFails
    cases firstFails with
    | here fails => exact absurd fails.fails passes
    | later _ tail => exact tail
  · exact .later passes

/-- With a sequence that has no leftmost bad token nothing is wrong. -/
theorem noneFails_iff_not_firstFails {kinds : List TokenKind} {tokens : List Token}
    (spelled : ∀ token ∈ tokens, token.Spelled) :
    NoneFails kinds tokens ↔ ∀ error, ¬ FirstFails error kinds tokens := by
  induction tokens generalizing kinds with
  | nil =>
      refine ⟨fun _ error firstFails => ?_, fun _ => .nil⟩
      contradiction
  | cons token rest inductionHypothesis =>
      obtain ⟨spelledToken, spelledRest⟩ := List.forall_mem_cons.1 spelled
      by_cases fails : token.Fails kinds
      · obtain ⟨error, failsWith⟩ := fails.exists_error spelledToken
        refine ⟨fun noneFails => ?_, fun noFirst => absurd (.here failsWith) (noFirst error)⟩
        cases noneFails with
        | cons passes => exact absurd fails passes
      · simp only [firstFails_cons_iff fails, ← inductionHypothesis spelledRest]
        refine ⟨fun noneFails => ?_, .cons fails⟩
        cases noneFails with
        | cons _ tail => exact tail

/-- The error is determined where numbers and strings stand only in their places. -/
theorem FailsWith.unique {before : List TokenKind} {token : Token} {left right : TagError}
    (placed : token.kind = .number ∨ token.kind = .string →
      Grammar.Viable (before ++ [token.kind]))
    (leftFails : FailsWith before token left) (rightFails : FailsWith before token right) :
    left = right := by
  cases leftFails with
  | lexical kind is =>
      cases rightFails with
      | lexical sameKind sameIs =>
          rw [kind] at sameKind
          cases sameKind
          rw [is, sameIs]
      | misplaced noFault => exact absurd kind (noFault _)
      | number otherKind | string otherKind =>
          rw [kind] at otherKind
          contradiction
  | number kind rejected is =>
      cases rightFails with
      | number _ sameRejected sameIs =>
          rw [rejected] at sameRejected
          cases sameRejected
          rw [is, sameIs]
      | misplaced _ stuck => exact absurd (placed (.inl kind)) stuck
      | lexical otherKind | string otherKind =>
          rw [kind] at otherKind
          contradiction
  | string kind rejected =>
      cases rightFails with
      | string _ sameRejected =>
          rw [rejected] at sameRejected
          exact Except.error.inj sameRejected
      | misplaced _ stuck => exact absurd (placed (.inr kind)) stuck
      | lexical otherKind | number otherKind =>
          rw [kind] at otherKind
          contradiction
  | misplaced noFault stuck is =>
      cases rightFails with
      | misplaced _ _ sameIs => rw [is, sameIs]
      | lexical kind => exact absurd kind (noFault _)
      | number kind => exact absurd (placed (.inl kind)) stuck
      | string kind => exact absurd (placed (.inr kind)) stuck

end Token

/-! ## Refusals -/

namespace Tree

open Grammar

/-- Why a token has no value. -/
theorem ofToken_eq_error {token : Token} {error : TagError}
    (refused : Value.ofToken token = .error error) :
    (token.kind = .number ∧ ∃ fault, Readings.ofText token.text.toList = .error fault ∧
        error = .numeric fault token.text token.span) ∨
      (token.kind = .string ∧
        Escape.unquote token.span.start token.text.toList = .error error) ∨
      (token.kind ∉ simpleKinds ∧ error = .ofToken token) := by
  unfold Value.ofToken at refused
  split at refused
  next => contradiction
  next => contradiction
  next => contradiction
  next kind =>
    split at refused
    next => contradiction
    next fault rejected =>
      cases refused
      exact .inl ⟨kind, fault, rejected, rfl⟩
  next kind => exact .inr (.inl ⟨kind, eq_error_of_map refused⟩)
  next notNil notBool notIdentifier notNumber notString =>
    cases refused
    refine .inr (.inr ⟨?_, rfl⟩)
    simp only [simpleKinds, List.mem_cons, List.not_mem_nil, or_false]
    rintro (kind | kind | kind | kind | kind)
    · exact notNil kind
    · exact notBool kind
    · exact notIdentifier kind
    · exact notString kind
    · exact notNumber kind

/-- Why a token starts no argument. -/
theorem acceptArgument_eq_error {token : Token} {error : TagError}
    (refused : acceptArgument token = .error error) :
    token.kind ∉ [.enable, .disable] ∧ Value.ofToken token = .error error := by
  unfold acceptArgument at refused
  split at refused
  next => contradiction
  next => contradiction
  next => contradiction
  next notEnable notDisable _ =>
    refine ⟨?_, eq_error_of_map refused⟩
    simp only [List.mem_cons, List.not_mem_nil, or_false]
    rintro (kind | kind)
    · exact notEnable kind
    · exact notDisable kind

/-- Why a token cannot follow an argument. -/
theorem acceptEnd_eq_error {argument : Argument} {token : Token} {error : TagError}
    (refused : acceptEnd argument token = .error error) :
    token.kind ∉ [.eof, .argumentSeparator] ∧ error = .ofToken token := by
  unfold acceptEnd at refused
  split at refused
  next => contradiction
  next => contradiction
  next notSeparator notEnd =>
    cases refused
    refine ⟨?_, rfl⟩
    simp only [List.mem_cons, List.not_mem_nil, or_false]
    rintro (kind | kind)
    · exact notEnd kind
    · exact notSeparator kind

/-- Why a token cannot follow a value. -/
theorem acceptAfterValue_eq_error {name : Option Identifier} {first : Value}
    {others : List Value} {token : Token} {error : TagError}
    (refused : acceptAfterValue name first others token = .error error) :
    token.kind ∉ [.eof, .argumentSeparator, .listSeparator] ∧ error = .ofToken token := by
  unfold acceptAfterValue at refused
  split at refused
  next => contradiction
  next notMore =>
    obtain ⟨notEnd, is⟩ := acceptEnd_eq_error refused
    refine ⟨?_, is⟩
    simp only [List.mem_cons, List.not_mem_nil, or_false, not_or] at notEnd ⊢
    exact ⟨notEnd.1, notEnd.2, notMore⟩

/-- How a place refuses a token: its class may not come, or it may and the token has no
value. -/
inductive Refuses (place : Place) (token : Token) (error : TagError) : Prop where
  | misplaced (notNext : token.kind ∉ place.kinds) (is : error = .ofToken token)
  | unread (next : token.kind ∈ place.kinds) (simple : token.kind ∈ simpleKinds)
      (refused : Value.ofToken token = .error error)

theorem refuses_of_ofToken {place : Place} {token : Token} {error : TagError}
    (refused : Value.ofToken token = .error error)
    (next : token.kind ∈ place.kinds ↔ token.kind ∈ simpleKinds) : Refuses place token error := by
  rcases ofToken_eq_error refused with ⟨kind, -⟩ | ⟨kind, -⟩ | ⟨notSimple, is⟩
  · have simple : token.kind ∈ simpleKinds := by rw [kind]; decide
    exact .unread (next.2 simple) simple refused
  · have simple : token.kind ∈ simpleKinds := by rw [kind]; decide
    exact .unread (next.2 simple) simple refused
  · exact .misplaced (fun member => notSimple (next.1 member)) is

/-- An error of the machine is a refusal of its place. -/
theorem refuses_of_accept {place : Place} {token : Token} {error : TagError}
    (refused : accept place token = .error error) : Refuses place token error := by
  cases place with
  | start =>
      simp only [accept] at refused
      split at refused
      next => contradiction
      next notEnd =>
        obtain ⟨notMark, unread⟩ := acceptArgument_eq_error refused
        apply refuses_of_ofToken unread
        simp only [List.mem_cons, List.not_mem_nil, or_false, not_or] at notMark
        simp [Place.kinds, notMark, eq_false notEnd]
  | argument =>
      obtain ⟨notMark, unread⟩ := acceptArgument_eq_error refused
      apply refuses_of_ofToken unread
      simp only [List.mem_cons, List.not_mem_nil, or_false, not_or] at notMark
      simp [Place.kinds, notMark]
  | switchName mark =>
      simp only [accept] at refused
      split at refused
      next => contradiction
      next notName =>
        cases refused
        exact .misplaced (by simpa [Place.kinds] using notName) rfl
  | word identifier =>
      simp only [accept] at refused
      split at refused
      next => contradiction
      next notAssign =>
        obtain ⟨notNext, is⟩ := acceptAfterValue_eq_error refused
        refine .misplaced ?_ is
        simp only [List.mem_cons, List.not_mem_nil, or_false, not_or] at notNext
        simp [Place.kinds, notNext, eq_false notAssign]
  | value name => exact refuses_of_ofToken (eq_error_of_map refused) Iff.rfl
  | element name first others => exact refuses_of_ofToken (eq_error_of_map refused) Iff.rfl
  | afterValue name first others =>
      obtain ⟨notNext, is⟩ := acceptAfterValue_eq_error refused
      exact .misplaced notNext is
  | afterSwitch argument =>
      obtain ⟨notNext, is⟩ := acceptEnd_eq_error refused
      exact .misplaced notNext is

/-! ## Following the grammar -/

/-- Behind these classes the machine is at a place where the grammar is. -/
def Follows (kinds : List TokenKind) (place : Place) : Prop :=
  ∀ rest, kinds ++ rest ∈ tag ↔ rest ∈ place.residual

theorem follows_start : Follows [] .start := fun _ => Iff.rfl

theorem Follows.viable_iff {kinds : List TokenKind} {place : Place} (follows : Follows kinds place)
    (kind : TokenKind) : Viable (kinds ++ [kind]) ↔ kind ∈ place.kinds := by
  rw [← Place.starts_residual]
  apply exists_congr
  intro rest
  rw [List.append_assoc, List.singleton_append]
  exact follows (kind :: rest)

theorem Follows.goOn {kinds : List TokenKind} {place next : Place} {token : Token}
    (follows : Follows kinds place) (accepts : Accepts place token (.goOn next)) :
    Follows (kinds ++ [token.kind]) next := by
  intro rest
  rw [List.append_assoc, List.singleton_append, follows, accepts.cons_mem_residual]
  rfl

theorem Follows.separate {kinds : List TokenKind} {place : Place} {token : Token}
    {argument : Argument} (follows : Follows kinds place)
    (accepts : Accepts place token (.separate argument)) :
    Follows (kinds ++ [token.kind]) .argument := by
  intro rest
  rw [List.append_assoc, List.singleton_append, follows, accepts.cons_mem_residual]
  rfl

theorem ofToken_of_not_fault {token : Token} (noFault : ∀ fault, token.kind ≠ .error fault) :
    TagError.ofToken token = .unexpected token := by
  unfold TagError.ofToken
  split
  next fault kind => exact absurd kind (noFault fault)
  next => rfl

/-- A refused token fails with the error that the machine gives. -/
theorem failsWith_of_refuses {kinds : List TokenKind} {place : Place}
    (follows : Follows kinds place) {token : Token} (spelled : token.Spelled) {error : TagError}
    (refuses : Refuses place token error) : token.FailsWith kinds error := by
  cases refuses with
  | misplaced notNext is =>
      have stuck : ¬ Viable (kinds ++ [token.kind]) := fun viable =>
        notNext ((follows.viable_iff token.kind).1 viable)
      by_cases isFault : ∃ fault, token.kind = .error fault
      · obtain ⟨fault, kind⟩ := isFault
        have isLexical : error = .lexical fault token.span := by
          rw [is, TagError.ofToken, kind]
        refine .lexical kind isLexical ?_
        rw [isLexical]
        exact spelled.message_lexical kind
      · have noFault : ∀ fault, token.kind ≠ .error fault := not_exists.1 isFault
        exact .misplaced noFault stuck (by rw [is, ofToken_of_not_fault noFault])
  | unread next simple refused =>
      rcases ofToken_eq_error refused with ⟨kind, fault, rejected, is⟩ | ⟨kind, rejected⟩ |
        ⟨notSimple, -⟩
      · exact .number kind rejected is
      · exact .string kind rejected (Escape.code_of_unquote rejected)
      · exact absurd simple notSimple

/-- Numbers and strings are accepted for their values only. -/
theorem Accepts.exists_value {place : Place} {token : Token} {move : Move}
    (accepts : Accepts place token move) (literal : token.kind = .number ∨ token.kind = .string) :
    ∃ value, Value.ofToken token = .ok value := by
  cases accepts with
  | literal opens notWord read | value read | element read => exact ⟨_, read⟩
  | mark opens kind =>
      rcases kind with kind | kind <;> rw [kind] at literal <;> simp at literal
  | empty kind | word opens kind | switchName kind | name kind | more holds kind
  | next completes kind | last completes kind =>
      rw [kind] at literal
      simp at literal

/-- Nothing is wrong with a token that is accepted. -/
theorem not_fails_of_accepts {kinds : List TokenKind} {place : Place}
    (follows : Follows kinds place) {token : Token} {move : Move}
    (accepts : Accepts place token move) : ¬ token.Fails kinds := by
  have next := accepts.kind_mem_kinds
  intro fails
  cases fails with
  | lexical kind => exact accepts.not_fault _ kind
  | misplaced stuck => exact stuck ((follows.viable_iff token.kind).2 next)
  | number kind rejected =>
      obtain ⟨value, read⟩ := accepts.exists_value (.inl kind)
      simp [Value.ofToken, kind, rejected] at read
  | string kind rejected =>
      obtain ⟨value, read⟩ := accepts.exists_value (.inr kind)
      simp [Value.ofToken, kind, rejected, Except.map] at read

/-! ## Expectations -/

/-- What the scanner looks for at a place. -/
def Place.expect : Place → Token.Expect
  | start | argument => .argument
  | switchName _ => .name
  | word _ | afterValue _ _ _ | afterSwitch _ => .separator
  | value _ | element _ _ _ => .value

/-- The scanner looks for what may come at the place behind a token. -/
theorem Accepts.expect_goOn {place next : Place} {token : Token}
    (accepts : Accepts place token (.goOn next)) : next.expect = token.kind.expectAfter := by
  cases accepts with
  | mark opens kind => rcases kind with kind | kind <;> rw [kind] <;> rfl
  | literal opens notWord read | value read | element read =>
      have simple := kind_of_ofToken read
      have after : ∀ kind ∈ simpleKinds, kind.expectAfter = .separator := by decide
      rw [after token.kind simple]
      rfl
  | word opens kind | switchName kind | name kind | more holds kind =>
      rw [kind]
      rfl

theorem Accepts.expect_separate {place : Place} {token : Token} {argument : Argument}
    (accepts : Accepts place token (.separate argument)) :
    Place.argument.expect = token.kind.expectAfter := by
  cases accepts with
  | next completes kind =>
      rw [kind]
      rfl

/-- A number or a string that the scanner offers has its place there. -/
theorem viable_of_offered {kinds : List TokenKind} {place : Place} (follows : Follows kinds place)
    {token : Token} (offered : token.kind.isTerminal = true ∨ token.kind ∈ place.expect.kinds)
    (literal : token.kind = .number ∨ token.kind = .string) :
    Viable (kinds ++ [token.kind]) := by
  rw [follows.viable_iff]
  rcases literal with kind | kind
  · rw [kind] at offered ⊢
    cases place <;> simp [Place.expect, Token.Expect.kinds, TokenKind.isTerminal] at offered <;>
      simp [Place.kinds, simpleKinds]
  · rw [kind] at offered ⊢
    cases place <;> simp [Place.expect, Token.Expect.kinds, TokenKind.isTerminal] at offered <;>
      simp [Place.kinds, simpleKinds]

/-! ## Runs -/

theorem buildFrom_of_refused {place : Place} {token : Token} {refusal : TagError}
    (refused : accept place token = .error refusal) (rest : List Token) :
    buildFrom place (token :: rest) = .error refusal := by
  rw [buildFrom, refused]

/-- A refused token is the leftmost bad one. -/
theorem firstFails_iff_of_refused {kinds : List TokenKind} {place : Place}
    (follows : Follows kinds place) {token : Token} (spelled : token.Spelled)
    (offered : token.kind.isTerminal = true ∨ token.kind ∈ place.expect.kinds)
    {refusal : TagError} (refused : accept place token = .error refusal) (rest : List Token)
    (error : TagError) : refusal = error ↔ Token.FirstFails error kinds (token :: rest) := by
  have fails := failsWith_of_refuses follows spelled (refuses_of_accept refused)
  constructor
  · rintro rfl
    exact .here fails
  · intro firstFails
    cases firstFails with
    | here otherFails => exact fails.unique (viable_of_offered follows offered) otherFails
    | later passes => exact absurd fails.fails passes

/-- A run fails with the error of the leftmost bad token. -/
theorem buildFrom_eq_error_iff {expect : Token.Expect} {tokens : List Token}
    (sequence : Token.Sequence expect tokens) {place : Place} (agrees : expect = place.expect)
    {kinds : List TokenKind} (follows : Follows kinds place) (error : TagError) :
    buildFrom place tokens = .error error ↔ Token.FirstFails error kinds tokens := by
  -- on the scan, with the place where scanner and grammar agree as the invariant
  induction sequence generalizing place kinds with
  | @terminal expect token spelled isTerminal =>
      cases accepted : accept place token with
      | error refusal =>
          rw [buildFrom_of_refused accepted, Except.error.injEq]
          exact firstFails_iff_of_refused follows spelled (.inl isTerminal) accepted [] error
      | ok move =>
          have accepts := accepts_of_accept accepted
          obtain ⟨last, rfl⟩ := accepts.exists_finish isTerminal
          rw [Token.firstFails_cons_iff (not_fails_of_accepts follows accepts),
            buildFrom_of_finish accepts]
          exact iff_of_false (by rintro ⟨⟩) (by rintro ⟨⟩)
  | @cons expect token rest spelled admitted tail inductionHypothesis =>
      cases accepted : accept place token with
      | error refusal =>
          rw [agrees] at admitted
          rw [buildFrom_of_refused accepted, Except.error.injEq]
          exact firstFails_iff_of_refused follows spelled (.inr admitted) accepted rest error
      | ok move =>
          have accepts := accepts_of_accept accepted
          rw [Token.firstFails_cons_iff (not_fails_of_accepts follows accepts)]
          cases move with
          | goOn next =>
              rw [buildFrom_of_goOn accepts]
              exact inductionHypothesis accepts.expect_goOn.symm (follows.goOn accepts)
          | separate argument =>
              have inner : buildFrom .argument rest = .error error ↔
                  Token.FirstFails error (kinds ++ [token.kind]) rest :=
                inductionHypothesis accepts.expect_separate.symm (follows.separate accepts)
              rw [buildFrom_of_separate accepts, ← inner]
              refine ⟨eq_error_of_map, fun refused => ?_⟩
              rw [refused]
              rfl
          | finish last =>
              have notTerminal := Token.Expect.isTerminal_of_mem_kinds admitted
              exact absurd rfl (accepts.ne_finish notTerminal last)

/-! ## Tags -/

theorem parse_eq_error_iff (text : String) (error : TagError) :
    parse text = .error error ↔ Token.FirstFails error [] (Token.scan text) := by
  rw [← buildFrom_eq_error_iff (Token.scan_sequence text) rfl follows_start]
  refine ⟨eq_error_of_map, fun refused => ?_⟩
  rw [parse, refused]
  rfl

theorem exists_parse_iff (text : String) :
    (∃ tree, parse text = .ok tree) ↔ Token.NoneFails [] (Token.scan text) := by
  rw [Token.noneFails_iff_not_firstFails (Token.scan_sequence text).spelled]
  simp only [← parse_eq_error_iff]
  cases parse text with
  | error error => simp
  | ok tree => simp

/-- A tag can be read exactly when nothing is wrong with any of its tokens; otherwise
the error is that of the leftmost bad token. -/
theorem parse_first_failure (text : String) :
    ((∃ tree, parse text = .ok tree) ↔
      ∀ before token after, Token.scan text = before ++ token :: after →
        ¬ token.Fails (before.map Token.kind)) ∧
      ∀ error, parse text = .error error ↔
        ∃ before token after, Token.scan text = before ++ token :: after ∧
          token.FailsWith (before.map Token.kind) error ∧
          ∀ earlier other later, before = earlier ++ other :: later →
            ¬ other.Fails (earlier.map Token.kind) := by
  constructor
  · rw [exists_parse_iff, Token.noneFails_iff]
    rfl
  · intro error
    rw [parse_eq_error_iff, Token.firstFails_iff]
    simp only [Token.noneFails_iff, List.nil_append]

end Tree

end RecordTags
