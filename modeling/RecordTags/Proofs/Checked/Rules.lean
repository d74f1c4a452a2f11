import RecordTags.Proofs.Checked.Escape
import RecordTags.Proofs.Checked.Number
import RecordTags.Proofs.Checked.Reader
import RecordTags.Proofs.Tree.FirstFailure

/-!
Contract: reading a whole tag, with every operation that can fail.

Owns:
- a function of the reader for each rule of the grammar;
- that no operation fails on any tag, and that the reading is `Tree.parse`. Each
  function takes the reader from a place of the machine to another one, past the
  tokens that take the machine there.
-/

namespace RecordTags.Checked

open RecordTags.Text RecordTags.Tree

/-! ## The rules -/

noncomputable section Rules

variable (input : List Char)

/-- Takes the next token, which has to be of a class. -/
def expect (kind : TokenKind) : Read Token := do
  let token ← nextToken input
  if token.kind = kind then return token else unexpected token

def identifier : Read Identifier := do
  let token ← expect input .identifier
  let span ← spanOf token
  return ⟨token.text, span⟩

def simpleValue : Read Value := do
  let token ← nextToken input
  let span ← spanOf token
  match token.kind with
  | .nil => return .nil span
  | .bool => return .bool (token.text == "true") span
  | .number =>
    match ← attempt (classify token.text span) with
    | .ok literal => return .number literal
    | .error error => throw error
  | .string =>
    match ← attempt (unquote token.span.start token.text.toList) with
    | .ok text => return .string { quoted := token.text, text, span }
    | .error error => throw error
  | .identifier => return .identifier ⟨token.text, span⟩
  | _ => unexpected token

/-- Goes on with the elements of a slice. -/
def elements : List Value → Read (List Value) :=
  Read.loop fun values => do
    let kind ← peekKind input 0
    if kind = .listSeparator then
      let _ ← nextToken input
      let value ← simpleValue input
      return .inr (values ++ [value])
    else return .inl values

def value : Read Value := do
  let first ← simpleValue input
  let kind ← peekKind input 0
  if kind = .listSeparator then
    let values ← elements input [first]
    let front ← attempt values[0]?
    let last ← attempt values[values.length - 1]?
    return .slice values (front.span.cover last.span)
  else return first

def switch : Read Argument := do
  let mark ← nextToken input
  let name ← identifier input
  let markSpan ← spanOf mark
  let span := markSpan.cover name.span
  return { name := some name, value := .switch name (mark.kind == .enable) span, span }

/-- Whether a name and `=` come next, given the class of the next token. -/
def isNamed (kind : TokenKind) : Read Bool := do
  if kind = .identifier then
    let second ← peekKind input 1
    return second == .assign
  else return false

def named : Read Argument := do
  let name ← identifier input
  let _ ← expect input .assign
  let value ← value input
  return { name := some name, value, span := name.span.cover value.span }

def argument : Read Argument := do
  let kind ← peekKind input 0
  if kind = .enable ∨ kind = .disable then switch input
  else if ← isNamed input kind then named input
  else
    let value ← value input
    return { name := none, value, span := value.span }

/-- Goes on with the arguments of a tag that has not ended. -/
def arguments : List Argument → Read (List Argument) :=
  Read.loop fun args => do
    let argument ← argument input
    let token ← nextToken input
    match token.kind with
    | .eof => return .inl (args ++ [argument])
    | .argumentSeparator =>
      let kind ← peekKind input 0
      if kind = .eof then
        let token ← nextToken input
        unexpected token
      else return .inr (args ++ [argument])
    | _ => unexpected token

def allArguments : Read (List Argument) := do
  let kind ← peekKind input 0
  if kind = .eof then return [] else arguments input []

def tree : Read Tree := do
  let args ← allArguments input
  let span ← attempt (Span.ofBounds? 0 (byteLength input))
  return { args, span }

end Rules

/-- The tree of a tag, or what is wrong with the tag, or nothing if an operation fails. -/
noncomputable def parse (text : String) : Option (Except TagError Tree) :=
  let reader : Reader := { scanner := .poised 0 .argumentStart, ahead := [] }
  ((tree text.toList).run reader).run.map fun outcome => outcome.map Prod.fst

/-! ## Nothing fails -/

variable {input : List Char} {reader : Reader} {tokens rest : List Token} {token : Token}

theorem exists_cons_of_sequence {expect : Token.Expect}
    (isSequence : Token.Sequence expect tokens) :
    ∃ first behind, tokens = first :: behind := by
  cases isSequence <;> exact ⟨_, _, rfl⟩

/-- Behind a token that does not end the sequence there is another one. -/
theorem Holds.exists_cons (holds : Holds input reader (token :: rest))
    (goesOn : token.kind.isTerminal = false) : ∃ second behind, rest = second :: behind := by
  obtain isNil | ⟨expect, isSequence⟩ := holds.sequence
  · contradiction
  · cases isSequence with
    | terminal _ isTerminal => simp [isTerminal] at goesOn
    | cons _ _ tail => exact exists_cons_of_sequence tail

/-- The class of a value is no end. -/
theorem isTerminal_of_ofToken {value : Value} (read : Value.ofToken token = .ok value) :
    token.kind.isTerminal = false := by
  cases kind : token.kind <;> simp_all [Value.ofToken, TokenKind.isTerminal]

theorem Holds.spelled (holds : Holds input reader (token :: rest)) : token.Spelled := by
  obtain isNil | ⟨expect, isSequence⟩ := holds.sequence
  · contradiction
  · exact isSequence.spelled token List.mem_cons_self

theorem ofToken_of_faultAt {error : TagError} (fault : FaultAt (token :: rest) 0 error) :
    (∃ cause, token.kind = .error cause) ∧ error = .ofToken token := by
  obtain ⟨found, cause, isFound, isFault, rfl⟩ := fault
  obtain rfl : token = found := Option.some.inj isFound
  exact ⟨⟨cause, isFault⟩, by rw [TagError.ofToken, isFault]⟩

/-- A simple value is read from one token. -/
theorem simpleValue_meets (holds : Holds input reader (token :: rest)) :
    Meets (simpleValue input) reader
      (fun value after => Value.ofToken token = .ok value ∧ Holds input after rest)
      (fun error => Value.ofToken token = .error error) := by
  have ordered := holds.ordered token List.mem_cons_self
  apply (nextToken_meets holds).bind
  · rintro taken after ⟨rfl, holdsAfter, notFault⟩
    apply meets_spanOf_bind ordered
    obtain ⟨kind, text, span⟩ := taken
    cases kind with
    | number =>
      obtain ⟨outcome, classified, isValue⟩ := Option.map_eq_some_iff.1 (classify_eq text span)
      apply meets_attempt_bind classified
      rw [← isValue]
      cases outcome with
      | ok literal => exact meets_pure ⟨rfl, holdsAfter⟩
      | error error => exact meets_throw rfl
    | string =>
      have isQuoted : IsQuoted text.toList := holds.spelled
      apply meets_attempt_bind (unquote_eq isQuoted span.start)
      rw [Value.ofToken]
      cases Escape.unquote span.start text.toList with
      | ok content => exact meets_pure ⟨rfl, holdsAfter⟩
      | error error => exact meets_throw rfl
    | nil | bool | identifier => exact meets_pure ⟨rfl, holdsAfter⟩
    | error fault => exact absurd rfl (notFault fault)
    | eof | enable | disable | assign | listSeparator | argumentSeparator =>
      exact meets_unexpected ordered rfl
  · intro error fault
    obtain ⟨⟨cause, isFault⟩, rfl⟩ := ofToken_of_faultAt fault
    rw [Value.ofToken, isFault]

/-! ### What the machine makes of the tokens -/

/-- What is built of tokens that start with a value. -/
def buildValue (name : Option Identifier) : List Token → Except TagError (List Argument)
  | [] => .ok []
  | token :: rest =>
    match Value.ofToken token with
    | .error error => .error error
    | .ok value => buildFrom (.afterValue name value []) rest

/-- At a fault of the scanner the machine stops wherever it is. -/
theorem buildFrom_of_faultAt {error : TagError} (fault : FaultAt (token :: rest) 0 error)
    (place : Place) : buildFrom place (token :: rest) = .error error := by
  obtain ⟨⟨cause, isFault⟩, rfl⟩ := ofToken_of_faultAt fault
  apply buildFrom_of_refused
  cases place <;> simp [Tree.accept, acceptArgument, acceptAfterValue, acceptEnd, Value.ofToken,
    isFault, Except.map]

/-- Places at which the machine does the same with a token. -/
theorem buildFrom_congr {place other : Place}
    (same : Tree.accept place token = Tree.accept other token) (rest : List Token) :
    buildFrom place (token :: rest) = buildFrom other (token :: rest) := by
  rw [buildFrom, same, buildFrom]

/-- Where no further element follows, the argument is complete. -/
theorem buildFrom_afterValue (name : Option Identifier) (first : Value) (others : List Value)
    (notSeparator : token.kind ≠ .listSeparator) (rest : List Token) :
    buildFrom (.afterValue name first others) (token :: rest) =
      buildFrom (.afterSwitch (.ofValue name (.ofElements first others))) (token :: rest) := by
  apply buildFrom_congr
  rw [Tree.accept, Tree.accept, acceptAfterValue]
  split
  next isSeparator => exact absurd isSeparator notSeparator
  next => rfl

/-- Where no `=` follows, a word is a value. -/
theorem buildFrom_word (identifier : Identifier) (notAssign : token.kind ≠ .assign)
    (rest : List Token) :
    buildFrom (.word identifier) (token :: rest) =
      buildFrom (.afterValue none (.identifier identifier) []) (token :: rest) := by
  apply buildFrom_congr
  rw [Tree.accept, Tree.accept]
  split
  next isAssign => exact absurd isAssign notAssign
  next => rfl

theorem buildFrom_value (name : Identifier) (tokens : List Token) :
    buildFrom (.value name) tokens = buildValue (some name) tokens := by
  cases tokens with
  | nil => rfl
  | cons token rest =>
    rw [buildFrom, Tree.accept, buildValue]
    cases Value.ofToken token <;> rfl

/-- An argument that starts with neither a mark nor a word is a value. -/
theorem buildFrom_literal (notMark : ¬ (token.kind = .enable ∨ token.kind = .disable))
    (notWord : token.kind ≠ .identifier) (rest : List Token) :
    buildFrom .argument (token :: rest) = buildValue none (token :: rest) := by
  have isLiteral : acceptArgument token =
      (Value.ofToken token).map fun value => .goOn (.afterValue none value []) := by
    unfold acceptArgument
    split
    next isMark => exact absurd (.inl isMark) notMark
    next isMark => exact absurd (.inr isMark) notMark
    next isWord => exact absurd isWord notWord
    next => rfl
  rw [buildFrom, Tree.accept, isLiteral, buildValue]
  cases Value.ofToken token <;> rfl

/-- A word that no `=` follows is a value. -/
theorem buildFrom_plainWord {second : Token} (isWord : token.kind = .identifier)
    (notAssign : second.kind ≠ .assign) (rest : List Token) :
    buildFrom .argument (token :: second :: rest) = buildValue none (token :: second :: rest) := by
  rw [buildFrom_of_goOn (.word .argument isWord), buildFrom_word _ notAssign, buildValue,
    Value.ofToken, isWord]

/-- A reader has come to a place of the machine, with tokens left of which the machine builds
what it had to build. -/
def Reaches (input : List Char) (built : Except TagError (List Argument)) (bound : Nat)
    (place : Place) (reader : Reader) : Prop :=
  ∃ token rest, Holds input reader (token :: rest) ∧ (token :: rest).length ≤ bound ∧
    built = buildFrom place (token :: rest)

theorem Reaches.mono {built : Except TagError (List Argument)} {bound wider : Nat} {place : Place}
    (reaches : Reaches input built bound place reader) (le : bound ≤ wider) :
    Reaches input built wider place reader := by
  obtain ⟨token, rest, holds, fewer, same⟩ := reaches
  exact ⟨token, rest, holds, Nat.le_trans fewer le, same⟩

/-! ### The rules -/

/-- A token that has been looked at can be taken. -/
theorem takeToken_meets (holds : Holds input reader (token :: rest))
    (notFault : ∀ fault, token.kind ≠ .error fault) :
    Meets (nextToken input) reader (fun taken after => taken = token ∧ Holds input after rest)
      (fun _ => False) := by
  apply (nextToken_meets holds).mono
  · rintro taken after ⟨isTaken, holdsRest, -⟩
    exact ⟨isTaken, holdsRest⟩
  · intro error fault
    obtain ⟨⟨cause, isFault⟩, -⟩ := ofToken_of_faultAt fault
    exact notFault cause isFault

/-- The elements of a slice. -/
theorem elements_meets (holds : Holds input reader (token :: rest)) (name : Option Identifier)
    (first : Value) (others : List Value) :
    Meets (elements input (first :: others)) reader
      (fun values after => ∃ more, values = first :: more ∧
        (token.kind = .listSeparator ∨ others ≠ [] → more ≠ []) ∧
        Reaches input (buildFrom (.afterValue name first others) (token :: rest))
          (token :: rest).length (.afterSwitch (.ofValue name (.ofElements first more))) after)
      (fun error => buildFrom (.afterValue name first others) (token :: rest) = .error error) := by
  generalize isLength : rest.length = length
  induction length using Nat.strongRecOn generalizing reader token rest others with
  | _ length inductionHypothesis =>
  apply meets_loop
  apply (peek_meets holds).bind
  · rintro kind after ⟨rfl, holdsAfter, notFault⟩
    by_cases isSeparator : token.kind = .listSeparator
    · rw [if_pos isSeparator]
      obtain ⟨second, behind, rfl⟩ := holdsAfter.exists_cons (by rw [isSeparator]; rfl)
      rw [buildFrom_of_goOn (.more (.afterValue name first others) isSeparator)]
      apply (takeToken_meets holdsAfter notFault).bind
      · rintro taken afterSeparator ⟨rfl, holdsSecond⟩
        apply (simpleValue_meets holdsSecond).bind
        · rintro value afterValue ⟨read, holdsBehind⟩
          obtain ⟨third, left, rfl⟩ := holdsSecond.exists_cons (isTerminal_of_ofToken read)
          rw [buildFrom_of_goOn (.element read)]
          have shorter : left.length < length := by
            rw [← isLength, List.length_cons, List.length_cons]
            omega
          apply meets_pure
          apply (inductionHypothesis left.length shorter holdsBehind (others ++ [value]) rfl).mono
          · rintro values final ⟨more, isValues, several, reaches⟩
            refine ⟨more, isValues, fun _ => several (.inr (by simp)), reaches.mono ?_⟩
            simp
          · exact fun _ => id
        · intro error refused
          apply buildFrom_of_refused
          rw [Tree.accept, refused]
          rfl
      · exact fun _ => False.elim
    · rw [if_neg isSeparator]
      apply meets_pure
      refine ⟨others, rfl, fun several => ?_, token, rest, holdsAfter, Nat.le_refl _, ?_⟩
      · exact several.resolve_left isSeparator
      · exact buildFrom_afterValue name first others isSeparator rest
  · intro error fault
    exact buildFrom_of_faultAt fault _

/-- The span of a slice goes from its first element to its last. -/
theorem meets_slice {built : Except TagError (List Argument)} {bound : Nat}
    {name : Option Identifier} {first : Value} {others : List Value} (several : others ≠ [])
    (reaches : Reaches input built bound
      (.afterSwitch (.ofValue name (.ofElements first others))) reader)
    {refuses : TagError → Prop} :
    Meets (do
        let values := first :: others
        let front ← attempt values[0]?
        let last ← attempt values[values.length - 1]?
        return Value.slice values (front.span.cover last.span)) reader
      (fun value after => Reaches input built bound (.afterSwitch (.ofValue name value)) after)
      refuses := by
  obtain ⟨init, last, rfl⟩ := List.eq_nil_or_concat' others |>.resolve_left several
  have isLast : (first :: (init ++ [last]))[(first :: (init ++ [last])).length - 1]? =
      some last := by
    simp
  apply meets_attempt_bind List.getElem?_cons_zero
  apply meets_attempt_bind isLast
  apply meets_pure
  rw [Value.ofElements, List.getLast?_concat] at reaches
  exact reaches

/-- A value is read up to what follows it, and is what the machine builds. -/
theorem value_meets (holds : Holds input reader (token :: rest)) (name : Option Identifier) :
    Meets (value input) reader
      (fun value after => Reaches input (buildValue name (token :: rest)) (token :: rest).length
        (.afterSwitch (.ofValue name value)) after)
      (fun error => buildValue name (token :: rest) = .error error) := by
  rw [value, buildValue]
  apply (simpleValue_meets holds).bind
  · rintro first after ⟨read, holdsRest⟩
    obtain ⟨second, behind, rfl⟩ := holds.exists_cons (isTerminal_of_ofToken read)
    rw [read]
    apply (peek_meets holdsRest).bind
    · rintro kind afterPeek ⟨rfl, holdsPeeked, -⟩
      by_cases isSeparator : second.kind = .listSeparator
      · rw [if_pos isSeparator]
        apply (elements_meets holdsPeeked name first []).bind
        · rintro values final ⟨more, rfl, several, reaches⟩
          exact meets_slice (several (.inl isSeparator)) (reaches.mono (by simp))
        · exact fun _ => id
      · rw [if_neg isSeparator]
        apply meets_pure
        refine ⟨second, behind, holdsPeeked, by simp, ?_⟩
        exact buildFrom_afterValue name first [] isSeparator behind
    · intro error fault
      exact buildFrom_of_faultAt fault _
  · intro error refused
    rw [refused]

/-- A token of the class is taken, and any other is refused. -/
theorem expect_meets {kind : TokenKind} (holds : Holds input reader (token :: rest))
    (goesOn : kind.isTerminal = false) :
    Meets (Checked.expect input kind) reader
      (fun taken after => taken = token ∧ token.kind = kind ∧ Holds input after rest)
      (fun error => token.kind ≠ kind ∧ error = .ofToken token) := by
  apply (nextToken_meets holds).bind
  · rintro taken after ⟨rfl, holdsRest, notFault⟩
    by_cases isKind : taken.kind = kind
    · rw [if_pos isKind]
      exact meets_pure ⟨rfl, isKind, holdsRest⟩
    · rw [if_neg isKind]
      apply meets_unexpected (holds.ordered taken List.mem_cons_self)
      exact ⟨isKind, (ofToken_of_not_fault notFault).symm⟩
  · intro error fault
    obtain ⟨⟨cause, isFault⟩, isError⟩ := ofToken_of_faultAt fault
    refine ⟨?_, isError⟩
    rintro rfl
    rw [isFault] at goesOn
    contradiction

theorem identifier_meets (holds : Holds input reader (token :: rest)) :
    Meets (identifier input) reader
      (fun identifier after => token.kind = .identifier ∧
        identifier = ⟨token.text, token.span⟩ ∧ Holds input after rest)
      (fun error => token.kind ≠ .identifier ∧ error = .ofToken token) := by
  apply (expect_meets holds rfl).bind
  · rintro taken after ⟨rfl, isIdentifier, holdsRest⟩
    apply meets_spanOf_bind (holds.ordered taken List.mem_cons_self)
    exact meets_pure ⟨isIdentifier, rfl, holdsRest⟩
  · exact fun _ => id

theorem switch_meets (holds : Holds input reader (token :: rest))
    (isMark : token.kind = .enable ∨ token.kind = .disable) :
    Meets (switch input) reader
      (fun argument after => Reaches input (buildFrom .argument (token :: rest))
        (token :: rest).length (.afterSwitch argument) after)
      (fun error => buildFrom .argument (token :: rest) = .error error) := by
  have goesOn : token.kind.isTerminal = false := by
    rcases isMark with kind | kind <;> rw [kind] <;> rfl
  have notFault : ∀ fault, token.kind ≠ .error fault := by
    rcases isMark with kind | kind <;> simp [kind]
  obtain ⟨second, behind, rfl⟩ := holds.exists_cons goesOn
  rw [buildFrom_of_goOn (.mark .argument isMark)]
  apply (takeToken_meets holds notFault).bind
  · rintro mark afterMark ⟨rfl, holdsSecond⟩
    apply (identifier_meets holdsSecond).bind
    · rintro name after ⟨isName, rfl, holdsBehind⟩
      obtain ⟨third, left, rfl⟩ := holdsSecond.exists_cons (by rw [isName]; rfl)
      apply meets_spanOf_bind (holds.ordered mark List.mem_cons_self)
      apply meets_pure
      exact ⟨third, left, holdsBehind, by simp, buildFrom_of_goOn (.switchName isName) _⟩
    · rintro error ⟨notName, rfl⟩
      apply buildFrom_of_refused
      rw [Tree.accept]
      split
      next isName => exact absurd isName notName
      next => rfl
  · exact fun _ => False.elim

/-- Whether the argument has a name is told by the second token. -/
theorem isNamed_meets {second : Token} (holds : Holds input reader (token :: second :: rest))
    (isWord : token.kind = .identifier) :
    Meets (isNamed input token.kind) reader
      (fun named after => Holds input after (token :: second :: rest) ∧
        (named = true ↔ second.kind = .assign))
      (FaultAt (second :: rest) 0) := by
  have front : Holds input reader ([token] ++ second :: rest) := holds
  rw [isNamed, if_pos isWord]
  apply (peekKind_meets front (show 1 < lookahead by decide) (by simp [isWord])).bind
  · rintro kind after ⟨rfl, holdsAfter, -⟩
    exact meets_pure ⟨holdsAfter, beq_iff_eq⟩
  · exact fun _ => id

theorem named_meets {second : Token} (holds : Holds input reader (token :: second :: rest))
    (isWord : token.kind = .identifier) (isAssign : second.kind = .assign) :
    Meets (named input) reader
      (fun argument after => Reaches input (buildFrom .argument (token :: second :: rest))
        (token :: second :: rest).length (.afterSwitch argument) after)
      (fun error => buildFrom .argument (token :: second :: rest) = .error error) := by
  rw [buildFrom_of_goOn (.word .argument isWord), buildFrom_of_goOn (.name isAssign),
    buildFrom_value]
  apply (identifier_meets holds).bind
  · rintro name afterName ⟨-, rfl, holdsSecond⟩
    obtain ⟨third, left, rfl⟩ := holdsSecond.exists_cons (by rw [isAssign]; rfl)
    apply (expect_meets holdsSecond rfl).bind
    · rintro taken afterAssign ⟨-, -, holdsThird⟩
      apply (value_meets holdsThird (some ⟨token.text, token.span⟩)).bind
      · intro value after reaches
        apply meets_pure
        apply reaches.mono
        simp
      · exact fun _ => id
    · rintro error ⟨notAssign, -⟩
      exact absurd isAssign notAssign
  · rintro error ⟨notWord, -⟩
    exact absurd isWord notWord

/-- An argument without name. -/
theorem positional_meets (holds : Holds input reader (token :: rest))
    (isValue : buildFrom .argument (token :: rest) = buildValue none (token :: rest)) :
    Meets (do
        let value ← value input
        return { name := none, value, span := value.span }) reader
      (fun argument after => Reaches input (buildFrom .argument (token :: rest))
        (token :: rest).length (.afterSwitch argument) after)
      (fun error => buildFrom .argument (token :: rest) = .error error) := by
  rw [isValue]
  apply (value_meets holds none).bind
  · intro value after reaches
    exact meets_pure reaches
  · exact fun _ => id

/-- An argument of any form is read as the machine builds it. -/
theorem argument_meets (holds : Holds input reader (token :: rest)) :
    Meets (argument input) reader
      (fun argument after => Reaches input (buildFrom .argument (token :: rest))
        (token :: rest).length (.afterSwitch argument) after)
      (fun error => buildFrom .argument (token :: rest) = .error error) := by
  apply (peek_meets holds).bind
  · rintro kind after ⟨rfl, holdsAfter, -⟩
    by_cases isMark : token.kind = .enable ∨ token.kind = .disable
    · rw [if_pos isMark]
      exact switch_meets holdsAfter isMark
    rw [if_neg isMark]
    by_cases isWord : token.kind = .identifier
    · obtain ⟨second, behind, rfl⟩ := holdsAfter.exists_cons (by rw [isWord]; rfl)
      apply (isNamed_meets holdsAfter isWord).bind
      · rintro isNamed afterSecond ⟨holdsBoth, named_iff⟩
        by_cases isAssign : second.kind = .assign
        · rw [if_pos (named_iff.2 isAssign)]
          exact named_meets holdsBoth isWord isAssign
        · rw [if_neg (isAssign ∘ named_iff.1)]
          exact positional_meets holdsBoth (buildFrom_plainWord isWord isAssign behind)
      · intro error fault
        rw [buildFrom_of_goOn (.word .argument isWord)]
        exact buildFrom_of_faultAt fault _
    · rw [isNamed, if_neg isWord]
      exact positional_meets holdsAfter (buildFrom_literal isMark isWord rest)
  · intro error fault
    exact buildFrom_of_faultAt fault _

/-- What follows a complete argument, if it is neither a comma nor the end. -/
theorem buildFrom_refused_end (argument : Argument) (notEnd : token.kind ≠ .eof)
    (notSeparator : token.kind ≠ .argumentSeparator) (notFault : ∀ fault, token.kind ≠ .error fault)
    (rest : List Token) :
    buildFrom (.afterSwitch argument) (token :: rest) = .error (.unexpected token) := by
  apply buildFrom_of_refused
  rw [← ofToken_of_not_fault notFault, Tree.accept, acceptEnd]
  split
  next isSeparator => exact absurd isSeparator notSeparator
  next isEnd => exact absurd isEnd notEnd
  next => rfl

/-- No argument starts with the end. -/
theorem buildFrom_argument_eof (isEnd : token.kind = .eof) (rest : List Token) :
    buildFrom .argument (token :: rest) = .error (.unexpected token) := by
  apply buildFrom_of_refused
  simp [Tree.accept, acceptArgument, Value.ofToken, TagError.ofToken, isEnd, Except.map]

/-- The arguments of a tag that has not ended, one behind the other. -/
theorem arguments_meets (holds : Holds input reader (token :: rest)) (args : List Argument) :
    Meets (arguments input args) reader
      (fun all _ => ∃ more, all = args ++ more ∧ buildFrom .argument (token :: rest) = .ok more)
      (fun error => buildFrom .argument (token :: rest) = .error error) := by
  generalize isLength : rest.length = length
  induction length using Nat.strongRecOn generalizing reader token rest args with
  | _ length inductionHypothesis =>
  apply meets_loop
  apply (argument_meets holds).bind
  · rintro argument after ⟨second, behind, holdsSecond, fewer, built⟩
    rw [built]
    apply (nextToken_meets holdsSecond).bind
    · rintro taken afterSecond ⟨rfl, holdsBehind, notFault⟩
      split
      next isEnd =>
        apply meets_pure
        exact ⟨[argument], rfl, buildFrom_of_finish (.last (.afterSwitch argument) isEnd) behind⟩
      next isSeparator =>
        obtain ⟨third, left, rfl⟩ := holdsSecond.exists_cons (by rw [isSeparator]; rfl)
        rw [buildFrom_of_separate (.next (.afterSwitch argument) isSeparator)]
        apply (peek_meets holdsBehind).bind
        · rintro kind afterThird ⟨rfl, holdsThird, notFaultToo⟩
          by_cases isEnd : third.kind = .eof
          · rw [if_pos isEnd, buildFrom_argument_eof isEnd]
            apply (takeToken_meets holdsThird notFaultToo).bind
            · rintro last final ⟨rfl, -⟩
              exact meets_unexpected (holdsThird.ordered last List.mem_cons_self) rfl
            · exact fun _ => False.elim
          · rw [if_neg isEnd]
            have shorter : left.length < length := by
              simp only [List.length_cons, isLength] at fewer
              omega
            apply meets_pure
            apply (inductionHypothesis left.length shorter holdsThird (args ++ [argument]) rfl).mono
            · rintro all final ⟨more, rfl, builtMore⟩
              exact ⟨argument :: more, List.append_assoc _ _ _, by rw [builtMore]; rfl⟩
            · intro error refused
              rw [refused]
              rfl
        · intro error fault
          rw [buildFrom_of_faultAt fault]
          rfl
      next notEnd notSeparator =>
        apply meets_unexpected (holdsSecond.ordered taken List.mem_cons_self)
        exact buildFrom_refused_end argument notEnd notSeparator notFault behind
    · intro error fault
      exact buildFrom_of_faultAt fault _
  · exact fun _ => id

/-! ## The tag -/

/-- The bounds of every token of a scan are in order. -/
theorem scanFrom_ordered (expect : Token.Expect) (start : Nat) (text : List Char) :
    ∀ token ∈ Token.scanFrom expect start text, token.span.start ≤ token.span.stop := by
  fun_induction Token.scanFrom expect start text with
  | case1 expect start =>
    rw [List.forall_mem_singleton]
    cases expect <;> exact Nat.le_refl start
  | case2 expect start first rest kind tail next stepped token _ inductionHypothesis =>
    exact List.forall_mem_cons.2 ⟨Nat.le_add_right _ _, inductionHypothesis⟩
  | case3 expect start first rest before character stepped position =>
    exact List.forall_mem_singleton.2 (Nat.le_add_right _ _)
  | case4 expect start first rest stepped =>
    exact List.forall_mem_singleton.2 (Nat.le_add_right _ _)

theorem holds_start (text : String) :
    Holds text.toList ⟨.poised 0 .argumentStart, []⟩ (Token.scan text) := by
  have ready : Token.Expect.argument.Ready text.toList :=
    Token.Expect.ready_of_ne_name (by decide) text.toList
  exact ⟨⟨Cursor.ofText text, ⟨Facing.start text.toList, ready, rfl⟩, rfl⟩, by simp,
    .inr ⟨_, Token.scan_sequence text⟩, scanFrom_ordered _ _ _⟩

/-- What is built of a tag that is not empty. -/
theorem buildFrom_start (notEnd : token.kind ≠ .eof) (rest : List Token) :
    buildFrom .start (token :: rest) = buildFrom .argument (token :: rest) := by
  apply buildFrom_congr
  rw [Tree.accept]
  split
  next isEnd => exact absurd isEnd notEnd
  next => rfl

/-- The arguments of a tag are those that the machine builds, none included. -/
theorem allArguments_meets (holds : Holds input reader (token :: rest)) :
    Meets (allArguments input) reader
      (fun args _ => buildFrom .start (token :: rest) = .ok args)
      (fun error => buildFrom .start (token :: rest) = .error error) := by
  apply (peek_meets holds).bind
  · rintro kind after ⟨rfl, holdsAfter, -⟩
    by_cases isEnd : token.kind = .eof
    · rw [if_pos isEnd]
      exact meets_pure (buildFrom_of_finish (.empty isEnd) rest)
    · rw [if_neg isEnd, buildFrom_start isEnd]
      apply (arguments_meets holdsAfter []).mono
      · rintro args final ⟨more, rfl, built⟩
        exact built
      · exact fun _ => id
  · intro error fault
    exact buildFrom_of_faultAt fault _

theorem tree_meets (holds : Holds input reader (token :: rest)) :
    Meets (tree input) reader
      (fun tree _ => buildFrom .start (token :: rest) = .ok tree.args ∧
        tree.span = ⟨0, byteLength input⟩)
      (fun error => buildFrom .start (token :: rest) = .error error) := by
  apply (allArguments_meets holds).bind
  · intro args after built
    apply meets_attempt_bind (if_pos (Nat.zero_le _))
    exact meets_pure ⟨built, rfl⟩
  · exact fun _ => id

/-- Nothing fails on any tag, and the reading is the machine's. -/
theorem parse_eq (text : String) : parse text = some (Tree.parse text) := by
  obtain ⟨token, rest, isScan⟩ := exists_cons_of_sequence (Token.scan_sequence text)
  have holds := holds_start text
  rw [isScan] at holds
  obtain ⟨outcome, isOutcome, met⟩ := tree_meets holds
  have isParse : parse text = some (outcome.map Prod.fst) := by
    show Option.map _ (tree text.toList _) = _
    rw [isOutcome]
    rfl
  rw [isParse, Tree.parse, isScan]
  cases outcome with
  | error error =>
    rw [met]
    rfl
  | ok returned =>
    obtain ⟨built, isSpan⟩ := met
    rw [built]
    show some (Except.ok returned.1) = some (.ok ⟨returned.1.args, ⟨0, byteLength text.toList⟩⟩)
    rw [← isSpan]

/-- Although a cut succeeds only between characters, no operation fails, neither in reading a tag
nor in classifying a text as a number, whatever the tag or the text is. The outcomes are those of
`Tree.parse` and of a number token. -/
theorem operations_succeed :
    (∀ (input : List Char) (start stop : Nat),
      (slice? input start stop).isSome = true ↔ (⟨start, stop⟩ : Span).Within input) ∧
    (∀ text : String, parse text = some (Tree.parse text)) ∧
    ∀ (text : String) (span : Span), ∃ outcome, classify text span = some outcome ∧
      outcome.map Value.number = Value.ofToken ⟨.number, text, span⟩ := by
  refine ⟨fun _ _ _ => isSome_slice?_iff, parse_eq, fun text span => ?_⟩
  exact Option.map_eq_some_iff.1 (classify_eq text span)

end RecordTags.Checked
