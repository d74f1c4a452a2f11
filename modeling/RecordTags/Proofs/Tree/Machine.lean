import Mathlib.Tactic.SplitIfs
import RecordTags.Proofs.Token.Sequence
import RecordTags.Tree.Build

/-!
Contract: the machine that builds a tree, as a relation.

Owns:
- `Accepts`, one constructor per transition, and its agreement with `accept`;
- the cases of a run by the move that its first token makes;
- what an accepted token says about the scanner's expectation: a place in the
  grammar and what the scanner looks for there go together.

Every invariant of the machine is a case analysis of `Accepts`; the function
itself is not opened elsewhere.
-/

namespace RecordTags

open RecordTags.Text

theorem exists_of_map_eq_ok {ε α β : Type} {f : α → β} {result : Except ε α} {b : β}
    (mapped : result.map f = .ok b) : ∃ a, result = .ok a ∧ f a = b := by
  cases result with
  | error error => contradiction
  | ok a => exact ⟨a, rfl, Except.ok.inj mapped⟩

theorem eq_error_of_map {ε α β : Type} {f : α → β} {result : Except ε α} {error : ε}
    (mapped : result.map f = .error error) : result = .error error := by
  cases result with
  | error other => rw [Except.error.inj mapped]
  | ok a => contradiction

theorem exists_of_isOk {ε α : Type} {result : Except ε α} (isOk : result.isOk = true) :
    ∃ a, result = .ok a := by
  cases result with
  | error error => contradiction
  | ok a => exact ⟨a, rfl⟩

namespace Tree

namespace Place

/-- An argument can start here. -/
inductive Opens : Place → Prop where
  | start : Opens start
  | argument : Opens argument

/-- A complete value has been read, of an argument with or without a name. -/
inductive Holds : Place → Option Identifier → Value → List Value → Prop where
  | word (identifier : Identifier) : Holds (word identifier) none (.identifier identifier) []
  | afterValue (name : Option Identifier) (first : Value) (others : List Value) :
      Holds (afterValue name first others) name first others

/-- A complete argument has been read. -/
inductive Completes : Place → Argument → Prop where
  | value {place : Place} {name : Option Identifier} {first : Value} {others : List Value}
      (holds : place.Holds name first others) :
      Completes place (.ofValue name (.ofElements first others))
  | afterSwitch (argument : Argument) : Completes (afterSwitch argument) argument

end Place

/-- The transitions of the machine. -/
inductive Accepts : Place → Token → Move → Prop where
  /-- The tag is empty. -/
  | empty {token : Token} (kind : token.kind = .eof) : Accepts .start token (.finish none)
  | mark {place : Place} {token : Token} (opens : place.Opens)
      (kind : token.kind = .enable ∨ token.kind = .disable) :
      Accepts place token (.goOn (.switchName token))
  | word {place : Place} {token : Token} (opens : place.Opens)
      (kind : token.kind = .identifier) :
      Accepts place token (.goOn (.word ⟨token.text, token.span⟩))
  | literal {place : Place} {token : Token} {value : Value} (opens : place.Opens)
      (notWord : token.kind ≠ .identifier) (read : Value.ofToken token = .ok value) :
      Accepts place token (.goOn (.afterValue none value []))
  | switchName {mark token : Token} (kind : token.kind = .identifier) :
      Accepts (.switchName mark) token
        (.goOn (.afterSwitch (.ofSwitch mark ⟨token.text, token.span⟩)))
  /-- The word turns out to be a name. -/
  | name {identifier : Identifier} {token : Token} (kind : token.kind = .assign) :
      Accepts (.word identifier) token (.goOn (.value identifier))
  | value {name : Identifier} {token : Token} {value : Value}
      (read : Value.ofToken token = .ok value) :
      Accepts (.value name) token (.goOn (.afterValue (some name) value []))
  | element {name : Option Identifier} {first value : Value} {others : List Value} {token : Token}
      (read : Value.ofToken token = .ok value) :
      Accepts (.element name first others) token
        (.goOn (.afterValue name first (others ++ [value])))
  | more {place : Place} {name : Option Identifier} {first : Value} {others : List Value}
      {token : Token} (holds : place.Holds name first others)
      (kind : token.kind = .listSeparator) :
      Accepts place token (.goOn (.element name first others))
  | next {place : Place} {argument : Argument} {token : Token}
      (completes : place.Completes argument) (kind : token.kind = .argumentSeparator) :
      Accepts place token (.separate argument)
  | last {place : Place} {argument : Argument} {token : Token}
      (completes : place.Completes argument) (kind : token.kind = .eof) :
      Accepts place token (.finish (some argument))

/-! ## Agreement with the function -/

theorem accepts_of_acceptArgument {place : Place} {token : Token} {move : Move}
    (opens : place.Opens) (accepted : acceptArgument token = .ok move) :
    Accepts place token move := by
  unfold acceptArgument at accepted
  split at accepted
  next kind => cases accepted; exact .mark opens (.inl kind)
  next kind => cases accepted; exact .mark opens (.inr kind)
  next kind => cases accepted; exact .word opens kind
  next _ _ notWord =>
    obtain ⟨value, read, rfl⟩ := exists_of_map_eq_ok accepted
    exact .literal opens notWord read

theorem accepts_of_acceptEnd {place : Place} {argument : Argument} {token : Token} {move : Move}
    (completes : place.Completes argument) (accepted : acceptEnd argument token = .ok move) :
    Accepts place token move := by
  unfold acceptEnd at accepted
  split at accepted
  next kind => cases accepted; exact .next completes kind
  next kind => cases accepted; exact .last completes kind
  next => contradiction

theorem accepts_of_acceptAfterValue {place : Place} {name : Option Identifier} {first : Value}
    {others : List Value} {token : Token} {move : Move}
    (holds : place.Holds name first others)
    (accepted : acceptAfterValue name first others token = .ok move) :
    Accepts place token move := by
  unfold acceptAfterValue at accepted
  split at accepted
  next kind => cases accepted; exact .more holds kind
  next => exact accepts_of_acceptEnd (.value holds) accepted

/-- Every step of the machine is a transition. -/
theorem accepts_of_accept {place : Place} {token : Token} {move : Move}
    (accepted : accept place token = .ok move) : Accepts place token move := by
  cases place with
  | start =>
      simp only [accept] at accepted
      split at accepted
      next kind => cases accepted; exact .empty kind
      next => exact accepts_of_acceptArgument .start accepted
  | argument => exact accepts_of_acceptArgument .argument accepted
  | switchName mark =>
      simp only [accept] at accepted
      split at accepted
      next kind => cases accepted; exact .switchName kind
      next => contradiction
  | word identifier =>
      simp only [accept] at accepted
      split at accepted
      next kind => cases accepted; exact .name kind
      next => exact accepts_of_acceptAfterValue (.word identifier) accepted
  | value name =>
      obtain ⟨value, read, rfl⟩ := exists_of_map_eq_ok accepted
      exact .value read
  | element name first others =>
      obtain ⟨value, read, rfl⟩ := exists_of_map_eq_ok accepted
      exact .element read
  | afterValue name first others =>
      exact accepts_of_acceptAfterValue (.afterValue name first others) accepted
  | afterSwitch argument => exact accepts_of_acceptEnd (.afterSwitch argument) accepted

theorem accept_of_opens {place : Place} {token : Token} (opens : place.Opens)
    (notEnd : token.kind ≠ .eof) : accept place token = acceptArgument token := by
  cases opens with
  | start => simp only [accept]
  | argument => rfl

theorem accept_of_holds {place : Place} {name : Option Identifier} {first : Value}
    {others : List Value} {token : Token} (holds : place.Holds name first others)
    (notAssign : token.kind ≠ .assign) :
    accept place token = acceptAfterValue name first others token := by
  cases holds with
  | word identifier => simp only [accept]
  | afterValue => rfl

theorem accept_of_completes {place : Place} {argument : Argument} {token : Token}
    (completes : place.Completes argument) (notAssign : token.kind ≠ .assign)
    (notMore : token.kind ≠ .listSeparator) : accept place token = acceptEnd argument token := by
  cases completes with
  | value holds =>
      rw [accept_of_holds holds notAssign, acceptAfterValue]
      split
      next kind => exact absurd kind notMore
      next => rfl
  | afterSwitch => rfl

/-- Every transition is a step of the machine. -/
theorem accept_of_accepts {place : Place} {token : Token} {move : Move}
    (accepts : Accepts place token move) : accept place token = .ok move := by
  cases accepts with
  | empty kind => simp only [accept, kind]
  | mark opens kind =>
      rcases kind with kind | kind <;>
        rw [accept_of_opens opens (by rw [kind]; decide)] <;> simp only [acceptArgument, kind]
  | word opens kind =>
      rw [accept_of_opens opens (by rw [kind]; decide)]
      simp only [acceptArgument, kind]
  | literal opens notWord read =>
      have readable : ∀ kind, token.kind = kind → kind ∉ [.eof, .enable, .disable] := by
        rintro kind rfl member
        simp only [List.mem_cons, List.not_mem_nil, or_false] at member
        rcases member with kind | kind | kind <;> simp [Value.ofToken, kind] at read
      rw [accept_of_opens opens fun kind => readable _ kind (by decide), acceptArgument]
      split
      next kind => exact absurd (readable _ kind) (by decide)
      next kind => exact absurd (readable _ kind) (by decide)
      next kind => exact absurd kind notWord
      next => rw [read]; rfl
  | switchName kind => simp only [accept, kind]
  | name kind => simp only [accept, kind]
  | value read => simp only [accept, read, Except.map]
  | element read => simp only [accept, read, Except.map]
  | more holds kind =>
      rw [accept_of_holds holds (by rw [kind]; decide)]
      simp only [acceptAfterValue, kind]
  | next completes kind =>
      rw [accept_of_completes completes (by rw [kind]; decide) (by rw [kind]; decide)]
      simp only [acceptEnd, kind]
  | last completes kind =>
      rw [accept_of_completes completes (by rw [kind]; decide) (by rw [kind]; decide)]
      simp only [acceptEnd, kind]

/-- A token that the scanner stopped at is never accepted. -/
theorem Accepts.not_fault {place : Place} {token : Token} {move : Move}
    (accepts : Accepts place token move) (fault : LexFault) : token.kind ≠ .error fault := by
  intro isFault
  cases accepts with
  | mark opens kind => rcases kind with kind | kind <;> rw [isFault] at kind <;> contradiction
  | literal opens notWord read | value read | element read =>
      rw [Value.ofToken, isFault] at read
      contradiction
  | empty kind | word opens kind | switchName kind | name kind | more holds kind
  | next completes kind | last completes kind =>
      rw [isFault] at kind
      contradiction

/-- A tag is finished by the end of the text and by nothing else. -/
theorem Accepts.finish_iff {place : Place} {token : Token} {move : Move}
    (accepts : Accepts place token move) :
    (∃ last, move = .finish last) ↔ token.kind = .eof := by
  cases accepts with
  | empty kind | last completes kind => simp [kind]
  | mark opens kind => rcases kind with kind | kind <;> simp [kind]
  | literal opens notWord read | value read | element read =>
      have notEnd : token.kind ≠ .eof := by
        intro isEnd
        rw [Value.ofToken, isEnd] at read
        contradiction
      simp [notEnd]
  | word opens kind | switchName kind | name kind | more holds kind | next completes kind =>
      simp [kind]

theorem Accepts.exists_finish {place : Place} {token : Token} {move : Move}
    (accepts : Accepts place token move) (isTerminal : token.kind.isTerminal = true) :
    ∃ last, move = .finish last := by
  apply accepts.finish_iff.2
  cases kind : token.kind with
  | error fault => exact absurd kind (accepts.not_fault fault)
  | eof => rfl
  | _ =>
      rw [kind] at isTerminal
      contradiction

theorem Accepts.ne_finish {place : Place} {token : Token} {move : Move}
    (accepts : Accepts place token move) (notTerminal : token.kind.isTerminal = false)
    (last : Option Argument) : move ≠ .finish last := by
  intro isFinish
  rw [accepts.finish_iff.1 ⟨last, isFinish⟩] at notTerminal
  contradiction

/-! ## Runs -/

/-- A run over a token sequence that succeeds, from a place to the end of the tag. -/
inductive Builds : Place → List Token → List Argument → Prop where
  | goOn {place next : Place} {token : Token} {rest : List Token} {args : List Argument}
      (spelled : token.Spelled) (accepts : Accepts place token (.goOn next))
      (run : Builds next rest args) : Builds place (token :: rest) args
  | separate {place : Place} {token : Token} {argument : Argument} {rest : List Token}
      {args : List Argument} (spelled : token.Spelled)
      (accepts : Accepts place token (.separate argument)) (run : Builds .argument rest args) :
      Builds place (token :: rest) (argument :: args)
  | finish {place : Place} {token : Token} {last : Option Argument} (spelled : token.Spelled)
      (accepts : Accepts place token (.finish last)) : Builds place [token] last.toList

/-- What is built is built by a run. -/
theorem builds_of_buildFrom {expect : Token.Expect} {tokens : List Token}
    (sequence : Token.Sequence expect tokens) {place : Place} {args : List Argument}
    (built : buildFrom place tokens = .ok args) : Builds place tokens args := by
  induction sequence generalizing place args with
  | @terminal expect token spelled isTerminal =>
      cases accepted : accept place token with
      | error error => rw [buildFrom, accepted] at built; contradiction
      | ok move =>
          have accepts := accepts_of_accept accepted
          obtain ⟨last, rfl⟩ := accepts.exists_finish isTerminal
          rw [buildFrom, accepted] at built
          cases built
          exact .finish spelled accepts
  | @cons expect token rest spelled admitted tail inductionHypothesis =>
      rw [buildFrom] at built
      split at built
      next => contradiction
      next next accepted =>
        exact .goOn spelled (accepts_of_accept accepted) (inductionHypothesis built)
      next argument accepted =>
        obtain ⟨others, inner, rfl⟩ := exists_of_map_eq_ok built
        exact .separate spelled (accepts_of_accept accepted) (inductionHypothesis inner)
      next last accepted =>
        have accepts := accepts_of_accept accepted
        exact absurd rfl (accepts.ne_finish (Token.Expect.isTerminal_of_mem_kinds admitted) last)

theorem buildFrom_of_goOn {place next : Place} {token : Token}
    (accepts : Accepts place token (.goOn next)) (rest : List Token) :
    buildFrom place (token :: rest) = buildFrom next rest := by
  rw [buildFrom, accept_of_accepts accepts]

theorem buildFrom_of_separate {place : Place} {token : Token} {argument : Argument}
    (accepts : Accepts place token (.separate argument)) (rest : List Token) :
    buildFrom place (token :: rest) = (buildFrom .argument rest).map (argument :: ·) := by
  rw [buildFrom, accept_of_accepts accepts]

theorem buildFrom_of_finish {place : Place} {token : Token} {last : Option Argument}
    (accepts : Accepts place token (.finish last)) (rest : List Token) :
    buildFrom place (token :: rest) = .ok last.toList := by
  rw [buildFrom, accept_of_accepts accepts]

end Tree

end RecordTags
