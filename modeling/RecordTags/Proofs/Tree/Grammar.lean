import Mathlib.Computability.Language
import RecordTags.Proofs.Tree.Machine

/-!
Contract: the grammar of tags, and the machine as its recognizer.

Owns:
- the grammar, as a language over the classes of tokens;
- for every place of the machine the language of what may still come. One step
  takes the first class off that language, so the machine follows the grammar
  class by class;
- the classes that can come at a place. Any of them can still be completed to a
  tag, and no other can.

Does not own: values. Whether a number or a string of the right class has a
value is not a matter of the grammar.
-/

namespace RecordTags

open scoped Computability

namespace Grammar

/-- One token of a class. -/
def token (kind : TokenKind) : Language TokenKind := {[kind]}

def simple : Language TokenKind :=
  token .nil + token .bool + token .identifier + token .string + token .number

def argument : Language TokenKind :=
  (token .enable + token .disable) * token .identifier +
    (1 + token .identifier * token .assign) * (simple * (token .listSeparator * simple)∗)

def tag : Language TokenKind :=
  (1 + argument * (token .argumentSeparator * argument)∗) * token .eof

def simpleKinds : List TokenKind := [.nil, .bool, .identifier, .string, .number]

/-- The classes can go on to make a tag. -/
def Viable (kinds : List TokenKind) : Prop := ∃ rest, kinds ++ rest ∈ tag

/-! ## One class at a time -/

/-- What may follow a value before the argument ends. -/
def elements : Language TokenKind := (token .listSeparator * simple)∗

/-- What may follow an argument. -/
def ending : Language TokenKind := (token .argumentSeparator * argument)∗ * token .eof

@[simp] theorem cons_mem_token_mul {kind head : TokenKind} {language : Language TokenKind}
    {rest : List TokenKind} :
    head :: rest ∈ token kind * language ↔ head = kind ∧ rest ∈ language := by
  rw [Language.mem_mul]
  constructor
  · rintro ⟨word, isToken, behind, member, whole⟩
    obtain rfl : word = [kind] := isToken
    cases whole
    exact ⟨rfl, member⟩
  · rintro ⟨rfl, member⟩
    exact ⟨[head], rfl, rest, member, rfl⟩

@[simp] theorem cons_mem_token {kind head : TokenKind} {rest : List TokenKind} :
    head :: rest ∈ token kind ↔ head = kind ∧ rest = [] := by
  show head :: rest = [kind] ↔ _
  simp

theorem ending_eq : ending = token .eof + token .argumentSeparator * (argument * ending) := by
  have unfolded := Language.one_add_self_mul_kstar_eq_kstar (token .argumentSeparator * argument)
  calc ending
      = (1 + token .argumentSeparator * argument * (token .argumentSeparator * argument)∗) *
          token .eof := by rw [unfolded, ending]
    _ = token .eof + token .argumentSeparator * (argument * ending) := by
        rw [add_mul, one_mul, mul_assoc, mul_assoc, ending]

theorem elements_mul (language : Language TokenKind) :
    elements * language =
      language + token .listSeparator * (simple * (elements * language)) := by
  have unfolded := Language.one_add_self_mul_kstar_eq_kstar (token .listSeparator * simple)
  calc elements * language
      = (1 + token .listSeparator * simple * elements) * language := by
        rw [elements, unfolded]
    _ = language + token .listSeparator * (simple * (elements * language)) := by
        rw [add_mul, one_mul, mul_assoc, mul_assoc]

theorem simple_mul (language : Language TokenKind) :
    simple * language = token .nil * language + token .bool * language +
      token .identifier * language + token .string * language + token .number * language := by
  simp only [simple, add_mul]

theorem argument_mul (language : Language TokenKind) :
    argument * language = token .enable * (token .identifier * language) +
      token .disable * (token .identifier * language) +
      (simple * (elements * language) +
        token .identifier * (token .assign * (simple * (elements * language)))) := by
  simp only [argument, elements, add_mul, one_mul, mul_assoc]

theorem tag_eq : tag = token .eof + argument * ending := by
  rw [tag, add_mul, one_mul, mul_assoc, ending]

theorem cons_mem_ending {kind : TokenKind} {rest : List TokenKind} :
    kind :: rest ∈ ending ↔ (kind = .eof ∧ rest = []) ∨
      (kind = .argumentSeparator ∧ rest ∈ argument * ending) := by
  conv_lhs => rw [ending_eq]
  simp only [Language.mem_add, cons_mem_token, cons_mem_token_mul]

theorem cons_mem_elements {kind : TokenKind} {rest : List TokenKind} :
    kind :: rest ∈ elements * ending ↔ kind :: rest ∈ ending ∨
      (kind = .listSeparator ∧ rest ∈ simple * (elements * ending)) := by
  conv_lhs => rw [elements_mul]
  simp only [Language.mem_add, cons_mem_token_mul]

theorem cons_mem_simple {kind : TokenKind} {rest : List TokenKind}
    {language : Language TokenKind} :
    kind :: rest ∈ simple * language ↔
      kind ∈ simpleKinds ∧ rest ∈ language := by
  simp only [simple_mul, Language.mem_add, cons_mem_token_mul, simpleKinds, List.mem_cons,
    List.not_mem_nil]
  tauto

theorem cons_mem_argument {kind : TokenKind} {rest : List TokenKind}
    {language : Language TokenKind} :
    kind :: rest ∈ argument * language ↔
      (kind ∈ [.enable, .disable] ∧ rest ∈ token .identifier * language) ∨
        kind :: rest ∈ simple * (elements * language) ∨
        (kind = .identifier ∧ rest ∈ token .assign * (simple * (elements * language))) := by
  simp only [argument_mul, Language.mem_add, cons_mem_token_mul, List.mem_cons, List.not_mem_nil]
  tauto

theorem cons_mem_tag {kind : TokenKind} {rest : List TokenKind} :
    kind :: rest ∈ tag ↔ (kind = .eof ∧ rest = []) ∨ kind :: rest ∈ argument * ending := by
  rw [tag_eq, Language.mem_add, cons_mem_token]

/-! ## First classes -/

/-- Some word of the language starts with the class. -/
def Starts (language : Language TokenKind) (kind : TokenKind) : Prop :=
  ∃ rest, kind :: rest ∈ language

theorem starts_add {left right : Language TokenKind} {kind : TokenKind} :
    Starts (left + right) kind ↔ Starts left kind ∨ Starts right kind := by
  simp only [Starts, Language.mem_add, exists_or]

theorem starts_token {kind head : TokenKind} : Starts (token kind) head ↔ head = kind := by
  simp [Starts]

theorem starts_token_mul {kind head : TokenKind} {language : Language TokenKind}
    (nonempty : ∃ rest, rest ∈ language) : Starts (token kind * language) head ↔ head = kind := by
  simp only [Starts, cons_mem_token_mul, exists_and_left]
  exact and_iff_left nonempty

theorem eof_mem_ending : [.eof] ∈ ending :=
  cons_mem_ending.2 (.inl ⟨rfl, rfl⟩)

theorem eof_mem_elements : [.eof] ∈ elements * ending :=
  cons_mem_elements.2 (.inl eof_mem_ending)

theorem exists_mem_simple : ∃ rest, rest ∈ simple * (elements * ending) :=
  ⟨[.nil, .eof], cons_mem_simple.2 ⟨by decide, eof_mem_elements⟩⟩

theorem exists_mem_argument : ∃ rest, rest ∈ argument * ending :=
  ⟨[.nil, .eof], cons_mem_argument.2
    (.inr (.inl (cons_mem_simple.2 ⟨by decide, eof_mem_elements⟩)))⟩

theorem starts_simple {kind : TokenKind} :
    Starts (simple * (elements * ending)) kind ↔ kind ∈ simpleKinds := by
  simp only [simple_mul, starts_add, starts_token_mul ⟨_, eof_mem_elements⟩]
  simp [simpleKinds, or_assoc]

/-- The classes that an argument can start with. -/
theorem starts_argument {kind : TokenKind} :
    Starts (argument * ending) kind ↔ kind ∈ .enable :: .disable :: simpleKinds := by
  have switched : ∃ rest, rest ∈ token .identifier * ending :=
    ⟨[.identifier, .eof], cons_mem_token_mul.2 ⟨rfl, eof_mem_ending⟩⟩
  have named : ∃ rest, rest ∈ token .assign * (simple * (elements * ending)) :=
    ⟨[.assign, .nil, .eof], cons_mem_token_mul.2
      ⟨rfl, cons_mem_simple.2 ⟨by decide, eof_mem_elements⟩⟩⟩
  simp only [argument_mul, starts_add, starts_token_mul switched, starts_token_mul named,
    starts_simple, simpleKinds, List.mem_cons, List.not_mem_nil]
  tauto

theorem starts_ending {kind : TokenKind} :
    Starts ending kind ↔ kind ∈ [.eof, .argumentSeparator] := by
  rw [ending_eq, starts_add, starts_token, starts_token_mul exists_mem_argument]
  simp

theorem starts_elements {kind : TokenKind} :
    Starts (elements * ending) kind ↔ kind ∈ [.eof, .argumentSeparator, .listSeparator] := by
  rw [elements_mul, starts_add, starts_ending, starts_token_mul exists_mem_simple]
  simp [or_assoc]

end Grammar

namespace Tree

open Grammar

/-! ## Places -/

/-- What may come from a place on. -/
def Place.residual : Place → Language TokenKind
  | start => tag
  | argument => Grammar.argument * ending
  | switchName _ => token .identifier * ending
  | word _ => elements * ending + token .assign * (simple * (elements * ending))
  | value _ | element _ _ _ => simple * (elements * ending)
  | afterValue _ _ _ => elements * ending
  | afterSwitch _ => ending

/-- The classes that may come next at a place. -/
def Place.kinds : Place → List TokenKind
  | start => .eof :: .enable :: .disable :: simpleKinds
  | argument => .enable :: .disable :: simpleKinds
  | switchName _ => [.identifier]
  | word _ => [.eof, .argumentSeparator, .listSeparator, .assign]
  | value _ | element _ _ _ => simpleKinds
  | afterValue _ _ _ => [.eof, .argumentSeparator, .listSeparator]
  | afterSwitch _ => [.eof, .argumentSeparator]

/-- What may come behind a move. -/
def Move.residual : Move → Language TokenKind
  | goOn place => place.residual
  | separate _ => Place.argument.residual
  | finish _ => 1

/-- Only tokens of these classes have a value. -/
theorem kind_of_ofToken {token : Token} {value : Value} (read : Value.ofToken token = .ok value) :
    token.kind ∈ simpleKinds := by
  cases kind : token.kind with
  | nil | bool | identifier | string | number => decide
  | error | eof | enable | disable | assign | listSeparator | argumentSeparator =>
      rw [Value.ofToken, kind] at read
      contradiction

theorem Place.mem_residual_word {identifier : Identifier} {kinds : List TokenKind} :
    kinds ∈ (word identifier).residual ↔
      kinds ∈ elements * ending ∨ kinds ∈ token .assign * (simple * (elements * ending)) :=
  Language.mem_add _ _ _

theorem Place.Holds.cons_mem_residual {place : Place} {name : Option Identifier} {first : Value}
    {others : List Value} (holds : place.Holds name first others) {kind : TokenKind}
    (notAssign : kind ≠ .assign) {rest : List TokenKind} :
    kind :: rest ∈ place.residual ↔ kind :: rest ∈ elements * ending := by
  cases holds with
  | word => rw [Place.mem_residual_word, cons_mem_token_mul, or_iff_left fun h => notAssign h.1]
  | afterValue => exact Iff.rfl

theorem Place.Completes.cons_mem_residual {place : Place} {argument : Argument}
    (completes : place.Completes argument) {kind : TokenKind} (notAssign : kind ≠ .assign)
    (notMore : kind ≠ .listSeparator) {rest : List TokenKind} :
    kind :: rest ∈ place.residual ↔ kind :: rest ∈ ending := by
  cases completes with
  | value holds => simp [holds.cons_mem_residual notAssign, cons_mem_elements, notMore]
  | afterSwitch => exact Iff.rfl

theorem Place.Opens.cons_mem_residual {place : Place} (opens : place.Opens) {kind : TokenKind}
    (notEnd : kind ≠ .eof) {rest : List TokenKind} :
    kind :: rest ∈ place.residual ↔ kind :: rest ∈ Grammar.argument * ending := by
  cases opens with
  | start => simp [Place.residual, cons_mem_tag, notEnd]
  | argument => exact Iff.rfl

/-- One step takes the first class off what may come. -/
theorem Accepts.cons_mem_residual {place : Place} {token : Token} {move : Move}
    (accepts : Accepts place token move) (rest : List TokenKind) :
    token.kind :: rest ∈ place.residual ↔ rest ∈ move.residual := by
  cases accepts with
  | empty kind =>
      rw [kind]
      simp [Place.residual, Move.residual, cons_mem_tag, cons_mem_argument, cons_mem_simple,
        simpleKinds]
  | mark opens kind =>
      have notEnd : token.kind ≠ .eof := by rcases kind with kind | kind <;> rw [kind] <;> decide
      rw [opens.cons_mem_residual notEnd, cons_mem_argument, cons_mem_simple]
      rcases kind with kind | kind <;> simp [kind, Move.residual, Place.residual, simpleKinds]
  | word opens kind =>
      rw [opens.cons_mem_residual (by rw [kind]; decide), cons_mem_argument, cons_mem_simple]
      simp [kind, Move.residual, Place.mem_residual_word, simpleKinds]
  | literal opens notWord read =>
      have isSimple := kind_of_ofToken read
      have notMark : token.kind ≠ .eof ∧ token.kind ∉ [.enable, .disable] := by
        revert isSimple
        generalize token.kind = kind
        revert kind
        decide
      rw [opens.cons_mem_residual notMark.1, cons_mem_argument, cons_mem_simple]
      simp [isSimple, notMark, notWord, Move.residual, Place.residual]
  | switchName kind => simp [kind, Move.residual, Place.residual]
  | name kind =>
      rw [Place.mem_residual_word, cons_mem_elements, cons_mem_ending]
      simp [kind, Move.residual, Place.residual]
  | value read | element read =>
      simp only [Move.residual, Place.residual, cons_mem_simple, kind_of_ofToken read, true_and]
  | more holds kind =>
      rw [holds.cons_mem_residual (by rw [kind]; decide), cons_mem_elements, cons_mem_ending]
      simp [kind, Move.residual, Place.residual]
  | next completes kind =>
      rw [completes.cons_mem_residual (by rw [kind]; decide) (by rw [kind]; decide),
        cons_mem_ending]
      simp [kind, Move.residual, Place.residual]
  | last completes kind =>
      rw [completes.cons_mem_residual (by rw [kind]; decide) (by rw [kind]; decide),
        cons_mem_ending]
      simp [kind, Move.residual]

/-- The classes that may come at a place are those that the rest of a tag can start with. -/
theorem Place.starts_residual {place : Place} {kind : TokenKind} :
    Starts place.residual kind ↔ kind ∈ place.kinds := by
  cases place with
  | start =>
      rw [Place.residual, tag_eq, starts_add, starts_token, starts_argument]
      simp [Place.kinds]
  | argument => exact starts_argument
  | switchName mark =>
      rw [Place.residual, starts_token_mul ⟨_, eof_mem_ending⟩]
      simp [Place.kinds]
  | word identifier =>
      rw [Place.residual, starts_add, starts_elements, starts_token_mul exists_mem_simple]
      simp [Place.kinds, or_assoc]
  | value name | element name first others => exact starts_simple
  | afterValue name first others => exact starts_elements
  | afterSwitch argument => exact starts_ending

/-- Only classes that may come are accepted. -/
theorem Accepts.kind_mem_kinds {place : Place} {token : Token} {move : Move}
    (accepts : Accepts place token move) : token.kind ∈ place.kinds := by
  have ofOpens : place.Opens → token.kind ∈ .enable :: .disable :: simpleKinds →
      token.kind ∈ place.kinds := by
    rintro (_ | _) member
    · exact List.mem_cons_of_mem _ member
    · exact member
  cases accepts with
  | empty kind | switchName kind | name kind =>
      rw [kind]
      simp [Place.kinds]
  | mark opens kind =>
      refine ofOpens opens ?_
      rcases kind with kind | kind <;> rw [kind] <;> decide
  | word opens kind =>
      refine ofOpens opens ?_
      rw [kind]
      decide
  | literal opens notWord read =>
      refine ofOpens opens ?_
      exact List.mem_cons_of_mem _ (List.mem_cons_of_mem _ (kind_of_ofToken read))
  | value read | element read => exact kind_of_ofToken read
  | more holds kind =>
      rw [kind]
      cases holds <;> simp [Place.kinds]
  | next completes kind | last completes kind =>
      rw [kind]
      rcases completes with ⟨_ | _⟩ | _ <;> simp [Place.kinds]

end Tree

end RecordTags
