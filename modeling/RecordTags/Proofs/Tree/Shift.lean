import RecordTags.Proofs.Field.Assignment
import RecordTags.Proofs.Tree.Lossless
import RecordTags.Proofs.Tree.Spans

/-!
Contract: reading a text at another byte shifts every span and changes nothing else.

Owns:
- tokens, errors, places and moves with their spans changed, and that an error
  keeps its stage, code, field and message;
- that each part of reading commutes with the shift: the scan, the content of a
  string, the value of a token, one step of the machine, a whole run.

Does not own: `mapSpans` of values and arguments; that is
`RecordTags.Proofs.Tree.Spans`.
-/

namespace RecordTags

open RecordTags.Text

/-! ## Spans of tokens and errors -/

theorem Span.cover_shift (distance : Nat) (left right : Span) :
    (left.shift distance).cover (right.shift distance) = (left.cover right).shift distance := by
  simp only [cover, shift, mk.injEq]
  omega

def Token.mapSpans (f : Span → Span) (token : Token) : Token :=
  { token with span := f token.span }

theorem Token.describe_mapSpans (f : Span → Span) (token : Token) :
    (token.mapSpans f).describe = token.describe := by
  unfold Token.describe
  rfl

namespace Value

theorem span_mapSpans (f : Span → Span) (value : Value) :
    (value.mapSpans f).span = f value.span := by
  cases value <;> rw [Value.mapSpans] <;> rfl

theorem kind_mapSpans (f : Span → Span) (value : Value) : (value.mapSpans f).kind = value.kind := by
  cases value <;> rw [Value.mapSpans] <;> rfl

theorem chars_mapSpans (f : Span → Span) (value : Value) :
    (value.mapSpans f).chars = value.chars := by
  induction value using Value.induct with
  | nil span => rw [Value.mapSpans, Value.chars, Value.chars]
  | scalar value scalar =>
      cases value with
      | nil | slice => exact scalar.elim
      | bool | number | string | identifier | switch =>
          simp only [Value.mapSpans, Value.chars, Identifier.mapSpans]
  | slice values span inductionHypothesis =>
      rw [Value.mapSpans, Value.chars, Value.chars, elementChars_eq_map, elementChars_eq_map,
        mapElementSpans_eq_map, List.map_map]
      exact congrArg (joinWith listSeparator) (List.map_congr_left inductionHypothesis)

end Value

namespace TagError

/-- The error with all its spans changed. -/
def mapSpans (f : Span → Span) : TagError → TagError
  | lexical fault span => lexical fault (f span)
  | unexpected token => unexpected (token.mapSpans f)
  | invalidEscape source span => invalidEscape source (f span)
  | numeric fault text span => numeric fault text (f span)
  | argumentOrder span => argumentOrder (f span)
  | unknownField key span => unknownField key (f span)
  | indexOutOfRange index count span => indexOutOfRange index count (f span)
  | refused refusal value kind field => refused refusal (value.mapSpans f) kind field

theorem span_mapSpans (f : Span → Span) (error : TagError) :
    (error.mapSpans f).span = f error.span := by
  cases error with
  | refused refusal value kind field => exact value.span_mapSpans f
  | _ => rfl

theorem category_mapSpans (f : Span → Span) (error : TagError) :
    (error.mapSpans f).category = error.category := by
  cases error <;> rfl

theorem code_mapSpans (f : Span → Span) (error : TagError) :
    (error.mapSpans f).code = error.code := by
  cases error with
  | refused refusal => cases refusal <;> rfl
  | _ => rfl

theorem message_mapSpans (f : Span → Span) (error : TagError) :
    (error.mapSpans f).message = error.message := by
  unfold message
  cases error with
  | refused refusal value kind field =>
      have kindName := congrArg ValueKind.name (value.kind_mapSpans f)
      have text : (value.mapSpans f).render = value.render :=
        congrArg String.ofList (value.chars_mapSpans f)
      cases refusal with
      | unsupported | outOfRange =>
          simp only [mapSpans]
          rw [kindName, text]
  | unexpected token => simp only [mapSpans, token.describe_mapSpans f]
  | lexical | invalidEscape | numeric | argumentOrder | unknownField | indexOutOfRange =>
      simp only [mapSpans]

theorem mapSpans_ofToken (f : Span → Span) (token : Token) :
    (ofToken token).mapSpans f = ofToken (token.mapSpans f) := by
  have sameKind : (token.mapSpans f).kind = token.kind := rfl
  unfold ofToken
  rw [sameKind]
  split <;> rfl

end TagError

/-! ## Results -/

/-- The result of a reading with all its spans changed. -/
def mapResult {α β : Type} (f : Span → Span) (onValue : α → β) :
    Except TagError α → Except TagError β
  | .ok value => .ok (onValue value)
  | .error error => .error (error.mapSpans f)

theorem map_mapResult {α β γ δ : Type} {f : Span → Span} {onPart : α → γ} {makeChanged : γ → δ}
    {onResult : β → δ} {make : α → β} (result : Except TagError α)
    (commutes : ∀ part, makeChanged (onPart part) = onResult (make part)) :
    (mapResult f onPart result).map makeChanged = mapResult f onResult (result.map make) := by
  cases result with
  | error error => rfl
  | ok part => exact congrArg Except.ok (commutes part)

/-! ## Strings and values -/

theorem Escape.invalid_shift (distance start : Nat) (source : List Char) :
    invalid (start + distance) source = (invalid start source).mapSpans (.shift distance) := by
  simp only [invalid, TagError.mapSpans, Span.shift, Nat.add_right_comm]

/-- Decoding further to the right gives the same, with the spans moved. -/
theorem Escape.decodeFrom_shift (distance start : Nat) (text : List Char) :
    decodeFrom (start + distance) text =
      mapResult (.shift distance) id (decodeFrom start text) := by
  -- on the text: both readings meet the same escapes, the second one further to the right
  fun_induction decodeFrom start text with
  | case1 start =>
      rw [decodeFrom]
      rfl
  | case2 start c rest notBackslash inductionHypothesis =>
      rw [decodeFrom.eq_def]
      simp only [if_pos notBackslash]
      rw [Nat.add_right_comm, inductionHypothesis]
      exact map_mapResult _ fun _ => rfl
  | case3 start c isBackslash =>
      rw [decodeFrom.eq_def]
      simp only [if_neg isBackslash, invalid_shift]
      rfl
  | case4 start c isBackslash letter rest letterEnd meaning known inductionHypothesis =>
      rw [decodeFrom.eq_def]
      simp only [if_neg isBackslash, known]
      rw [Nat.add_right_comm, inductionHypothesis]
      exact map_mapResult _ fun _ => rfl
  | case5 start c isBackslash letter rest unknown notNumeric =>
      rw [decodeFrom.eq_def]
      simp only [if_neg isBackslash, unknown, notNumeric, invalid_shift]
      rfl
  | case6 start c isBackslash letter rest unknown numeric found missing =>
      rw [decodeFrom.eq_def]
      simp only [if_neg isBackslash, unknown, found]
      split
      next => rw [invalid_shift]; rfl
      next same => rw [missing] at same; contradiction
  | case7 start c isBackslash letter rest unknown numeric found digits rest' taken _ noCharacter =>
      rw [decodeFrom.eq_def]
      simp only [if_neg isBackslash, unknown, found]
      split
      next missing => rw [taken] at missing; contradiction
      next same =>
        rw [taken] at same
        cases same
        simp only [noCharacter, invalid_shift]
        rfl
  | case8 start c isBackslash letter rest letterEnd unknown numeric found digits rest' taken _
      meaning character inductionHypothesis =>
      rw [decodeFrom.eq_def]
      simp only [if_neg isBackslash, unknown, found]
      split
      next missing => rw [taken] at missing; contradiction
      next same =>
        rw [taken] at same
        cases same
        simp only [character]
        rw [Nat.add_right_comm start, Nat.add_right_comm, inductionHypothesis]
        exact map_mapResult _ fun _ => rfl

theorem Escape.unquote_shift (distance start : Nat) (quoted : List Char) :
    unquote (start + distance) quoted =
      mapResult (.shift distance) id (unquote start quoted) := by
  unfold unquote
  rw [Nat.add_right_comm, decodeFrom_shift]
  exact map_mapResult _ fun _ => rfl

namespace Value

/-- A token further to the right has the same value, with the spans moved. -/
theorem ofToken_shift (distance : Nat) (token : Token) :
    Value.ofToken (token.mapSpans (.shift distance)) =
      mapResult (.shift distance) (Value.mapSpans (.shift distance)) (Value.ofToken token) := by
  have sameKind : (token.mapSpans (.shift distance)).kind = token.kind := rfl
  unfold Value.ofToken
  rw [sameKind]
  split
  next => rw [mapResult, Value.mapSpans]; rfl
  next => rw [mapResult, Value.mapSpans]; rfl
  next => rw [mapResult, Value.mapSpans]; rfl
  next =>
    have sameText : (token.mapSpans (.shift distance)).text = token.text := rfl
    rw [sameText]
    cases Readings.ofText token.text.toList with
    | error fault => rfl
    | ok readings =>
        rw [mapResult, Value.mapSpans]
        rfl
  next =>
    show (Escape.unquote (token.span.start + distance) token.text.toList).map _ = _
    rw [Escape.unquote_shift]
    apply map_mapResult
    intro text
    rw [Value.mapSpans]
    rfl
  next => exact congrArg Except.error (TagError.mapSpans_ofToken _ token).symm

theorem ofElements_shift (distance : Nat) (first : Value) (others : List Value) :
    Value.ofElements (first.mapSpans (.shift distance))
        (others.map (·.mapSpans (.shift distance))) =
      (Value.ofElements first others).mapSpans (.shift distance) := by
  unfold Value.ofElements
  rw [List.getLast?_map]
  cases others.getLast? with
  | none => rfl
  | some last =>
      simp only [Option.map_some]
      rw [Value.mapSpans, mapElementSpans_eq_map, span_mapSpans, span_mapSpans, Span.cover_shift]
      rfl

end Value

namespace Argument

theorem ofValue_shift (distance : Nat) (name : Option Identifier) (value : Value) :
    Argument.ofValue (name.map (·.mapSpans (.shift distance)))
        (value.mapSpans (.shift distance)) =
      (Argument.ofValue name value).mapSpans (.shift distance) := by
  cases name with
  | none =>
      simp only [Argument.ofValue, Argument.mapSpans, Option.map_none, Value.span_mapSpans]
  | some identifier =>
      simp only [Argument.ofValue, Argument.mapSpans, Option.map_some, Value.span_mapSpans,
        Identifier.mapSpans, Span.cover_shift]

theorem ofSwitch_shift (distance : Nat) (mark : Token) (name : Identifier) :
    Argument.ofSwitch (mark.mapSpans (.shift distance)) (name.mapSpans (.shift distance)) =
      (Argument.ofSwitch mark name).mapSpans (.shift distance) := by
  have span : (mark.mapSpans (.shift distance)).span.cover (name.mapSpans (.shift distance)).span =
      (mark.span.cover name.span).shift distance :=
    Span.cover_shift distance mark.span name.span
  simp only [Argument.ofSwitch, Argument.mapSpans, Option.map_some, span]
  rw [Value.mapSpans]
  rfl

end Argument

/-! ## The machine -/

namespace Tree

def Place.mapSpans (f : Span → Span) : Place → Place
  | start => start
  | argument => argument
  | switchName mark => switchName (mark.mapSpans f)
  | word identifier => word (identifier.mapSpans f)
  | value name => value (name.mapSpans f)
  | element name first others =>
    element (name.map (·.mapSpans f)) (first.mapSpans f) (others.map (·.mapSpans f))
  | afterValue name first others =>
    afterValue (name.map (·.mapSpans f)) (first.mapSpans f) (others.map (·.mapSpans f))
  | afterSwitch switched => afterSwitch (switched.mapSpans f)

def Move.mapSpans (f : Span → Span) : Move → Move
  | goOn place => goOn (place.mapSpans f)
  | separate argument => separate (argument.mapSpans f)
  | finish last => finish (last.map (·.mapSpans f))

section

variable (distance : Nat)

/-- An argument further to the right starts alike. -/
theorem acceptArgument_shift (token : Token) :
    acceptArgument (token.mapSpans (.shift distance)) =
      mapResult (.shift distance) (Move.mapSpans (.shift distance)) (acceptArgument token) := by
  have sameKind : (token.mapSpans (.shift distance)).kind = token.kind := rfl
  unfold acceptArgument
  rw [sameKind]
  split
  next => rfl
  next => rfl
  next => rfl
  next =>
    rw [Value.ofToken_shift]
    exact map_mapResult _ fun _ => rfl

theorem acceptEnd_shift (argument : Argument) (token : Token) :
    acceptEnd (argument.mapSpans (.shift distance)) (token.mapSpans (.shift distance)) =
      mapResult (.shift distance) (Move.mapSpans (.shift distance)) (acceptEnd argument token) := by
  have sameKind : (token.mapSpans (.shift distance)).kind = token.kind := rfl
  unfold acceptEnd
  rw [sameKind]
  split
  next => rfl
  next => rfl
  next => exact congrArg Except.error (TagError.mapSpans_ofToken _ token).symm

theorem acceptAfterValue_shift (name : Option Identifier) (first : Value) (others : List Value)
    (token : Token) :
    acceptAfterValue (name.map (·.mapSpans (.shift distance))) (first.mapSpans (.shift distance))
        (others.map (·.mapSpans (.shift distance))) (token.mapSpans (.shift distance)) =
      mapResult (.shift distance) (Move.mapSpans (.shift distance))
        (acceptAfterValue name first others token) := by
  have sameKind : (token.mapSpans (.shift distance)).kind = token.kind := rfl
  unfold acceptAfterValue
  rw [sameKind]
  split
  next => rfl
  next => rw [Value.ofElements_shift, Argument.ofValue_shift, acceptEnd_shift]

/-- One step shifts what it makes and what it reports. -/
theorem accept_shift (place : Place) (token : Token) :
    accept (place.mapSpans (.shift distance)) (token.mapSpans (.shift distance)) =
      mapResult (.shift distance) (Move.mapSpans (.shift distance)) (accept place token) := by
  have sameKind : (token.mapSpans (.shift distance)).kind = token.kind := rfl
  cases place with
  | start =>
      simp only [Place.mapSpans, accept, sameKind]
      split
      next => rfl
      next => exact acceptArgument_shift distance token
  | argument => exact acceptArgument_shift distance token
  | switchName mark =>
      simp only [Place.mapSpans, accept, sameKind]
      split
      next =>
        have switched := Argument.ofSwitch_shift distance mark ⟨token.text, token.span⟩
        exact congrArg (fun argument => Except.ok (Move.goOn (Place.afterSwitch argument))) switched
      next => exact congrArg Except.error (TagError.mapSpans_ofToken _ token).symm
  | word identifier =>
      simp only [Place.mapSpans, accept, sameKind]
      split
      next => rfl
      next =>
        rw [← acceptAfterValue_shift, Value.mapSpans]
        rfl
  | value name =>
      simp only [Place.mapSpans, accept]
      rw [Value.ofToken_shift]
      exact map_mapResult _ fun _ => rfl
  | element name first others =>
      simp only [Place.mapSpans, accept]
      rw [Value.ofToken_shift]
      apply map_mapResult
      intro value
      simp only [Move.mapSpans, Place.mapSpans, List.map_append, List.map_singleton]
  | afterValue name first others => exact acceptAfterValue_shift distance name first others token
  | afterSwitch argument => exact acceptEnd_shift distance argument token

/-- A run over tokens that stand further to the right gives what it gives, further to the right. -/
theorem buildFrom_shift (place : Place) (tokens : List Token) :
    buildFrom (place.mapSpans (.shift distance)) (tokens.map (·.mapSpans (.shift distance))) =
      mapResult (.shift distance) (List.map (·.mapSpans (.shift distance)))
        (buildFrom place tokens) := by
  induction tokens generalizing place with
  | nil => rfl
  | cons token rest inductionHypothesis =>
      rw [List.map_cons, buildFrom, accept_shift, buildFrom]
      cases accept place token with
      | error error => rfl
      | ok move =>
          cases move with
          | goOn next => exact inductionHypothesis next
          | separate argument =>
              have tail := inductionHypothesis .argument
              simp only [Place.mapSpans] at tail
              simp only [mapResult, Move.mapSpans]
              rw [tail]
              exact map_mapResult _ fun _ => rfl
          | finish last => cases last <;> rfl

end

end Tree

/-! ## The scan -/

namespace Token

theorem ofText_shift (distance : Nat) (kind : TokenKind) (start : Nat) (text : List Char) :
    ofText kind (start + distance) text = (ofText kind start text).mapSpans (.shift distance) := by
  simp only [ofText, mapSpans, Span.shift, Nat.add_right_comm]

theorem atEnd_shift (distance : Nat) (expect : Expect) (position : Nat) :
    atEnd expect (position + distance) = (atEnd expect position).mapSpans (.shift distance) := by
  cases expect with
  | value => rfl
  | argument | name | separator => exact ofText_shift distance .eof position []

/-- A scan further to the right gives the same tokens, moved. -/
theorem scanFrom_shift (distance : Nat) (expect : Expect) (start : Nat) (text : List Char) :
    scanFrom expect (start + distance) text =
      (scanFrom expect start text).map (·.mapSpans (.shift distance)) := by
  fun_induction scanFrom expect start text with
  | case1 expect start =>
      rw [scanFrom, atEnd_shift]
      rfl
  | case2 expect start first rest kind tail next stepped token _ inductionHypothesis =>
      have moved : ofText kind (start + distance) (first :: tail.taken) =
          token.mapSpans (.shift distance) :=
        ofText_shift distance kind start (first :: tail.taken)
      rw [scanFrom]
      simp only [stepped]
      rw [moved, List.map_cons, ← inductionHypothesis]
      rfl
  | case3 expect start first rest before character stepped position =>
      rw [scanFrom]
      simp only [stepped, ofFault, List.map_cons, List.map_nil, mapSpans, Span.shift, position,
        Nat.add_right_comm]
  | case4 expect start first rest stepped =>
      rw [scanFrom]
      simp only [stepped, ofFault, List.map_cons, List.map_nil, mapSpans, Span.shift,
        Nat.add_right_comm]

end Token

end RecordTags
