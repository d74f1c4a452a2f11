import RecordTags.Proofs.Tree.Machine

/-!
Contract: the trees that are trees of tags.

Owns:
- `Tree.WellFormed`: every argument is a switch under its own name, or a value
  with an optional name; every value is simple or a slice of at least two
  simple values; names, numbers and strings hold what their spelling says;
- the invariant of the machine that builds trees, step by step and over runs:
  whatever text is read, the tree is well-formed.

Spans play no part: a well-formed tree stays one wherever its parts are said to
stand.
-/

namespace RecordTags

open RecordTags.Text

/-! ## Well-formed parts -/

def Identifier.IsValid (identifier : Identifier) : Prop := IsName identifier.name.toList

/-- The readings are those of the text. -/
def NumberLiteral.IsValid (literal : NumberLiteral) : Prop :=
  StartsNumber literal.text.toList ∧
    Readings.ofText literal.text.toList = .ok literal.toReadings

/-- The text is the content of one complete quoted literal. -/
def QuotedString.IsValid (literal : QuotedString) : Prop :=
  IsQuoted literal.quoted.toList ∧ Escape.unquote 0 literal.quoted.toList = .ok literal.text

/-- A value that one token denotes. -/
def Value.IsSimple : Value → Prop
  | nil _ | bool _ _ => True
  | number literal => literal.IsValid
  | string literal => literal.IsValid
  | identifier name => name.IsValid
  | slice _ _ | switch _ _ _ => False

/-- A simple value, or a slice of at least two. -/
def Value.IsPlain : Value → Prop
  | slice values _ => 2 ≤ values.length ∧ ∀ value ∈ values, value.IsSimple
  | value => value.IsSimple

/-- A switch under its own name, or a value with an optional name. -/
def Argument.WellFormed (argument : Argument) : Prop :=
  match argument.value with
  | .switch name _ _ => name.IsValid ∧ argument.key? = some name.name
  | value => value.IsPlain ∧ ∀ name ∈ argument.name, name.IsValid

/-- Every argument is well-formed. -/
def Tree.WellFormed (tree : Tree) : Prop := ∀ argument ∈ tree.args, argument.WellFormed

/-! ## Strings -/

/-- Whether an escape has a meaning, and which, does not depend on where it stands. -/
theorem Escape.decodeFrom_eq_ok_of_start {start : Nat} {text content : List Char}
    (decoded : decodeFrom start text = .ok content) (other : Nat) :
    decodeFrom other text = .ok content := by
  fun_induction decodeFrom start text generalizing other content with
  | case1 start => rw [decodeFrom]; exact decoded
  | case2 start c rest notBackslash inductionHypothesis =>
      obtain ⟨inner, innerDecoded, rfl⟩ := exists_of_map_eq_ok decoded
      rw [decodeFrom.eq_def]
      simp only [if_pos notBackslash]
      rw [inductionHypothesis innerDecoded]
      rfl
  | case3 => contradiction
  | case4 start c isBackslash letter rest letterEnd meaning known =>
      rename_i inductionHypothesis
      obtain ⟨inner, innerDecoded, rfl⟩ := exists_of_map_eq_ok decoded
      rw [decodeFrom.eq_def]
      simp only [if_neg isBackslash, known]
      rw [inductionHypothesis innerDecoded]
      rfl
  | case5 => contradiction
  | case6 => contradiction
  | case7 => contradiction
  | case8 start c isBackslash letter rest letterEnd unknown numeric found digits rest' taken _
      meaning character =>
      rename_i inductionHypothesis
      obtain ⟨inner, innerDecoded, rfl⟩ := exists_of_map_eq_ok decoded
      rw [decodeFrom.eq_def]
      simp only [if_neg isBackslash, unknown, found]
      split
      next missing => rw [taken] at missing; contradiction
      next same =>
        rw [taken] at same
        cases same
        simp only [character]
        rw [inductionHypothesis innerDecoded]
        rfl

theorem Escape.unquote_eq_ok_of_start {start : Nat} {quoted : List Char} {content : String}
    (decoded : unquote start quoted = .ok content) (other : Nat) :
    unquote other quoted = .ok content := by
  obtain ⟨inner, innerDecoded, rfl⟩ := exists_of_map_eq_ok decoded
  rw [unquote, decodeFrom_eq_ok_of_start innerDecoded]
  rfl

/-! ## Tokens -/

/-- The value of a token is simple and spelled like the token. -/
theorem Value.isSimple_of_ofToken {token : Token} {value : Value} (spelled : token.Spelled)
    (read : Value.ofToken token = .ok value) :
    value.IsSimple ∧ value.chars = token.text.toList := by
  unfold Token.Spelled at spelled
  unfold Value.ofToken at read
  split at read
  next kind =>
    rw [kind] at spelled
    cases read
    exact ⟨trivial, by rw [Value.chars]; exact spelled.symm⟩
  next kind =>
    rw [kind] at spelled
    cases read
    refine ⟨trivial, ?_⟩
    rcases spelled with isTrue | isFalse
    · have text : token.text = "true" := String.toList_inj.1 isTrue
      simp [Value.chars, text]
    · have text : token.text = "false" := String.toList_inj.1 isFalse
      simp [Value.chars, text]
  next kind =>
    rw [kind] at spelled
    cases read
    exact ⟨spelled, by rw [Value.chars]⟩
  next kind =>
    rw [kind] at spelled
    split at read
    next readings classified =>
      cases read
      exact ⟨⟨spelled, classified⟩, by rw [Value.chars]⟩
    next => contradiction
  next kind =>
    rw [kind] at spelled
    obtain ⟨text, decoded, rfl⟩ := exists_of_map_eq_ok read
    exact ⟨⟨spelled, Escape.unquote_eq_ok_of_start decoded 0⟩, by rw [Value.chars]⟩
  next => contradiction

theorem Identifier.isValid_of_token {token : Token} (spelled : token.Spelled)
    (kind : token.kind = .identifier) : (Identifier.mk token.text token.span).IsValid := by
  unfold Token.Spelled at spelled
  rw [kind] at spelled
  exact spelled

/-! ## Arguments -/

theorem Value.isPlain_of_isSimple {value : Value} (simple : value.IsSimple) : value.IsPlain := by
  cases value with
  | slice => exact simple.elim
  | _ => exact simple

/-- Simple values, one or several, make a plain value. -/
theorem Value.isPlain_ofElements {first : Value} {others : List Value}
    (simple : ∀ value ∈ first :: others, value.IsSimple) :
    (Value.ofElements first others).IsPlain := by
  unfold Value.ofElements
  split
  next => exact isPlain_of_isSimple (simple first List.mem_cons_self)
  next last isLast =>
    refine ⟨?_, simple⟩
    have nonempty : others ≠ [] := fun isEmpty => by simp [isEmpty] at isLast
    rw [List.length_cons]
    exact Nat.succ_le_succ (List.length_pos_iff.2 nonempty)

theorem Argument.wellFormed_of_isPlain {argument : Argument} (plain : argument.value.IsPlain)
    (named : ∀ name ∈ argument.name, name.IsValid) : argument.WellFormed := by
  unfold Argument.WellFormed
  split
  next switched => rw [switched] at plain; exact plain.elim
  next => exact ⟨plain, named⟩

theorem Argument.wellFormed_ofValue {name : Option Identifier} {value : Value}
    (plain : value.IsPlain) (named : ∀ identifier ∈ name, identifier.IsValid) :
    (Argument.ofValue name value).WellFormed := by
  cases name with
  | none => exact wellFormed_of_isPlain plain named
  | some name => exact wellFormed_of_isPlain plain named

theorem Argument.wellFormed_ofSwitch {mark : Token} {name : Identifier} (valid : name.IsValid) :
    (Argument.ofSwitch mark name).WellFormed :=
  ⟨valid, rfl⟩

/-! ## The machine -/

namespace Tree

/-- What has been read of the current argument can become a well-formed one. -/
def Place.WellFormed : Place → Prop
  | start | argument => True
  | switchName mark => mark.Spelled ∧ (mark.kind = .enable ∨ mark.kind = .disable)
  | word identifier => identifier.IsValid
  | value name => name.IsValid
  | element name first others | afterValue name first others =>
    (∀ identifier ∈ name, identifier.IsValid) ∧ ∀ value ∈ first :: others, value.IsSimple
  | afterSwitch switched => switched.WellFormed

theorem Place.wellFormed_start : start.WellFormed := trivial

theorem Place.wellFormed_argument : argument.WellFormed := trivial

def Move.WellFormed : Move → Prop
  | goOn place => place.WellFormed
  | separate argument => argument.WellFormed
  | finish last => ∀ argument ∈ last, argument.WellFormed

theorem Place.Holds.wellFormed {place : Place} {name : Option Identifier} {first : Value}
    {others : List Value} (holds : place.Holds name first others) (valid : place.WellFormed) :
    (∀ identifier ∈ name, identifier.IsValid) ∧ ∀ value ∈ first :: others, value.IsSimple := by
  cases holds with
  | word identifier => exact ⟨by simp, List.forall_mem_singleton.2 valid⟩
  | afterValue => exact valid

theorem Place.Completes.wellFormed {place : Place} {argument : Argument}
    (completes : place.Completes argument) (valid : place.WellFormed) : argument.WellFormed := by
  cases completes with
  | value holds =>
      obtain ⟨named, simple⟩ := holds.wellFormed valid
      exact Argument.wellFormed_ofValue (Value.isPlain_ofElements simple) named
  | afterSwitch => exact valid

/-- One step keeps the invariant. -/
theorem Accepts.wellFormed {place : Place} {token : Token} {move : Move}
    (accepts : Accepts place token move) (spelled : token.Spelled) (valid : place.WellFormed) :
    move.WellFormed := by
  cases accepts with
  | empty => simp [Move.WellFormed]
  | mark opens kind => exact ⟨spelled, kind⟩
  | word opens kind => exact Identifier.isValid_of_token spelled kind
  | literal opens notWord read =>
      exact ⟨by simp, by simpa using (Value.isSimple_of_ofToken spelled read).1⟩
  | switchName kind =>
      exact Argument.wellFormed_ofSwitch (Identifier.isValid_of_token spelled kind)
  | name kind => exact valid
  | value read =>
      refine ⟨?_, by simpa using (Value.isSimple_of_ofToken spelled read).1⟩
      intro identifier member
      cases member
      exact valid
  | element read =>
      refine ⟨valid.1, fun value member => ?_⟩
      rw [← List.cons_append] at member
      rcases List.mem_append.1 member with old | new
      · exact valid.2 value old
      · rw [List.mem_singleton.1 new]
        exact (Value.isSimple_of_ofToken spelled read).1
  | more holds kind => exact holds.wellFormed valid
  | next completes kind => exact completes.wellFormed valid
  | last completes kind =>
      intro argument member
      cases member
      exact completes.wellFormed valid

/-- A whole run from a place that keeps the invariant gives well-formed arguments. -/
theorem Builds.wellFormed {place : Place} {tokens : List Token} {args : List Argument}
    (builds : Builds place tokens args) (valid : place.WellFormed) :
    ∀ argument ∈ args, argument.WellFormed := by
  induction builds with
  | goOn spelled accepts _ inductionHypothesis =>
      exact inductionHypothesis (accepts.wellFormed spelled valid)
  | separate spelled accepts _ inductionHypothesis =>
      exact List.forall_mem_cons.2 ⟨accepts.wellFormed spelled valid,
        inductionHypothesis Place.wellFormed_argument⟩
  | finish spelled accepts =>
      intro argument member
      exact accepts.wellFormed spelled valid argument (Option.mem_toList.1 member)

/-- The run that reads a text. -/
theorem builds_of_parse {text : String} {tree : Tree} (parsed : parse text = .ok tree) :
    Builds .start (Token.scan text) tree.args := by
  obtain ⟨args, built, rfl⟩ := exists_of_map_eq_ok parsed
  exact builds_of_buildFrom (Token.scan_sequence text) built

/-- Whatever text is read, its tree is well-formed. -/
theorem wellFormed_of_parse {text : String} {tree : Tree} (parsed : parse text = .ok tree) :
    tree.WellFormed :=
  (builds_of_parse parsed).wellFormed Place.wellFormed_start

end Tree

end RecordTags
