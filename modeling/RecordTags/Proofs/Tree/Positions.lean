import RecordTags.Proofs.Token.Tiling
import RecordTags.Proofs.Tree.Node

/-!
Contract: the spans of a parsed tree are exact.

Owns:
- what has been read of an argument stands where its tokens stand, at every
  place in the grammar, and the invariance of this under every transition;
- over a whole run, arguments in sequence: the first at the start of the text,
  each behind one comma;
- from it, for every node of the tree of a tag: its span is a non-empty range
  of the tag, holds the text of the node, and lies in the span of its parent.
-/

namespace RecordTags

open RecordTags.Text

/-! ## Spans that cover others -/

theorem Span.cover_ofText (start : Nat) (left middle right : List Char) :
    (ofText start left).cover (ofText (start + byteLength (left ++ middle)) right) =
      ofText start (left ++ middle ++ right) := by
  simp only [cover, ofText, byteLength_append, mk.injEq]
  omega

/-- A simple value has the span of its token. -/
theorem Value.span_of_ofToken {token : Token} {value : Value}
    (read : Value.ofToken token = .ok value) : value.span = token.span := by
  unfold Value.ofToken at read
  split at read
  next => cases read; rfl
  next => cases read; rfl
  next => cases read; rfl
  next =>
    split at read
    next => cases read; rfl
    next => contradiction
  next =>
    obtain ⟨text, -, rfl⟩ := exists_of_map_eq_ok read
    rfl
  next => contradiction

theorem Value.simpleAt_of_ofToken {start : Nat} {token : Token} {value : Value}
    (spelled : token.Spelled) (placed : token.span = .ofText start token.text.toList)
    (read : Value.ofToken token = .ok value) : value.SimpleAt start := by
  obtain ⟨simple, chars⟩ := Value.isSimple_of_ofToken spelled read
  exact ⟨simple, by rw [Value.span_of_ofToken read, placed, chars]⟩

/-! ## Arguments -/

theorem exists_elementsText_eq (first : Value) (others : List Value) :
    ∃ rest, elementsText first others = first.chars ++ rest := by
  cases others with
  | nil => exact ⟨[], (List.append_nil _).symm⟩
  | cons second others =>
      rw [elementsText, List.map_cons, joinWith_cons _ _ (by simp)]
      exact ⟨_, rfl⟩

/-- One element or a slice stands where the first element stands. -/
theorem Value.standsAt_ofElements {start : Nat} {first : Value} {others : List Value}
    (elements : ElementsAt start (first :: others)) :
    (Value.ofElements first others).StandsAt start := by
  unfold Value.ofElements
  split
  next => exact .simple elements.1
  next last isLast =>
    -- the span reaches from the first element to the last, over whatever is between them
    obtain ⟨middle, rfl⟩ := List.getLast?_eq_some_iff.1 isLast
    have atLast := ((inSequence_concat (List.cons_ne_nil first middle) start last).1 elements).2
    obtain ⟨between, front⟩ := exists_elementsText_eq first middle
    have whole : elementsText first (middle ++ [last]) =
        first.chars ++ (between ++ [listSeparator]) ++ last.chars := by
      rw [elementsText_concat, front]
      simp
    have placed : last.span =
        .ofText (start + byteLength (first.chars ++ (between ++ [listSeparator]))) last.chars := by
      rw [atLast.2, ← List.append_assoc, ← front]
      rfl
    have span : first.span.cover last.span =
        .ofText start (elementsText first (middle ++ [last])) := by
      rw [elements.1.2, placed, whole]
      exact Span.cover_ofText start first.chars (between ++ [listSeparator]) last.chars
    rw [span]
    exact .slice elements

/-- An argument stands where its name stands, or its value if it has none. -/
theorem Argument.standsAt_ofValue {start : Nat} {name : Option Identifier} {value : Value}
    (plain : value.IsPlain) (named : ∀ identifier ∈ name, identifier.StandsAt start)
    (stands : value.StandsAt (start + byteLength (nameText name))) :
    (Argument.ofValue name value).StandsAt start := by
  have span : (Argument.ofValue name value).span =
      .ofText start (nameText name ++ value.chars) := by
    cases name with
    | none => exact stands.span
    | some identifier =>
        show identifier.span.cover value.span = _
        rw [(named identifier rfl).2, stands.span]
        exact Span.cover_ofText start identifier.name.toList ['='] value.chars
  have parts : Argument.ofValue name value =
      ⟨name, value, .ofText start (nameText name ++ value.chars)⟩ := by
    rw [← span]
    cases name <;> rfl
  rw [parts]
  exact .plain plain named stands

/-- A switch stands where its mark stands. -/
theorem Argument.standsAt_ofSwitch {start : Nat} {mark : Token} {name : Identifier}
    (spelled : mark.Spelled) (kind : mark.kind = .enable ∨ mark.kind = .disable)
    (placed : mark.span = .ofText start mark.text.toList)
    (named : name.StandsAt (start + byteLength mark.text.toList)) :
    (Argument.ofSwitch mark name).StandsAt start := by
  have written : mark.text.toList = [switchMark (mark.kind == .enable)] := by
    unfold Token.Spelled at spelled
    rcases kind with kind | kind <;> rw [kind] at spelled ⊢ <;> exact spelled
  rw [written] at placed named
  have span : mark.span.cover name.span =
      .ofText start (switchMark (mark.kind == .enable) :: name.name.toList) := by
    rw [placed, named.2]
    exact Span.cover_ofText start [switchMark (mark.kind == .enable)] [] name.name.toList
  rw [Argument.ofSwitch, span]
  exact .switch (.switch _ named)

/-! ## Places -/

namespace Tree

/-- What has been read of the current argument stands where the argument starts. -/
def Place.StandsAt (position : Nat) : Place → Prop
  | start | argument => True
  | switchName mark => mark.span = .ofText position mark.text.toList
  | word identifier | value identifier => identifier.StandsAt position
  | element name first others | afterValue name first others =>
    (∀ identifier ∈ name, identifier.StandsAt position) ∧
      Value.ElementsAt (position + byteLength (nameText name)) (first :: others)
  | afterSwitch switched => switched.StandsAt position

def Move.StandsAt (position : Nat) : Move → Prop
  | goOn place => place.StandsAt position
  | separate argument => argument.StandsAt position
  | finish last => ∀ argument ∈ last, argument.StandsAt position

theorem Place.Holds.standsAt {position : Nat} {place : Place} {name : Option Identifier}
    {first : Value} {others : List Value} (holds : place.Holds name first others)
    (stands : place.StandsAt position) :
    (∀ identifier ∈ name, identifier.StandsAt position) ∧
      Value.ElementsAt (position + byteLength (nameText name)) (first :: others) := by
  cases holds with
  | word identifier =>
      refine ⟨by simp, ⟨stands.1, ?_⟩, trivial⟩
      rw [Value.chars]
      exact stands.2
  | afterValue => exact stands

theorem Place.Completes.standsAt {position : Nat} {place : Place} {argument : Argument}
    (completes : place.Completes argument) (valid : place.WellFormed)
    (stands : place.StandsAt position) : argument.StandsAt position := by
  cases completes with
  | value holds =>
      obtain ⟨named, elements⟩ := holds.standsAt stands
      have plain := Value.isPlain_ofElements (holds.wellFormed valid).2
      exact Argument.standsAt_ofValue plain named (Value.standsAt_ofElements elements)
  | afterSwitch => exact stands

/-- One step keeps everything where it stands, if its token stands behind what has been read. -/
theorem Accepts.standsAt {position : Nat} {place : Place} {token : Token} {move : Move}
    (accepts : Accepts place token move) (spelled : token.Spelled) (valid : place.WellFormed)
    (stands : place.StandsAt position)
    (placed : token.span = .ofText (position + byteLength place.text) token.text.toList) :
    move.StandsAt position := by
  cases accepts with
  | empty => simp [Move.StandsAt]
  | mark opens kind =>
      rw [opens.text] at placed
      exact placed
  | word opens kind =>
      rw [opens.text] at placed
      exact ⟨Identifier.isValid_of_token spelled kind, placed⟩
  | literal opens notWord read =>
      rw [opens.text] at placed
      exact ⟨by simp, Value.simpleAt_of_ofToken spelled placed read, trivial⟩
  | switchName kind =>
      have named := Identifier.isValid_of_token spelled kind
      exact Argument.standsAt_ofSwitch valid.1 valid.2 stands ⟨named, placed⟩
  | name kind => exact stands
  | value read =>
      refine ⟨?_, Value.simpleAt_of_ofToken spelled placed read, trivial⟩
      intro identifier isNamed
      cases isNamed
      exact stands
  | @element name first value others token read =>
      refine ⟨stands.1, ?_⟩
      rw [← List.cons_append]
      refine (inSequence_concat (List.cons_ne_nil first others) _ value).2 ⟨stands.2, ?_⟩
      apply Value.simpleAt_of_ofToken spelled _ read
      rw [placed, Place.text, List.append_assoc, byteLength_append (nameText name),
        ← Nat.add_assoc]
      rfl
  | more holds kind => exact holds.standsAt stands
  | next completes kind => exact completes.standsAt valid stands
  | last completes kind =>
      intro argument isLast
      cases isLast
      exact completes.standsAt valid stands

/-! ## Runs -/

/-- A run over tokens that tile a text gives arguments in sequence. -/
theorem Builds.inSequence {position : Nat} {place : Place} {tokens : List Token}
    {args : List Argument} (builds : Builds place tokens args) (valid : place.WellFormed)
    (stands : place.StandsAt position)
    (tiled : Token.Tiled (position + byteLength place.text) tokens) :
    InSequence argumentSeparator Argument.chars Argument.StandsAt position args := by
  induction builds generalizing position with
  | goOn spelled accepts _ inductionHypothesis =>
      obtain ⟨placed, tail⟩ := tiled
      apply inductionHypothesis (accepts.wellFormed spelled valid)
        (accepts.standsAt spelled valid stands placed)
      rw [Nat.add_assoc, ← byteLength_append, ← accepts.text spelled valid] at tail
      exact tail
  | separate spelled accepts _ inductionHypothesis =>
      obtain ⟨placed, tail⟩ := tiled
      refine ⟨accepts.standsAt spelled valid stands placed, ?_⟩
      apply inductionHypothesis Place.wellFormed_argument trivial
      rw [Nat.add_assoc, ← byteLength_append, ← accepts.text spelled valid] at tail
      exact tail
  | @finish place token last spelled accepts =>
      have standsLast := accepts.standsAt spelled valid stands tiled.1
      cases last with
      | none => exact trivial
      | some argument => exact ⟨standsLast argument rfl, trivial⟩

/-- The tokens of a scan without fault are tiled from the start. -/
theorem tiled_scan {text : String}
    (noFault : ∀ token ∈ Token.scan text, ∀ fault, token.kind ≠ .error fault) :
    Token.Tiled 0 (Token.scan text) := by
  obtain ⟨tokens, rest, terminal, scanned, cuts⟩ := Token.scan_cuts text
  rw [scanned] at noFault ⊢
  have notFault := noFault terminal (by simp)
  refine Token.tiled_append.2 ⟨cuts.tiled, ?_, trivial⟩
  have stops := cuts.stops
  cases stops with
  | complete => rfl
  | missingValue | badCharacter | unterminated => exact absurd rfl (notFault _)

theorem inSequence_of_parse {text : String} {tree : Tree} (parsed : parse text = .ok tree) :
    InSequence argumentSeparator Argument.chars Argument.StandsAt 0 tree.args := by
  have builds := builds_of_parse parsed
  exact builds.inSequence Place.wellFormed_start trivial (tiled_scan builds.not_fault)

/-- Every node of the tree of a tag stands where its text stands in the tag. -/
theorem locatedIn_of_parse {text : String} {tree : Tree} (parsed : parse text = .ok tree)
    {node : Node} (hasNode : tree.HasNode node) : node.LocatedIn text.toList := by
  refine hasNode.locatedIn fun argument member => ?_
  obtain ⟨before, after, joined, stands⟩ := (inSequence_of_parse parsed).exists_of_mem member
  rw [Nat.zero_add] at stands
  refine ⟨before, after, ?_, stands⟩
  rw [← chars_of_parse parsed]
  exact joined

/-! ## Arguments behind one another -/

theorem start_le_of_inSequence {position : Nat} {args : List Argument}
    (sequence : InSequence argumentSeparator Argument.chars Argument.StandsAt position args) :
    ∀ argument ∈ args, position ≤ argument.span.start := by
  intro argument member
  obtain ⟨before, after, -, stands⟩ := sequence.exists_of_mem member
  rw [stands.span]
  exact Nat.le_add_right position _

/-- The spans of arguments in sequence do not touch. -/
theorem pairwise_of_inSequence {position : Nat} {args : List Argument}
    (sequence : InSequence argumentSeparator Argument.chars Argument.StandsAt position args) :
    args.Pairwise fun left right => left.span.stop < right.span.start := by
  induction args generalizing position with
  | nil => exact .nil
  | cons first rest inductionHypothesis =>
      refine List.pairwise_cons.2 ⟨fun other member => ?_, inductionHypothesis sequence.2⟩
      have behind := start_le_of_inSequence sequence.2 other member
      have separatorLength : byteLength [argumentSeparator] = 1 := rfl
      rw [byteLength_append, separatorLength] at behind
      rw [sequence.1.span]
      show position + byteLength first.chars < _
      omega

/-- Between an argument and the next there is one comma. -/
theorem isChain_of_inSequence {front : List Char} {args : List Argument}
    (sequence : InSequence argumentSeparator Argument.chars Argument.StandsAt (byteLength front)
      args) :
    args.IsChain fun left right =>
      (Span.mk left.span.stop right.span.start).source?
        (front ++ joinWith argumentSeparator (args.map Argument.chars)) =
          some [argumentSeparator] := by
  induction args generalizing front with
  | nil => exact .nil
  | cons first rest inductionHypothesis =>
      cases rest with
      | nil => exact .singleton first
      | cons second rest =>
          obtain ⟨stands, tail⟩ := sequence
          rw [← byteLength_append] at tail
          have text : front ++ joinWith argumentSeparator ((first :: second :: rest).map
              Argument.chars) = front ++ (first.chars ++ [argumentSeparator]) ++
              joinWith argumentSeparator ((second :: rest).map Argument.chars) := by
            rw [List.map_cons, joinWith_cons _ _ (by simp)]
            simp
          rw [text]
          refine List.isChain_cons_cons.2 ⟨?_, inductionHypothesis tail⟩
          have between : Span.mk first.span.stop second.span.start =
              .ofText (byteLength (front ++ first.chars)) [argumentSeparator] := by
            rw [stands.span, tail.1.span]
            simp [Span.ofText, Nat.add_assoc]
          rw [between, ← List.append_assoc front]
          exact Span.source?_ofText (front ++ first.chars) [argumentSeparator] _

/-! ## Tags -/

/-- Every span of a tree is where its part stands in a text. -/
structure SpansExact (text : List Char) (tree : Tree) : Prop where
  whole : tree.span = ⟨0, byteLength text⟩
  nonempty : ∀ node, tree.HasNode node → node.span.start < node.span.stop
  within : ∀ node, tree.HasNode node → node.span.Within text
  source : ∀ node, tree.HasNode node → node.span.source? text = some node.render.toList
  nested : ∀ node, tree.HasNode node → ∀ child ∈ node.children,
    node.span.start ≤ child.span.start ∧ child.span.stop ≤ node.span.stop
  ordered : tree.args.Pairwise fun left right => left.span.stop < right.span.start
  separated : tree.args.IsChain fun left right =>
    (Span.mk left.span.stop right.span.start).source? text = some [',']

/-- The spans of the tree of a tag are exact. -/
theorem spans_of_parse {text : String} {tree : Tree} (parsed : parse text = .ok tree) :
    tree.SpansExact text.toList where
  whole := by
    obtain ⟨args, -, rfl⟩ := exists_of_map_eq_ok parsed
    rfl
  nonempty := fun node hasNode => (locatedIn_of_parse parsed hasNode).nonempty
  within := fun node hasNode =>
    Span.within_of_source? (locatedIn_of_parse parsed hasNode).source
  source := fun node hasNode => by
    rw [node.toList_render]
    exact (locatedIn_of_parse parsed hasNode).source
  nested := fun node hasNode child => (locatedIn_of_parse parsed hasNode).span_child
  ordered := pairwise_of_inSequence (inSequence_of_parse parsed)
  separated := by
    have fromStart : InSequence argumentSeparator Argument.chars Argument.StandsAt (byteLength [])
        tree.args :=
      inSequence_of_parse parsed
    rw [← chars_of_parse parsed]
    exact isChain_of_inSequence fromStart

theorem spans_of_parse_mixed :
    ∃ tree, parse "ünï='é';-0x1F,!on,nil" = .ok tree ∧
      tree.args.map Argument.span = [⟨0, 16⟩, ⟨17, 20⟩, ⟨21, 24⟩] ∧
      tree.SpansExact "ünï='é';-0x1F,!on,nil".toList := by
  have read : (parse "ünï='é';-0x1F,!on,nil").toOption.map (·.args.map Argument.span) =
      some [⟨0, 16⟩, ⟨17, 20⟩, ⟨21, 24⟩] := by
    decide +kernel
  cases parsed : parse "ünï='é';-0x1F,!on,nil" with
  | error error =>
      rw [parsed] at read
      contradiction
  | ok tree =>
      rw [parsed] at read
      exact ⟨tree, rfl, Option.some.inj read, spans_of_parse parsed⟩

end Tree

end RecordTags
