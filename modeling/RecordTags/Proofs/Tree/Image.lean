import RecordTags.Proofs.Token.Whole
import RecordTags.Proofs.Tree.Lossless
import RecordTags.Proofs.Tree.Spans

/-!
Contract: the trees that reading gives are the well-formed trees.

Owns: the text of a well-formed tree is cut into the tokens that its parts were
written as, and the machine builds the tree from them again. This is shown part
by part, each in front of an arbitrary continuation: a simple value, the
elements of a slice, an argument, all arguments.

Positions differ from those that the tree holds, so all of this is up to spans.
-/

namespace RecordTags

open RecordTags.Text

/-! ## Simple values -/

/-- A simple value as it stands at a byte of a text. -/
def Value.locatedAt (start : Nat) (value : Value) : Value :=
  value.mapSpans fun _ => ⟨start, start + byteLength value.chars⟩

theorem Value.withoutSpans_locatedAt {value : Value} (simple : value.IsSimple) (start : Nat) :
    (value.locatedAt start).withoutSpans = value.withoutSpans := by
  unfold Value.locatedAt Value.withoutSpans
  cases value with
  | slice | switch => exact simple.elim
  | nil | bool | number | string => rw [Value.mapSpans, Value.mapSpans, Value.mapSpans]
  | identifier name =>
      rw [Value.mapSpans, Value.mapSpans, Value.mapSpans]
      rfl

theorem Token.text_ofText (kind : TokenKind) (start : Nat) (text : String) :
    (ofText kind start text.toList).text = text :=
  String.ofList_toList

/-- The class of the token that a simple value is written as. -/
theorem Value.exists_kind_of_isSimple {value : Value} (simple : value.IsSimple)
    {expect : Token.Expect} (looks : expect = .argument ∨ expect = .value) {rest : List Char}
    (separated : Separated rest) :
    ∃ kind, Token.Takes expect kind value.chars rest ∧ kind.expectAfter = .separator ∧
      ∀ start, Value.ofToken (.ofText kind start value.chars) = .ok (value.locatedAt start) := by
  have notSeparator : expect ≠ .separator := by
    rcases looks with rfl | rfl <;> decide
  cases value with
  | nil span =>
      have word : IsWord (Value.nil span).chars :=
        isWord_of_mem_reservedWords ['n', 'i', 'l'] (by decide)
      exact ⟨.nil, Token.takes_word notSeparator word separated, rfl, fun start => rfl⟩
  | bool truth span =>
      have word : IsWord (Value.bool truth span).chars := by
        apply isWord_of_mem_reservedWords
        cases truth <;> simp [Value.chars, reservedWords]
      refine ⟨.bool, ?_, rfl, fun start => ?_⟩
      · have takes := Token.takes_word notSeparator word separated
        cases truth <;> exact takes
      · cases truth <;> rfl
  | number literal =>
      refine ⟨.number, ?_, rfl, fun start => ?_⟩
      · rw [Value.chars]
        exact Token.takes_number looks simple.1 simple.2 separated
      · simp only [Value.chars, Value.ofToken, Token.kind_ofText, Token.text_ofText,
          simple.2]
        rfl
  | string literal =>
      refine ⟨.string, ?_, rfl, fun start => ?_⟩
      · rw [Value.chars]
        exact Token.takes_quoted looks simple.1 rest
      · simp only [Value.chars, Value.ofToken, Token.kind_ofText, Token.text_ofText,
          Escape.unquote_eq_ok_of_start simple.2]
        rfl
  | identifier name =>
      refine ⟨.identifier, ?_, rfl, fun start => ?_⟩
      · rw [Value.chars]
        exact Token.takes_name notSeparator simple separated
      · simp only [Value.chars, Value.ofToken, Token.kind_ofText, Token.text_ofText]
        rfl
  | slice | switch => exact simple.elim

/-! ## Slices -/

theorem Value.withoutSpans_ofElements (first : Value) (others : List Value) :
    (Value.ofElements first others).withoutSpans =
      if (others.map Value.withoutSpans).isEmpty then first.withoutSpans
      else .slice ((first :: others).map Value.withoutSpans) (.empty 0) := by
  unfold Value.ofElements
  split
  next isEmpty =>
    rw [List.getLast?_eq_none_iff.1 isEmpty]
    rfl
  next last isLast =>
    have nonempty : others ≠ [] := fun isEmpty => by simp [isEmpty] at isLast
    rw [Value.withoutSpans_slice, if_neg (by simpa using nonempty)]

/-- A value of an argument is what its elements make. -/
theorem Value.exists_elements_of_isPlain {value : Value} (plain : value.IsPlain) :
    ∃ first others, (∀ element ∈ first :: others, element.IsSimple) ∧
      value.chars = elementsText first others ∧
      (Value.ofElements first others).withoutSpans = value.withoutSpans := by
  cases value with
  | slice values span =>
      obtain ⟨atLeastTwo, simple⟩ := plain
      match values, atLeastTwo with
      | first :: second :: others, _ =>
          refine ⟨first, second :: others, simple, ?_, ?_⟩
          · rw [Value.chars, elementChars_eq_map, elementsText]
          · rw [Value.withoutSpans_ofElements, Value.withoutSpans_slice]
            rfl
  | nil | bool | number | string | identifier | switch =>
      refine ⟨_, [], ?_, rfl, rfl⟩
      intro element member
      rw [List.mem_singleton.1 member]
      exact plain

theorem elementsText_eq_flatMap (first : Value) (others : List Value) :
    elementsText first others = first.chars ++ others.flatMap (listSeparator :: ·.chars) := by
  induction others generalizing first with
  | nil => simp [elementsText, joinWith]
  | cons second others inductionHypothesis =>
      have inner := inductionHypothesis second
      unfold elementsText at inner ⊢
      rw [List.map_cons, joinWith_cons _ _ (by simp), inner]
      rfl

/-! ## Reading behind a place -/

namespace Tree

/-- A value that starts an argument without a name leads behind a value. -/
theorem accepts_of_reads {place : Place} (opens : place.Opens) {token : Token} {value : Value}
    (read : Value.ofToken token = .ok value) :
    ∃ next, Accepts place token (.goOn next) ∧ next.Holds none value [] := by
  by_cases kind : token.kind = .identifier
  · rw [Value.ofToken, kind] at read
    cases read
    exact ⟨_, .word opens kind, .word _⟩
  · exact ⟨_, .literal opens kind read, .afterValue _ _ _⟩

/-- A text that the scanner takes and the machine accepts brings the reading behind it. -/
theorem buildFrom_of_takes {place next : Place} {expect : Token.Expect} {kind : TokenKind}
    {text rest : List Char} {start : Nat} (takes : Token.Takes expect kind text rest)
    (accepts : Accepts place (.ofText kind start text) (.goOn next)) :
    buildFrom place (Token.scanFrom expect start (text ++ rest)) =
      buildFrom next (Token.scanFrom kind.expectAfter (start + byteLength text) rest) := by
  rw [takes start, buildFrom_of_goOn accepts]

theorem separated_flatMap (values : List Value) {rest : List Char} (separated : Separated rest) :
    Separated (values.flatMap (listSeparator :: ·.chars) ++ rest) := by
  cases values with
  | nil => exact separated
  | cons value values => exact separated_cons (by decide) _

/-- The elements behind the first are read one by one. -/
theorem buildFrom_elements {values : List Value} (simple : ∀ value ∈ values, value.IsSimple)
    {rest : List Char} (separated : Separated rest) {place : Place} {name : Option Identifier}
    {first : Value} {others : List Value} (holds : place.Holds name first others) (start : Nat) :
    ∃ next read stop, buildFrom place
        (Token.scanFrom .separator start (values.flatMap (listSeparator :: ·.chars) ++ rest)) =
        buildFrom next (Token.scanFrom .separator stop rest) ∧
      next.Holds name first (others ++ read) ∧
      read.map Value.withoutSpans = values.map Value.withoutSpans := by
  induction values generalizing place others start with
  | nil => exact ⟨place, [], start, rfl, by rwa [List.append_nil], rfl⟩
  | cons value values inductionHypothesis =>
      obtain ⟨simpleValue, simple⟩ := List.forall_mem_cons.1 simple
      have tail := separated_flatMap values separated
      obtain ⟨kind, takes, after, tokenRead⟩ :=
        Value.exists_kind_of_isSimple simpleValue (.inr rfl) tail
      have whole : (value :: values).flatMap (listSeparator :: ·.chars) ++ rest =
          [';'] ++ (value.chars ++ (values.flatMap (listSeparator :: ·.chars) ++ rest)) := by
        simp [listSeparator]
      let position := start + byteLength [';']
      obtain ⟨next, read, stop, built, nextHolds, same⟩ := inductionHypothesis simple
        (.afterValue name first (others ++ [value.locatedAt position]))
        (position + byteLength value.chars)
      refine ⟨next, value.locatedAt position :: read, stop, ?_, ?_, ?_⟩
      · rw [whole, buildFrom_of_takes (Token.takes_listSeparator _) (.more holds rfl),
          ← built, ← after]
        exact buildFrom_of_takes takes (.element (tokenRead position))
      · rw [List.append_assoc, List.singleton_append] at nextHolds
        exact nextHolds
      · rw [List.map_cons, List.map_cons, same, Value.withoutSpans_locatedAt simpleValue]

/-- A value is read wherever a token that reads as one leads behind it. -/
theorem buildFrom_value {place : Place} {name : Option Identifier} {expect : Token.Expect}
    (looks : expect = .argument ∨ expect = .value)
    (accepts : ∀ token value, Value.ofToken token = .ok value →
      ∃ next, Accepts place token (.goOn next) ∧ next.Holds name value [])
    {value : Value} (plain : value.IsPlain) {rest : List Char} (separated : Separated rest)
    (start : Nat) :
    ∃ next read stop, buildFrom place (Token.scanFrom expect start (value.chars ++ rest)) =
        buildFrom next (Token.scanFrom .separator stop rest) ∧
      next.Completes (.ofValue name read) ∧ read.withoutSpans = value.withoutSpans := by
  obtain ⟨first, others, simple, text, elements⟩ := Value.exists_elements_of_isPlain plain
  obtain ⟨simpleFirst, simpleOthers⟩ := List.forall_mem_cons.1 simple
  obtain ⟨kind, takes, after, tokenRead⟩ :=
    Value.exists_kind_of_isSimple simpleFirst looks (separated_flatMap others separated)
  obtain ⟨behind, accepted, holds⟩ := accepts _ _ (tokenRead start)
  obtain ⟨next, read, stop, built, nextHolds, same⟩ :=
    buildFrom_elements simpleOthers separated holds (start + byteLength first.chars)
  refine ⟨next, .ofElements (first.locatedAt start) read, stop, ?_, ?_, ?_⟩
  · rw [text, elementsText_eq_flatMap, List.append_assoc, buildFrom_of_takes takes accepted,
      after, built]
  · exact .value nextHolds
  · rw [← elements, Value.withoutSpans_ofElements, Value.withoutSpans_ofElements, List.map_cons,
      List.map_cons, same, Value.withoutSpans_locatedAt simpleFirst]

/-- A switch is read back from its text. -/
theorem buildFrom_switch {name : Identifier} (valid : name.IsValid) (enabled : Bool)
    {rest : List Char} (separated : Separated rest) {place : Place} (opens : place.Opens)
    (start : Nat) :
    ∃ mark read stop, buildFrom place
        (Token.scanFrom .argument start (switchMark enabled :: name.name.toList ++ rest)) =
        buildFrom (.afterSwitch (.ofSwitch mark read)) (Token.scanFrom .separator stop rest) ∧
      (mark.kind == .enable) = enabled ∧ read.name = name.name := by
  let position := start + byteLength [switchMark enabled]
  let mark : Token :=
    .ofText (if enabled then .enable else .disable) start [switchMark enabled]
  let word : Token := .ofText .identifier position name.name.toList
  have takesMark : Token.Takes .argument (if enabled then .enable else .disable)
      [switchMark enabled] (name.name.toList ++ rest) :=
    Token.takes_mark enabled valid.1
  have takesName : Token.Takes .name .identifier name.name.toList rest :=
    Token.takes_name (by decide) valid separated
  have isMark : mark.kind = .enable ∨ mark.kind = .disable := by
    cases enabled
    · exact .inr rfl
    · exact .inl rfl
  refine ⟨mark, ⟨word.text, word.span⟩, position + byteLength name.name.toList, ?_, ?_, ?_⟩
  · refine (buildFrom_of_takes takesMark (.mark opens isMark)).trans ?_
    have afterMark : TokenKind.expectAfter (if enabled then .enable else .disable) = .name := by
      cases enabled <;> rfl
    rw [afterMark]
    exact buildFrom_of_takes takesName (.switchName rfl)
  · cases enabled <;> rfl
  · exact Token.text_ofText .identifier position name.name

/-- A value is read back from its text behind its name. -/
theorem buildFrom_named {name : Identifier} (valid : name.IsValid) {value : Value}
    (plain : value.IsPlain) {rest : List Char} (separated : Separated rest) {place : Place}
    (opens : place.Opens) (start : Nat) :
    ∃ next located read stop, buildFrom place
        (Token.scanFrom .argument start (nameText (some name) ++ value.chars ++ rest)) =
        buildFrom next (Token.scanFrom .separator stop rest) ∧
      next.Completes (.ofValue (some located) read) ∧ located.name = name.name ∧
      read.withoutSpans = value.withoutSpans := by
  let position := start + byteLength name.name.toList
  let word : Token := .ofText .identifier start name.name.toList
  let located : Identifier := ⟨word.text, word.span⟩
  have takesName : Token.Takes .argument .identifier name.name.toList
      (['='] ++ (value.chars ++ rest)) :=
    Token.takes_name (by decide) valid (separated_cons (by decide) _)
  have toName : Accepts place word (.goOn (.word located)) := .word opens rfl
  have toValue : Accepts (.word located) (.ofText .assign position ['='])
      (.goOn (.value located)) :=
    .name rfl
  obtain ⟨next, read, stop, built, completes, same⟩ :=
    buildFrom_value (.inr rfl)
      (fun token value tokenRead => ⟨_, .value tokenRead, .afterValue _ _ _⟩) plain separated
      (position + byteLength ['='])
  refine ⟨next, located, read, stop, ?_, completes, Token.text_ofText .identifier start _, same⟩
  calc buildFrom place
        (Token.scanFrom .argument start (nameText (some name) ++ value.chars ++ rest))
      = buildFrom place (Token.scanFrom .argument start
          (name.name.toList ++ (['='] ++ (value.chars ++ rest)))) := by
        rw [nameText, List.append_assoc, List.append_assoc]
    _ = buildFrom (.word located)
          (Token.scanFrom .separator position (['='] ++ (value.chars ++ rest))) :=
        buildFrom_of_takes takesName toName
    _ = buildFrom (.value located)
          (Token.scanFrom .value (position + byteLength ['=']) (value.chars ++ rest)) :=
        buildFrom_of_takes (Token.takes_assign _) toValue
    _ = buildFrom next (Token.scanFrom .separator stop rest) := built

/-- The text of a well-formed argument is read as the argument. -/
theorem buildFrom_argument {argument : Argument} (wellFormed : argument.WellFormed)
    {rest : List Char} (separated : Separated rest) {place : Place} (opens : place.Opens)
    (start : Nat) :
    ∃ next read stop, buildFrom place (Token.scanFrom .argument start (argument.chars ++ rest)) =
        buildFrom next (Token.scanFrom .separator stop rest) ∧
      next.Completes read ∧ read.withoutSpans = argument.withoutSpans := by
  unfold Argument.WellFormed at wellFormed
  split at wellFormed
  next name enabled _ switched =>
    obtain ⟨valid, sameKey⟩ := wellFormed
    obtain ⟨identifier, isNamed, sameName⟩ := Option.map_eq_some_iff.1 sameKey
    obtain ⟨mark, read, stop, built, isEnabled, readName⟩ :=
      buildFrom_switch valid enabled separated opens start
    rw [Argument.chars_of_switch switched]
    refine ⟨_, _, stop, built, .afterSwitch _, ?_⟩
    simp only [Argument.withoutSpans, Argument.mapSpans, Argument.ofSwitch, isNamed, switched,
      Value.mapSpans, isEnabled, Option.map_some, Identifier.mapSpans, readName, sameName]
  next =>
    obtain ⟨plain, named⟩ := wellFormed
    rw [Argument.chars_of_isPlain plain]
    cases isNamed : argument.name with
    | none =>
        obtain ⟨next, read, stop, built, completes, same⟩ :=
          buildFrom_value (.inl rfl) (fun token value => accepts_of_reads opens) plain separated
            start
        refine ⟨next, _, stop, built, completes, ?_⟩
        rw [Argument.withoutSpans_ofValue, same, Argument.withoutSpans, Argument.mapSpans, isNamed]
        rfl
    | some name =>
        obtain ⟨next, located, read, stop, built, completes, sameName, same⟩ :=
          buildFrom_named (named name isNamed) plain separated opens start
        refine ⟨next, _, stop, built, completes, ?_⟩
        rw [Argument.withoutSpans_ofValue, same, Argument.withoutSpans, Argument.mapSpans, isNamed,
          Option.map_some, Option.map_some, Identifier.mapSpans_const sameName]
        rfl

/-- The text of well-formed arguments is read as the arguments. -/
theorem buildFrom_arguments {first : Argument} {others : List Argument}
    (wellFormed : ∀ argument ∈ first :: others, argument.WellFormed) {place : Place}
    (opens : place.Opens) (start : Nat) :
    ∃ read, buildFrom place (Token.scanFrom .argument start
        (joinWith argumentSeparator ((first :: others).map Argument.chars))) = .ok read ∧
      read.map Argument.withoutSpans = (first :: others).map Argument.withoutSpans := by
  induction others generalizing first place start with
  | nil =>
      obtain ⟨next, read, stop, built, completes, same⟩ :=
        buildFrom_argument (wellFormed first List.mem_cons_self) separated_nil opens start
      refine ⟨[read], ?_, by rw [List.map_singleton, List.map_singleton, same]⟩
      rw [List.append_nil, Token.scanFrom] at built
      rw [List.map_singleton, joinWith, built]
      exact buildFrom_of_finish (.last completes rfl) []
  | cons second others inductionHypothesis =>
      obtain ⟨wellFormedFirst, wellFormedOthers⟩ := List.forall_mem_cons.1 wellFormed
      let text := joinWith argumentSeparator ((second :: others).map Argument.chars)
      have separated : Separated (argumentSeparator :: text) := separated_cons (by decide) text
      obtain ⟨next, read, stop, built, completes, same⟩ :=
        buildFrom_argument wellFormedFirst separated opens start
      obtain ⟨reads, builtOthers, sameOthers⟩ :=
        inductionHypothesis wellFormedOthers .argument (stop + byteLength [','])
      refine ⟨read :: reads, ?_, by rw [List.map_cons, same, sameOthers, ← List.map_cons]⟩
      calc buildFrom place (Token.scanFrom .argument start
            (joinWith argumentSeparator ((first :: second :: others).map Argument.chars)))
          = buildFrom place (Token.scanFrom .argument start
              (first.chars ++ argumentSeparator :: text)) := by
            rw [List.map_cons, joinWith_cons _ _ (by simp)]
        _ = buildFrom next (Token.scanFrom .separator stop ([','] ++ text)) := built
        _ = buildFrom next (.ofText .argumentSeparator stop [','] ::
              Token.scanFrom .argument (stop + byteLength [',']) text) := by
            rw [Token.takes_argumentSeparator text stop]
            rfl
        _ = .ok (read :: reads) := by
            rw [buildFrom_of_separate (.next completes rfl), builtOthers]
            rfl

/-! ## Trees -/

/-- The text of a well-formed tree is read as the tree, apart from spans. -/
theorem parse_render_of_wellFormed {tree : Tree} (wellFormed : tree.WellFormed) :
    ∃ read, parse tree.render = .ok read ∧ read.withoutSpans = tree.withoutSpans := by
  have built : ∃ read, buildFrom .start (Token.scan tree.render) = .ok read ∧
      read.map Argument.withoutSpans = tree.args.map Argument.withoutSpans := by
    rw [Token.scan, Tree.render, String.toList_ofList, Tree.chars]
    unfold Tree.WellFormed at wellFormed
    cases args : tree.args with
    | nil =>
        refine ⟨[], ?_, rfl⟩
        rw [List.map_nil, joinWith, Token.scanFrom]
        exact buildFrom_of_finish (.empty rfl) []
    | cons first others =>
        rw [args] at wellFormed
        exact buildFrom_arguments wellFormed .start 0
  obtain ⟨read, built, same⟩ := built
  refine ⟨⟨read, ⟨0, byteLength tree.render.toList⟩⟩, ?_, ?_⟩
  · rw [parse, built]
    rfl
  · unfold Argument.withoutSpans at same
    rw [Tree.withoutSpans, Tree.withoutSpans, Tree.mapSpans, Tree.mapSpans, same]

/-- The well-formed trees are those that reading gives, apart from spans. -/
theorem wellFormed_iff_parse_render (tree : Tree) :
    tree.WellFormed ↔
      ∃ read, parse tree.render = .ok read ∧ read.withoutSpans = tree.withoutSpans := by
  refine ⟨parse_render_of_wellFormed, ?_⟩
  rintro ⟨read, parsed, same⟩
  exact (wellFormed_iff_of_withoutSpans same).1 (wellFormed_of_parse parsed)

/-- The image of reading: the well-formed trees, and no others, are read back from their
texts, apart from spans, and every text that can be read has a well-formed tree. -/
theorem image_of_parse :
    (∀ tree : Tree, tree.WellFormed ↔
      ∃ read, parse tree.render = .ok read ∧ read.withoutSpans = tree.withoutSpans) ∧
      ∀ text tree, parse text = .ok tree → tree.WellFormed :=
  ⟨wellFormed_iff_parse_render, fun _ _ => wellFormed_of_parse⟩

/-- A tree that was not read, with spans that say nothing. -/
def handmade : Tree :=
  let nowhere : Span := ⟨9, 2⟩
  { args :=
      [ ⟨some ⟨"on", nowhere⟩, .switch ⟨"on", nowhere⟩ false nowhere, nowhere⟩,
        ⟨some ⟨"key-1", nowhere⟩,
          .slice [.nil nowhere, .bool true nowhere,
            .number { int := some 7, uint := some 7, float := some (.ofInt 7), text := "07",
                      span := nowhere }] nowhere, nowhere⟩,
        ⟨none, .string ⟨"'a\\'b'", "a'b", nowhere⟩, nowhere⟩ ]
    span := nowhere }

theorem wellFormed_handmade : handmade.WellFormed := by
  have switchName : IsName "on".toList := by decide +kernel
  have key : IsName "key-1".toList := by decide +kernel
  have number : StartsNumber "07".toList ∧ Readings.ofText "07".toList =
      .ok { int := some 7, uint := some 7, float := some (.ofInt 7) } := by
    decide +kernel
  have isQuoted : IsQuoted "'a\\'b'".toList :=
    ⟨'\x27', _, rfl, .inr rfl,
      .plain (by decide) (by decide) (.escaped _ (.plain (by decide) (by decide) .close))⟩
  have content : Escape.unquote 0 "'a\\'b'".toList = .ok "a'b" := by
    simp [Escape.unquote, Escape.decodeFrom, Escape.letterMeaning?, Except.map]
  have named : ∀ identifier ∈ some (Identifier.mk "key-1" ⟨9, 2⟩), identifier.IsValid := by
    intro identifier isNamed
    cases isNamed
    exact key
  exact List.forall_mem_cons.2 ⟨⟨switchName, rfl⟩, List.forall_mem_cons.2
    ⟨⟨⟨by decide, List.forall_mem_cons.2 ⟨trivial, List.forall_mem_cons.2
      ⟨trivial, List.forall_mem_singleton.2 number⟩⟩⟩, named⟩, List.forall_mem_singleton.2
      ⟨⟨isQuoted, content⟩, by simp⟩⟩⟩

theorem image_of_parse_handmade :
    handmade.render = "!on,key-1=nil;true;07,'a\\'b'" ∧
      ∃ read, parse "!on,key-1=nil;true;07,'a\\'b'" = .ok read ∧
        read.withoutSpans = handmade.withoutSpans ∧ read.WellFormed := by
  have text : handmade.render = "!on,key-1=nil;true;07,'a\\'b'" := by decide +kernel
  obtain ⟨read, parsed, same⟩ := (image_of_parse.1 handmade).1 wellFormed_handmade
  rw [text] at parsed
  exact ⟨text, read, parsed, same, image_of_parse.2 _ read parsed⟩

end Tree

end RecordTags
