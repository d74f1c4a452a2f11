import RecordTags.Proofs.Escape.Pieces
import RecordTags.Proofs.Tag.Fill
import RecordTags.Proofs.Tree.FirstFailure
import RecordTags.Proofs.Tree.Positions

/-!
Contract: every error points into the text of its tag.

Owns:
- `TagError.PointsInto`: the span of an error lies in the text, and what the
  error is about stands there;
- where each stage takes its spans from. Scanning and reading take them from
  tokens, escapes from the content of a string token, the order of arguments
  and binding from the nodes of the tree;
- that a value which is refused is the value of its step or an element of it.

Does not own: where tokens and nodes stand; that is
`RecordTags.Proofs.Token.Tiling` and `RecordTags.Proofs.Tree.Positions`.
-/

namespace RecordTags

open RecordTags.Text

/-- The span of an error lies in the text of a tag, and what the error is about stands there: the
escape that the message quotes, the literal that is no number, the node that could not be used. -/
structure TagError.PointsInto (text : String) (error : TagError) : Prop where
  within : error.span.Within text.toList
  escape : error.code = .invalidEscape →
    ∃ source, error.span.source? text.toList = some ('\\' :: source) ∧
      error.message = "invalid escape sequence " ++ quoted (String.ofList ('\\' :: source))
  number : error.category = .number →
    ∃ fault, ∃ token ∈ Token.scan text, token.kind = .number ∧
      error = .numeric fault token.text token.span ∧
      error.span.source? text.toList = some token.text.toList
  node : error.category = .argumentOrder ∨ error.category = .binding →
    ∃ tree node, Tree.parse text = .ok tree ∧ tree.HasNode node ∧ error.span = node.span

theorem TagError.category_of_invalidEscape {error : TagError}
    (isEscape : error.code = .invalidEscape) : error.category = .grammar := by
  cases error with
  | invalidEscape | unexpected => rfl
  | lexical fault | numeric fault => cases fault <;> contradiction
  | refused refusal => cases refusal <;> contradiction
  | argumentOrder | unknownField | indexOutOfRange => contradiction

/-! ## Escapes -/

namespace Escape

/-- The error of an escape in a text that starts at a byte. -/
def Reports (start : Nat) (text : List Char) (error : TagError) : Prop :=
  ∃ before source after, text = before ++ '\\' :: source ++ after ∧
    error = invalid (start + byteLength before) ('\\' :: source)

theorem reports_invalid (start : Nat) (source after : List Char) :
    Reports start ('\\' :: source ++ after) (invalid start ('\\' :: source)) :=
  ⟨[], source, after, rfl, rfl⟩

/-- The error of an escape in a part is one of the whole. -/
theorem Reports.whole {start : Nat} {text : List Char} {error : TagError} (front back : List Char)
    (reports : Reports (start + byteLength front) text error) :
    Reports start (front ++ text ++ back) error := by
  obtain ⟨before, source, after, rfl, rfl⟩ := reports
  refine ⟨front ++ before, source, after ++ back, by simp, ?_⟩
  rw [byteLength_append, Nat.add_assoc]

/-- What decoding reports is an escape in the text. -/
theorem reports_of_decodeFrom {start : Nat} {text : List Char} {error : TagError}
    (refused : decodeFrom start text = .error error) : Reports start text error := by
  -- on the text: the error is of the escape at its head, or of one behind what the head takes
  fun_induction decodeFrom start text with
  | case1 => contradiction
  | case2 start c rest notBackslash inductionHypothesis =>
      have behind := (inductionHypothesis (eq_error_of_map refused)).whole [c] []
      simpa using behind
  | case3 start c isBackslash =>
      cases refused
      obtain rfl : c = '\\' := by simpa using isBackslash
      exact reports_invalid start [] []
  | case4 start c isBackslash letter rest letterEnd meaning known inductionHypothesis =>
      have behind := (inductionHypothesis (eq_error_of_map refused)).whole [c, letter] []
      simpa using behind
  | case5 start c isBackslash letter rest
  | case6 start c isBackslash letter rest =>
      cases refused
      obtain rfl : c = '\\' := by simpa using isBackslash
      exact reports_invalid start [letter] rest
  | case7 start c isBackslash letter rest unknown numeric found digits rest' taken =>
      cases refused
      obtain rfl : c = '\\' := by simpa using isBackslash
      rw [(takeDigits?_eq_some_iff.1 taken).1]
      exact reports_invalid start (letter :: digits) rest'
  | case8 start c isBackslash letter rest letterEnd unknown numeric found digits rest' taken _
      meaning character inductionHypothesis =>
      have inner := inductionHypothesis (eq_error_of_map refused)
      have position : letterEnd + byteLength digits =
          start + byteLength (c :: letter :: digits) := by
        simp only [letterEnd, byteLength_cons, byteLength_nil]
        omega
      rw [position] at inner
      rw [(takeDigits?_eq_some_iff.1 taken).1]
      simpa using inner.whole (c :: letter :: digits) []

/-- What is reported of a literal is an escape between its quotes. -/
theorem reports_of_unquote {start : Nat} {quoted : List Char} {error : TagError}
    (isQuoted : IsQuoted quoted) (refused : unquote start quoted = .error error) :
    Reports start quoted error := by
  obtain ⟨quote, tail, rfl, isQuote, isTail⟩ := isQuoted
  have notEmpty : tail ≠ [] := by
    rintro rfl
    contradiction
  have oneByte : byteLength [quote] = 1 := by
    rcases isQuote with rfl | rfl <;> rfl
  have inner : Reports (start + byteLength [quote]) tail.dropLast error := by
    rw [oneByte]
    exact reports_of_decodeFrom (eq_error_of_map refused)
  have whole := inner.whole [quote] [tail.getLast notEmpty]
  rwa [List.append_assoc, List.dropLast_append_getLast notEmpty] at whole

/-- The error of an escape stands at the escape and quotes it. -/
theorem Reports.pointsInto {text : String} {error : TagError}
    (reports : Reports 0 text.toList error) : error.PointsInto text := by
  obtain ⟨before, source, after, split, rfl⟩ := reports
  have found : (invalid (0 + byteLength before) ('\\' :: source)).span.source? text.toList =
      some ('\\' :: source) := by
    rw [split, Nat.zero_add]
    exact Span.source?_ofText before ('\\' :: source) after
  refine ⟨Span.within_of_source? found, fun _ => ⟨source, found, rfl⟩, ?_, ?_⟩
  · intro isNumber
    contradiction
  · rintro (isOrder | isBinding) <;> contradiction

end Escape

/-! ## Tokens -/

namespace Token

theorem source_of_mem_scan {text : String} {token : Token} (member : token ∈ scan text)
    (notTerminal : token.kind.isTerminal = false) :
    token.span.source? text.toList = some token.text.toList := by
  obtain ⟨tokens, rest, terminal, scanned, cuts⟩ := scan_cuts text
  rw [scanned] at member
  rcases List.mem_append.1 member with inTokens | isTerminal
  · exact cuts.tiling.source token inTokens
  · rw [List.mem_singleton.1 isTerminal, cuts.stops.isTerminal] at notTerminal
    contradiction

/-- All tokens of a scan lie in the text. -/
theorem within_of_mem_scan {text : String} {token : Token} (member : token ∈ scan text) :
    token.span.Within text.toList := by
  cases kind : token.kind.isTerminal with
  | false => exact Span.within_of_source? (source_of_mem_scan member kind)
  | true =>
      obtain ⟨tokens, rest, terminal, scanned, cuts⟩ := scan_cuts text
      have tiling := cuts.tiling
      rw [scanned] at member
      rcases List.mem_append.1 member with inTokens | isTerminal
      · rw [tiling.notTerminal token inTokens] at kind
        contradiction
      · rw [List.mem_singleton.1 isTerminal]
        cases ends : terminal.kind with
        | eof =>
            rw [(tiling.complete ends).2.1]
            exact Span.within_of_source? (Span.source?_empty text.toList)
        | error fault => exact (tiling.fault fault ends).2.1
        | _ =>
            have isTerminal := tiling.isTerminal
            rw [ends] at isTerminal
            contradiction

end Token

/-! ## Reading -/

namespace Tree

/-- The error at a bad token of a tag. -/
theorem pointsInto_of_failsWith {text : String} {token : Token} (member : token ∈ Token.scan text)
    {before : List TokenKind} {error : TagError} (fails : token.FailsWith before error) :
    error.PointsInto text := by
  have within := Token.within_of_mem_scan member
  cases fails with
  | @lexical fault kind is =>
      subst is
      refine ⟨within, ?_, ?_, ?_⟩
      · intro isEscape
        have grammar := TagError.category_of_invalidEscape isEscape
        contradiction
      · intro isNumber
        contradiction
      · rintro (isOrder | isBinding) <;> contradiction
  | @number fault kind rejected is =>
      subst is
      have found := Token.source_of_mem_scan member (by rw [kind]; rfl)
      refine ⟨within, ?_, fun _ => ⟨fault, token, member, kind, rfl, found⟩, ?_⟩
      · intro isEscape
        have grammar := TagError.category_of_invalidEscape isEscape
        contradiction
      · rintro (isOrder | isBinding) <;> contradiction
  | string kind rejected =>
      have spelled := (Token.scan_sequence text).spelled token member
      have isQuoted : IsQuoted token.text.toList := by
        unfold Token.Spelled at spelled
        rw [kind] at spelled
        exact spelled
      have found := Token.source_of_mem_scan member (by rw [kind]; rfl)
      obtain ⟨front, back, split, place⟩ := Span.source?_eq_some_iff.1 found
      have start : token.span.start = 0 + byteLength front := by
        rw [place, Nat.zero_add]
        rfl
      rw [start] at rejected
      have reports := (Escape.reports_of_unquote isQuoted rejected).whole front back
      rw [← split] at reports
      exact reports.pointsInto
  | misplaced noFault stuck is =>
      subst is
      refine ⟨within, ?_, ?_, ?_⟩
      · intro isEscape
        contradiction
      · intro isNumber
        contradiction
      · rintro (isOrder | isBinding) <;> contradiction

theorem pointsInto_of_parse {text : String} {error : TagError}
    (refused : parse text = .error error) : error.PointsInto text := by
  have firstFails := (parse_eq_error_iff text error).1 refused
  obtain ⟨before, token, after, scanned, fails, -⟩ := Token.firstFails_iff.1 firstFails
  have member : token ∈ Token.scan text := by
    rw [scanned]
    simp
  exact pointsInto_of_failsWith member fails

/-- The error at a node of the tree of a tag. -/
theorem pointsInto_of_hasNode {text : String} {tree : Tree} (parsed : parse text = .ok tree)
    {node : Node} (hasNode : tree.HasNode node) {error : TagError} (span : error.span = node.span)
    (stage : error.category = .argumentOrder ∨ error.category = .binding) :
    error.PointsInto text := by
  have found := (locatedIn_of_parse parsed hasNode).source
  refine ⟨?_, ?_, ?_, fun _ => ⟨tree, node, parsed, hasNode, span⟩⟩
  · rw [span]
    exact Span.within_of_source? found
  · intro isEscape
    rw [TagError.category_of_invalidEscape isEscape] at stage
    rcases stage with isOrder | isBinding <;> contradiction
  · intro isNumber
    rw [isNumber] at stage
    rcases stage with isOrder | isBinding <;> contradiction

end Tree

/-! ## The order of arguments -/

/-- A failure to split names one of the arguments. -/
theorem Resolved.argumentOrder_of_foldlM {args : List Argument} {before : Resolved}
    {error : TagError} (refused : args.foldlM Resolved.add before = .error error) :
    ∃ argument ∈ args, error = .argumentOrder argument.span := by
  induction args generalizing before with
  | nil => contradiction
  | cons first rest inductionHypothesis =>
      rw [List.foldlM_cons] at refused
      cases adds : before.add first with
      | ok resolved =>
          rw [adds] at refused
          obtain ⟨argument, member, is⟩ := inductionHypothesis refused
          exact ⟨argument, List.mem_cons_of_mem _ member, is⟩
      | error other =>
          rw [adds] at refused
          cases refused
          refine ⟨first, List.mem_cons_self, ?_⟩
          cases named : first.key? with
          | some key =>
              obtain ⟨resolved, addsKey, -⟩ := before.add_of_key named
              rw [adds] at addsKey
              contradiction
          | none =>
              rw [add_of_none named] at adds
              split_ifs at adds
              exact (Except.error.inj adds).symm

/-! ## Refused values -/

section

variable {F : Type} [Field F]

/-- A value is refused by an optional layer as a whole, or by what is inside. -/
theorem mismatch_writeInside {value : Value} {write : F → Written F} {layers : Nat} {field : F}
    {mismatch : Mismatch}
    (refused : (writeInside value write layers field).mismatch = some mismatch) :
    mismatch.value = value ∨ ∃ inner, (write inner).mismatch = some mismatch := by
  induction layers generalizing field with
  | zero => exact .inr ⟨field, refused⟩
  | succ layers inductionHypothesis =>
      rw [writeInside] at refused
      split at refused
      next refusal =>
        cases refused
        exact .inl rfl
      next content opened => exact inductionHypothesis refused

/-- What is refused of several values is refused by the field of one of them. -/
theorem mismatch_assignEach {values : List Value} {fields : List F} {mismatch : Mismatch}
    (refused : (assignEach values fields).2 = some mismatch) :
    ∃ value ∈ values, ∃ field : F, (assign value field).mismatch = some mismatch := by
  induction values generalizing fields with
  | nil =>
      rw [assignEach_nil] at refused
      contradiction
  | cons value values inductionHypothesis =>
      cases fields with
      | nil =>
          rw [assignEach_fields_nil] at refused
          contradiction
      | cons field fields =>
          rw [assignEach_cons] at refused
          cases outcome : (assign value field).mismatch with
          | some first =>
              rw [outcome] at refused
              cases refused
              exact ⟨value, List.mem_cons_self, field, outcome⟩
          | none =>
              rw [outcome] at refused
              obtain ⟨other, member, found⟩ := inductionHypothesis refused
              exact ⟨other, List.mem_cons_of_mem _ member, found⟩

theorem mismatch_ofResult {value : Value} {field : F} {result : Except Refusal F}
    {mismatch : Mismatch}
    (refused : (Written.ofResult value field result).mismatch = some mismatch) :
    mismatch.value = value := by
  cases result with
  | ok field => contradiction
  | error refusal =>
      cases refused
      rfl

/-- A value that is refused is the one that was to be written, or an element of it. -/
theorem hasNode_of_mismatch {tree : Tree} {value : Value} (hasNode : tree.HasNode (.value value))
    {field : F} {mismatch : Mismatch} (refused : (assign value field).mismatch = some mismatch) :
    tree.HasNode (.value mismatch.value) := by
  -- only a slice passes on a refusal of another value than itself, and then of an element
  induction value using Value.induct generalizing field with
  | nil span =>
      rw [assign_nil] at refused
      contradiction
  | scalar value scalar =>
      rw [assign_of_isScalar scalar] at refused
      have same : mismatch.value = value := by
        rcases mismatch_writeInside refused with same | ⟨inner, refusedInside⟩
        · exact same
        · exact mismatch_ofResult refusedInside
      rwa [same]
  | slice values span inductionHypothesis =>
      rw [assign_slice] at refused
      rcases mismatch_writeInside refused with same | ⟨inner, refusedInside⟩
      · rwa [same]
      · unfold writeElements at refusedInside
        split at refusedInside
        next =>
          rw [mismatch_ofResult refusedInside]
          exact hasNode
        next =>
          obtain ⟨value, member, element, refusedElement⟩ := mismatch_assignEach refusedInside
          exact inductionHypothesis value member (hasNode.ofElement member) refusedElement

end

/-! ## Binding -/

/-- The steps of a tag are about nodes of its tree. -/
theorem Resolved.IsSplit.hasNode_of_step {tree : Tree} {resolved : Resolved}
    (split : resolved.IsSplit tree.args) {step : BindStep} (member : step ∈ resolved.steps) :
    tree.HasNode (.value step.value) ∧
      ∀ key argument, step = .keyword key argument → tree.HasNode (.argument argument) := by
  rcases mem_steps.1 member with ⟨index, value, found, rfl⟩ | ⟨key, argument, inKeyword, rfl⟩
  · obtain ⟨front, back, args, -, -, values⟩ := split.positional
    have isValue := List.mem_of_getElem? found
    rw [values] at isValue
    obtain ⟨argument, inFront, rfl⟩ := List.mem_map.1 isValue
    have inArgs : argument ∈ tree.args := by
      rw [args]
      exact List.mem_append_left _ inFront
    refine ⟨(Tree.HasNode.argument inArgs).ofValue, ?_⟩
    intro key other isKeyword
    contradiction
  · have isLast := (split.keyword key argument).1 (resolved.ascending.mem_iff.1 inKeyword)
    refine ⟨(Tree.HasNode.argument isLast.mem.1).ofValue, ?_⟩
    intro otherKey other isKeyword
    cases isKeyword
    exact .argument isLast.mem.1

/-- A step fails at a node of the tree. -/
theorem exists_node_of_failsWith {F : Type} [Field F] {tree : Tree} {resolved : Resolved}
    (split : resolved.IsSplit tree.args) {step : BindStep} (member : step ∈ resolved.steps)
    {options : BindOptions} {record : Record F} {error : TagError}
    (fails : step.FailsWith options record error) :
    ∃ node, tree.HasNode node ∧ error.span = node.span ∧ error.category = .binding := by
  obtain ⟨hasValue, hasArgument⟩ := split.hasNode_of_step member
  cases fails with
  | outOfRange => exact ⟨_, hasValue, rfl, rfl⟩
  | unknownKey => exact ⟨_, hasArgument _ _ rfl, rfl, rfl⟩
  | refused addresses found mismatched =>
      exact ⟨_, hasNode_of_mismatch hasValue mismatched, rfl, rfl⟩

/-- An error of binding points at what the tag writes into a field. -/
theorem pointsInto_of_bindSteps {F : Type} [Field F] {text : String} {tree : Tree}
    (parsed : Tree.parse text = .ok tree) {resolved : Resolved}
    (split : resolved.IsSplit tree.args) {options : BindOptions} {record : Record F}
    {error : TagError} (fails : (record.bindSteps options resolved.steps).error = some error) :
    error.PointsInto text := by
  obtain ⟨before, step, after, steps, -, stops⟩ := Record.exists_first_failure fails
  have member : step ∈ resolved.steps := by
    rw [steps]
    simp
  rw [stops] at fails
  obtain ⟨node, hasNode, span, category⟩ :=
    exists_node_of_failsWith split member (Record.error_bindStep_iff.1 fails)
  exact Tree.pointsInto_of_hasNode parsed hasNode span (.inr category)

/-! ## Tags -/

namespace Tag

theorem pointsInto_of_resolve {tag : Tag} {error : TagError}
    (refused : tag.resolve = .error error) : error.PointsInto tag.value := by
  rw [resolve, Resolved.ofText] at refused
  cases parsed : Tree.parse tag.value with
  | error other =>
      rw [parsed] at refused
      cases refused
      exact Tree.pointsInto_of_parse parsed
  | ok tree =>
      rw [parsed] at refused
      obtain ⟨argument, member, rfl⟩ := Resolved.argumentOrder_of_foldlM refused
      exact Tree.pointsInto_of_hasNode parsed (.argument member) rfl (.inl rfl)

section

variable {F : Type} [Field F]

/-- An error of filling points into the text of the tag, at whatever stage it fails. -/
theorem pointsInto_of_fillWith {tag : Tag} {options : BindOptions} {record : Record F}
    {error : TagError} (fails : (tag.fillWith options record).error = some error) :
    error.PointsInto tag.value := by
  cases resolves : tag.resolve with
  | error other =>
      rw [fillWith, resolves] at fails
      split_ifs at fails
      cases fails
      exact pointsInto_of_resolve resolves
  | ok resolved =>
      rw [fillWith, resolves] at fails
      split_ifs at fails
      rw [Record.error_bindInMode] at fails
      rw [resolve, Resolved.ofText] at resolves
      cases parsed : Tree.parse tag.value with
      | error other =>
          rw [parsed] at resolves
          contradiction
      | ok tree =>
          rw [parsed] at resolves
          exact pointsInto_of_bindSteps parsed (Resolved.isSplit_of_foldlM resolves) fails

/-- Whatever goes wrong with a tag, the error says where in its text. -/
theorem error_pointsInto (tag : Tag) (options : BindOptions) (record : Record F)
    (error : TagError)
    (fails : tag.parse = .error error ∨ tag.resolve = .error error ∨
      (tag.fill record).error = some error ∨ (tag.fillWith options record).error = some error) :
    error.PointsInto tag.value := by
  have sameAsDefault : tag.fill record = tag.fillWith {} record := rfl
  rcases fails with refused | refused | fails | fails
  · exact Tree.pointsInto_of_parse refused
  · exact pointsInto_of_resolve refused
  · rw [sameAsDefault] at fails
    exact pointsInto_of_fillWith fails
  · exact pointsInto_of_fillWith fails

end

/-- A record with a sequence of integers. -/
def counts : Record Cell := { fields := [("counts", .zero (.sequence .int))] }

/-- The tag that gives the sequence a text. -/
def countsTag (text : String) : Tag := { name := "tag", value := "counts=1;'é';" ++ text }

theorem error_pointsInto_counts :
    (∃ error, ((countsTag "'ü\\q'").fill counts).error = some error ∧
      (error.code, error.span) = (.invalidEscape, ⟨17, 19⟩) ∧
      error.PointsInto "counts=1;'é';'ü\\q'") ∧
    (∃ error, ((countsTag "0x").fill counts).error = some error ∧
      (error.category, error.span) = (.number, ⟨14, 16⟩) ∧
      error.PointsInto "counts=1;'é';0x") ∧
    ∃ error, ((countsTag "2").fillWith { mode := .atomic } counts).error = some error ∧
      (error.category, error.span) = (.binding, ⟨9, 13⟩) ∧
      error.PointsInto "counts=1;'é';2" := by
  refine ⟨?_, ?_, ?_⟩
  · obtain ⟨error, fails, seen⟩ := Option.map_eq_some_iff.1
      (by decide +kernel : ((countsTag "'ü\\q'").fill counts).error.map
        (fun error => (error.code, error.span)) = some (.invalidEscape, ⟨17, 19⟩))
    exact ⟨error, fails, seen, error_pointsInto _ {} counts error (.inr (.inr (.inl fails)))⟩
  · obtain ⟨error, fails, seen⟩ := Option.map_eq_some_iff.1
      (by decide +kernel : ((countsTag "0x").fill counts).error.map
        (fun error => (error.category, error.span)) = some (.number, ⟨14, 16⟩))
    exact ⟨error, fails, seen, error_pointsInto _ {} counts error (.inr (.inr (.inl fails)))⟩
  · obtain ⟨error, fails, seen⟩ := Option.map_eq_some_iff.1
      (by decide +kernel : ((countsTag "2").fillWith { mode := .atomic } counts).error.map
        (fun error => (error.category, error.span)) = some (.binding, ⟨9, 13⟩))
    exact ⟨error, fails, seen, error_pointsInto _ _ counts error (.inr (.inr (.inr fails)))⟩

end Tag

end RecordTags
