import RecordTags.Cli.Answer
import RecordTags.Proofs.Tag.ErrorSpan

/-!
Contract: each command about a tag fails where the one before it does.

Owns:
- where a tag fails whose scan stops: at the place where the scan does, or in
  front of it;
- the form of the diagnostics of the analyses (`tokens`, `parse`, `check`,
  `resolve`) and of `bind`, and that the envelope of each holds them;
- `Cli.Progression`, the order and the agreement of these commands on a text.

Does not own: which texts fail at which stage.
-/

namespace RecordTags

open RecordTags.Text

/-! ## Failures in front of the place where a scan stops -/

/-- The error of an escape ends inside the text. -/
theorem Escape.Reports.stop_le {start : Nat} {text : List Char} {error : TagError}
    (reports : Reports start text error) : error.span.stop ≤ start + byteLength text := by
  obtain ⟨before, source, after, rfl, rfl⟩ := reports
  show start + byteLength before + byteLength ('\\' :: source) ≤ _
  rw [byteLength_append, byteLength_append]
  omega

/-- The error of a token ends inside the token. -/
theorem Token.FailsWith.stop_le {text : String} {token : Token} (member : token ∈ scan text)
    {before : List TokenKind} {error : TagError} (fails : token.FailsWith before error) :
    error.span.stop ≤ token.span.stop := by
  cases fails with
  | lexical kind is =>
      subst is
      exact Nat.le_refl _
  | number kind rejected is =>
      subst is
      exact Nat.le_refl _
  | misplaced noFault stuck is =>
      subst is
      exact Nat.le_refl _
  | string kind rejected =>
      have isQuoted := (scan_sequence text).spelled token member
      rw [Spelled, kind] at isQuoted
      have found := source_of_mem_scan member (by rw [kind]; rfl)
      obtain ⟨front, back, -, place⟩ := Span.source?_eq_some_iff.1 found
      have reports := Escape.reports_of_unquote isQuoted rejected
      have stop := reports.stop_le
      rw [place] at stop ⊢
      exact stop

/-- A tag whose scan stops fails, with the fault of the scan or in front of it. -/
theorem Tree.parse_of_fault {text : String} {tokens : List Token} {terminal : Token}
    {fault : LexFault} (scanned : Token.scan text = tokens ++ [terminal])
    (tiling : Token.Tiling text.toList tokens terminal) (kind : terminal.kind = .error fault) :
    ∃ error, parse text = .error error ∧
      (error = .lexical fault terminal.span ∨ error.span.stop ≤ terminal.span.start) := by
  cases parsed : parse text with
  | ok tree =>
      have noneFails := Token.noneFails_iff.1 ((exists_parse_iff text).1 ⟨tree, parsed⟩)
      exact absurd (.lexical kind) (noneFails tokens terminal [] scanned)
  | error error =>
      refine ⟨error, rfl, ?_⟩
      have firstFails := (parse_eq_error_iff text error).1 parsed
      obtain ⟨before, token, after, split, fails, -⟩ := Token.firstFails_iff.1 firstFails
      have member : token ∈ Token.scan text := by
        rw [split]
        simp
      have place := member
      rw [scanned, List.mem_append, List.mem_singleton] at place
      rcases place with inTokens | rfl
      · have inToken := fails.stop_le member
        have inFront := (tiling.fault fault kind).2.2.1 token inTokens
        exact .inr (Nat.le_trans inToken inFront)
      · left
        cases fails with
        | lexical sameKind is =>
            rw [kind] at sameKind
            cases sameKind
            exact is
        | number otherKind | string otherKind =>
            rw [kind] at otherKind
            contradiction
        | misplaced noFault => exact absurd kind (noFault fault)

/-! ## Members of printed objects -/

namespace Json

/-- An object with one member of the name, which has the value. -/
def Holds (json : Json) (name : String) (value : Json) : Prop :=
  ∃ members, json = .object members ∧ ∀ other, (name, other) ∈ members ↔ other = value

/-- An object holds a member if no other has its name. -/
theorem holds_object {before after : List (String × Json)} {name : String} {value : Json}
    (others : ∀ other ∈ before ++ after, other.1 ≠ name) :
    (object (before ++ (name, value) :: after)).Holds name value := by
  refine ⟨_, rfl, fun other => ⟨fun member => ?_, ?_⟩⟩
  · rw [List.mem_append, List.mem_cons] at member
    rcases member with inBefore | isMember | inAfter
    · exact absurd rfl (others _ (List.mem_append_left after inBefore))
    · exact (Prod.mk.inj isMember).2
    · exact absurd rfl (others _ (List.mem_append_right before inAfter))
  · rintro rfl
    simp

theorem sortMembers_eq_map (members : List (String × Json)) :
    sortMembers members = members.map fun (name, value) => (name, value.sortKeys) := by
  induction members with
  | nil => rw [sortMembers, List.map_nil]
  | cons member rest inductionHypothesis =>
      obtain ⟨name, value⟩ := member
      rw [sortMembers, inductionHypothesis, List.map_cons]

/-- Members are found in any order. -/
theorem Holds.sortKeys {json : Json} {name : String} {value : Json}
    (holds : json.Holds name value) : json.sortKeys.Holds name value.sortKeys := by
  obtain ⟨members, rfl, only⟩ := holds
  rw [Json.sortKeys]
  refine ⟨_, rfl, fun other => ?_⟩
  rw [List.mem_mergeSort, sortMembers_eq_map, List.mem_map]
  constructor
  · rintro ⟨⟨sameName, found⟩, member, same⟩
    obtain ⟨rfl, rfl⟩ := Prod.mk.inj same
    rw [(only found).1 member]
  · rintro rfl
    exact ⟨(name, value), (only value).2 rfl, rfl⟩

end Json

/-! ## Answers -/

namespace Cli

/-- The value that an answer prints for a program. -/
def Answer.printed (answer : Answer) : Json := answer.envelope.sortKeys

/-- Two answers that print the same diagnostics. -/
def Answer.SameDiagnostics (left right : Answer) : Prop :=
  ∃ diagnostics, left.printed.Holds "diagnostics" diagnostics ∧
    right.printed.Holds "diagnostics" diagnostics

/-- An answer whose envelope holds its diagnostics. -/
def Answer.IsHonest (answer : Answer) : Prop :=
  answer.envelope.Holds "diagnostics" (Json.ofList Diagnostic.toJson answer.diagnostics)

theorem Answer.IsHonest.sameDiagnostics {left right : Answer} (honest : left.IsHonest)
    (honestRight : right.IsHonest) (same : left.diagnostics = right.diagnostics) :
    left.SameDiagnostics right := by
  refine ⟨_, honest.sortKeys, ?_⟩
  rw [same]
  exact honestRight.sortKeys

theorem isHonest_parseAnswer (source : Source) : (parseAnswer source).IsHonest :=
  @Json.holds_object [("ast", _)] [] _ _ (by simp)

theorem isHonest_checkAnswer (source : Source) : (checkAnswer source).IsHonest :=
  @Json.holds_object [("ok", _)] [] _ _ (by simp)

theorem isHonest_resolveAnswer (source : Source) : (resolveAnswer source).IsHonest := by
  unfold resolveAnswer
  split
  · exact @Json.holds_object [] [] _ _ (by simp)
  · exact @Json.holds_object [("positional", _), ("keyword", _)] [] _ _ (by simp)

theorem isHonest_bindAnswer (schema : Schema) (atomic : Bool) (source : Source) :
    (bindAnswer schema atomic source).IsHonest :=
  @Json.holds_object [("ok", _), ("record", _)] [] _ _ (by simp)

/-- The diagnostics about a stage that may fail. -/
def failures {α : Type} : Except TagError α → List Diagnostic
  | .ok _ => []
  | .error error => [error.toDiagnostic]

theorem hasError_failures {α : Type} (result : Except TagError α) :
    hasError (failures result) = true ↔ ∃ error, result = .error error := by
  cases result with
  | ok value => simp [failures, hasError]
  | error error => simp [failures, hasError, Diagnostic.isError, TagError.toDiagnostic]

theorem Answer.exitCode_eq_one_iff (answer : Answer) :
    answer.exitCode = 1 ↔ hasError answer.diagnostics = true := by
  rw [exitCode]
  split <;> simp_all

theorem diagnostics_parseAnswer (source : Source) :
    (parseAnswer source).diagnostics = failures (Tree.parse source.text) := by
  rw [parseAnswer]
  cases Tree.parse source.text <;> rfl

theorem diagnostics_checkAnswer (source : Source) :
    (checkAnswer source).diagnostics = failures (Resolved.ofText source.text) := by
  rw [checkAnswer]
  cases Resolved.ofText source.text <;> rfl

theorem diagnostics_resolveAnswer (source : Source) :
    (resolveAnswer source).diagnostics = failures (Resolved.ofText source.text) := by
  rw [resolveAnswer]
  cases Resolved.ofText source.text <;> rfl

theorem exitCode_parseAnswer (source : Source) :
    (parseAnswer source).exitCode = 1 ↔ ∃ error, Tree.parse source.text = .error error := by
  rw [Answer.exitCode_eq_one_iff, diagnostics_parseAnswer, hasError_failures]

theorem exitCode_checkAnswer (source : Source) :
    (checkAnswer source).exitCode = 1 ↔ ∃ error, Resolved.ofText source.text = .error error := by
  rw [Answer.exitCode_eq_one_iff, diagnostics_checkAnswer, hasError_failures]

/-- The commands `check` and `resolve` report the same. -/
theorem diagnostics_resolveAnswer_eq (source : Source) :
    (resolveAnswer source).diagnostics = (checkAnswer source).diagnostics :=
  (diagnostics_resolveAnswer source).trans (diagnostics_checkAnswer source).symm

/-- A text that cannot be parsed has no arguments either. -/
theorem failures_ofText {text : String} {error : TagError}
    (refused : Tree.parse text = .error error) :
    failures (Resolved.ofText text) = failures (Tree.parse text) := by
  rw [Resolved.ofText, refused]
  rfl

/-- A tag without arguments that is not passed over leaves the record alone. -/
theorem bindTag_of_error {F : Type} [Field F] (tag : Tag) {error : TagError}
    (notSkipped : tag.value ≠ Tag.skipText) (refused : tag.resolve = .error error)
    (options : BindOptions) (record : Record F) :
    bindTag tag options record = (record, [error.toDiagnostic]) := by
  have notIgnored : ¬ tag.isIgnored = true := fun ignored => notSkipped (eq_of_beq ignored)
  rw [bindTag, if_neg notIgnored, refused]

/-- Where the scan stops, that is reported. -/
theorem tokensAnswer_of_exitCode {source : Source} (fails : (tokensAnswer source).exitCode = 1) :
    ∃ tokens terminal fault, Token.scan source.text = tokens ++ [terminal] ∧
      Token.Tiling source.text.toList tokens terminal ∧ terminal.kind = .error fault ∧
      (tokensAnswer source).diagnostics =
        [.ofCode .error fault.code terminal.text (some terminal.span)] := by
  obtain ⟨tokens, terminal, scanned, tiling, -⟩ := Token.scan_tiles source.text
  have reported : (tokensAnswer source).diagnostics = scanDiagnostics (tokens ++ [terminal]) := by
    rw [← scanned]
    rfl
  rw [scanDiagnostics, List.getLast?_concat] at reported
  cases kind : terminal.kind with
  | error fault =>
      refine ⟨tokens, terminal, fault, scanned, tiling, kind, ?_⟩
      rw [reported]
      simp only [kind]
  | _ =>
      simp only [kind] at reported
      rw [Answer.exitCode_eq_one_iff, reported] at fails
      contradiction

/-! ## All commands on one text -/

/-- How the commands about a text hang together. -/
structure Progression (source : Source) : Prop where
  parse_of_tokens : (tokensAnswer source).exitCode = 1 → (parseAnswer source).exitCode = 1
  check_of_parse : (parseAnswer source).exitCode = 1 → (checkAnswer source).exitCode = 1
  check_resolve : (checkAnswer source).exitCode = (resolveAnswer source).exitCode
  parse_diagnostics : (parseAnswer source).exitCode = 1 →
    (parseAnswer source).SameDiagnostics (checkAnswer source) ∧
      (parseAnswer source).SameDiagnostics (resolveAnswer source)
  check_diagnostics : (checkAnswer source).exitCode = 1 →
    (checkAnswer source).SameDiagnostics (resolveAnswer source)
  /-- A record is left zero by a text that fails on its own. -/
  bind_zero : (checkAnswer source).exitCode = 1 → source.text ≠ Tag.skipText →
    ∀ (schema : Schema) (atomic : Bool),
      (checkAnswer source).SameDiagnostics (bindAnswer schema atomic source) ∧
        (bindAnswer schema atomic source).printed.Holds "record" schema.record.toJson.sortKeys ∧
        (bindAnswer schema atomic source).lines = [schema.record.toJson.pretty]
  /-- Parsing reports the fault of the scan, or something in front of it. -/
  parse_in_front : (tokensAnswer source).exitCode = 1 →
    ∃ scanFault parseFault scanSpan parseSpan,
      (tokensAnswer source).diagnostics = [scanFault] ∧ scanFault.span = some scanSpan ∧
      (parseAnswer source).diagnostics = [parseFault] ∧ parseFault.span = some parseSpan ∧
      (parseFault.id = scanFault.id ∧ parseSpan = scanSpan ∨ parseSpan.stop ≤ scanSpan.start)

/-- The commands about a text are progressive: each fails where an earlier one does, and repeats
what that one reports. -/
theorem progression (source : Source) : Progression source where
  parse_of_tokens fails := by
    obtain ⟨tokens, terminal, fault, scanned, tiling, kind, -⟩ := tokensAnswer_of_exitCode fails
    obtain ⟨error, refused, -⟩ := Tree.parse_of_fault scanned tiling kind
    exact (exitCode_parseAnswer source).2 ⟨error, refused⟩
  check_of_parse fails := by
    obtain ⟨error, refused⟩ := (exitCode_parseAnswer source).1 fails
    rw [Answer.exitCode_eq_one_iff, diagnostics_checkAnswer, failures_ofText refused]
    exact (hasError_failures _).2 ⟨error, refused⟩
  check_resolve := by
    rw [Answer.exitCode, Answer.exitCode, diagnostics_resolveAnswer_eq]
  parse_diagnostics fails := by
    obtain ⟨error, refused⟩ := (exitCode_parseAnswer source).1 fails
    have same : (parseAnswer source).diagnostics = (checkAnswer source).diagnostics := by
      rw [diagnostics_parseAnswer, diagnostics_checkAnswer, failures_ofText refused]
    have honest := isHonest_parseAnswer source
    refine ⟨honest.sameDiagnostics (isHonest_checkAnswer source) same,
      honest.sameDiagnostics (isHonest_resolveAnswer source) ?_⟩
    rw [same, diagnostics_resolveAnswer_eq]
  check_diagnostics _ :=
    (isHonest_checkAnswer source).sameDiagnostics (isHonest_resolveAnswer source)
      (diagnostics_resolveAnswer_eq source).symm
  bind_zero fails notSkipped schema atomic := by
    obtain ⟨error, refused⟩ := (exitCode_checkAnswer source).1 fails
    let options := if atomic then { schema.options with mode := .atomic } else schema.options
    let tag : Tag := { name := source.origin, value := source.text }
    have bound : bindTag tag options schema.record = (schema.record, [error.toDiagnostic]) :=
      bindTag_of_error tag notSkipped refused options schema.record
    refine ⟨(isHonest_checkAnswer source).sameDiagnostics (isHonest_bindAnswer schema atomic source)
      ?_, Json.Holds.sortKeys ?_, ?_⟩
    · have reported : (bindAnswer schema atomic source).diagnostics = [error.toDiagnostic] :=
        congrArg Prod.snd bound
      rw [reported, diagnostics_checkAnswer, refused]
      rfl
    · have sameRecord : (bindTag tag options schema.record).1.toJson = schema.record.toJson :=
        congrArg (Record.toJson ·.1) bound
      rw [← sameRecord]
      exact @Json.holds_object [("ok", _)] [diagnosticsMember _] _ _ (by simp [diagnosticsMember])
    · exact congrArg (fun result => [result.1.toJson.pretty]) bound
  parse_in_front fails := by
    obtain ⟨tokens, terminal, fault, scanned, tiling, kind, reported⟩ :=
      tokensAnswer_of_exitCode fails
    obtain ⟨error, refused, place⟩ := Tree.parse_of_fault scanned tiling kind
    refine ⟨_, error.toDiagnostic, terminal.span, error.span, reported, rfl, ?_, rfl, ?_⟩
    · rw [diagnostics_parseAnswer, refused]
      rfl
    · rcases place with rfl | inFront
      · exact .inl ⟨rfl, rfl⟩
      · exact .inr inFront

/-- A text with a bad escape in front of a character that no tag has. -/
def twoFaults : Source := { text := "'\\q',@", origin := "<arg>" }

/-- All commands fail on the text; scanning reports the character, and parsing the escape. -/
theorem progression_twoFaults :
    (tokensAnswer twoFaults).exitCode = 1 ∧ (resolveAnswer twoFaults).exitCode = 1 ∧
      (parseAnswer twoFaults).SameDiagnostics (resolveAnswer twoFaults) := by
  have scanFails : (tokensAnswer twoFaults).exitCode = 1 := by decide +kernel
  have together := progression twoFaults
  have parseFails := together.parse_of_tokens scanFails
  refine ⟨scanFails, ?_, (together.parse_diagnostics parseFails).2⟩
  rw [← together.check_resolve]
  exact together.check_of_parse parseFails

end Cli

end RecordTags
