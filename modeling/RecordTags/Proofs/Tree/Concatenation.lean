import RecordTags.Proofs.Token.Extension
import RecordTags.Proofs.Tree.FirstFailure
import RecordTags.Proofs.Tree.Shift

/-!
Contract: two tags joined by a comma are read as the two tags one after the other.

Owns:
- that a run which completes a text completes the same arguments in front of a
  comma, and is then as fresh as at the start of a tag;
- that the result for the joined tag is the result for the second tag with all
  its spans shifted, behind the arguments of the first.

Does not own: what a shift changes in a result; that is
`RecordTags.Proofs.Tree.Shift`.
-/

namespace RecordTags

open RecordTags.Text

/-- The scan of a text that is not empty does not end at once. -/
theorem Token.exists_first_of_scanFrom {text : List Char} (notEmpty : text ≠ []) (start : Nat) :
    ∃ token rest, Token.scanFrom .argument start text = token :: rest ∧ token.kind ≠ .eof := by
  cases text with
  | nil => contradiction
  | cons first rest =>
      rw [Token.scanFrom]
      split
      next kind tail next stepped =>
        refine ⟨_, _, rfl, ?_⟩
        intro isEnd
        have notTerminal := Token.Expect.isTerminal_of_mem_kinds
          (Token.argumentStep_emits stepped).admitted
        have isTerminal : kind = .eof := isEnd
        rw [isTerminal] at notTerminal
        contradiction
      next => exact ⟨_, _, rfl, TokenKind.noConfusion⟩
      next => exact ⟨_, _, rfl, TokenKind.noConfusion⟩

namespace Tree

/-! ## Runs in front of a comma -/

/-- The cases of a run that succeeds, by the move of its first token. -/
theorem cases_of_buildFrom {place : Place} {token : Token} {rest : List Token}
    {args : List Argument} (built : buildFrom place (token :: rest) = .ok args) :
    (∃ next, Accepts place token (.goOn next) ∧ buildFrom next rest = .ok args) ∨
      (∃ argument others, Accepts place token (.separate argument) ∧
        buildFrom .argument rest = .ok others ∧ args = argument :: others) ∨
      ∃ last, Accepts place token (.finish last) ∧ args = last.toList := by
  rw [buildFrom] at built
  split at built
  next => contradiction
  next next accepted => exact .inl ⟨next, accepts_of_accept accepted, built⟩
  next argument accepted =>
    obtain ⟨others, inner, rfl⟩ := exists_of_map_eq_ok built
    exact .inr (.inl ⟨argument, others, accepts_of_accept accepted, inner, rfl⟩)
  next last accepted =>
    exact .inr (.inr ⟨last, accepts_of_accept accepted, (Except.ok.inj built).symm⟩)

theorem not_built_of_fault {place : Place} {token : Token} {fault : LexFault}
    {args : List Argument} (kind : token.kind = .error fault) :
    buildFrom place [token] ≠ .ok args := by
  intro built
  rcases cases_of_buildFrom built with ⟨_, accepts, _⟩ | ⟨_, _, accepts, _⟩ | ⟨_, accepts, _⟩
  all_goals exact accepts.not_fault fault kind

theorem Accepts.goOn_ne_start {place next : Place} {token : Token}
    (accepts : Accepts place token (.goOn next)) : next ≠ .start := by
  intro isStart
  subst isStart
  cases accepts

theorem Place.Completes.expect {place : Place} {argument : Argument}
    (completes : place.Completes argument) : place.expect = .separator := by
  cases completes with
  | value holds => cases holds <;> rfl
  | afterSwitch => rfl

/-- A comma behind a complete argument starts the next one. -/
theorem buildFrom_comma {place : Place} {argument : Argument} (completes : place.Completes argument)
    (start : Nat) (after : List Char) :
    buildFrom place (Token.scanFrom .separator start (',' :: after)) =
      (buildFrom .argument (Token.scanFrom .argument (start + 1) after)).map (argument :: ·) := by
  have taken : Token.scanFrom .separator start (',' :: after) =
      .ofText .argumentSeparator start [','] :: Token.scanFrom .argument (start + 1) after :=
    Token.takes_argumentSeparator after start
  rw [taken]
  exact buildFrom_of_separate (.next completes rfl) _

theorem map_cons_append {ε α : Type} (result : Except ε (List α)) (first : α) (others : List α) :
    (result.map (others ++ ·)).map (first :: ·) = result.map (first :: others ++ ·) := by
  cases result <;> rfl

/-- A run that completes a text completes the same arguments in front of a comma,
and goes on behind the comma as if it had read nothing. -/
theorem buildFrom_append {expect : Token.Expect} {start : Nat} {text : List Char} {place : Place}
    {args : List Argument} (agrees : expect = place.expect) (ready : expect.Ready text)
    (started : place = .start → text ≠ [])
    (built : buildFrom place (Token.scanFrom expect start text) = .ok args) (after : List Char) :
    buildFrom place (Token.scanFrom expect start (text ++ ',' :: after)) =
      (buildFrom .argument (Token.scanFrom .argument (start + byteLength text + 1) after)).map
        (args ++ ·) := by
  -- on the scan, with the place where scanner and grammar agree as the invariant
  fun_induction Token.scanFrom expect start text generalizing place args with
  | case1 expect start =>
      have finishes : ∃ last, Accepts place (Token.atEnd expect start) (.finish last) ∧
          args = last.toList := by
        have isTerminal := Token.isTerminal_atEnd expect start
        rcases cases_of_buildFrom built with ⟨_, accepts, _⟩ | ⟨_, _, accepts, _⟩ | finishes
        · obtain ⟨last, isFinish⟩ := accepts.exists_finish isTerminal
          contradiction
        · obtain ⟨last, isFinish⟩ := accepts.exists_finish isTerminal
          contradiction
        · exact finishes
      obtain ⟨last, accepts, rfl⟩ := finishes
      cases accepts with
      | empty => exact absurd rfl (started rfl)
      | last completes =>
          rw [agrees, completes.expect]
          exact buildFrom_comma completes start after
  | case2 expect start first rest kind tail next stepped token _ =>
      rename_i inductionHypothesis
      have emits := Token.step_emits ready stepped
      have lengths : start + byteLength (first :: rest) =
          token.span.stop + byteLength tail.rest := by
        have whole := tail.byteLength_taken_add_rest
        show _ = start + byteLength (first :: tail.taken) + byteLength tail.rest
        simp only [byteLength_cons]
        omega
      have scanned : Token.scanFrom expect start (first :: rest ++ ',' :: after) =
          token :: Token.scanFrom next token.span.stop (tail.rest ++ ',' :: after) :=
        Token.scanFrom_extend (by decide) after stepped start
      rw [scanned, lengths]
      rcases cases_of_buildFrom built with
        ⟨place, accepts, inner⟩ | ⟨argument, others, accepts, inner, rfl⟩ | ⟨last, accepts, rfl⟩
      · rw [buildFrom_of_goOn accepts]
        exact inductionHypothesis (emits.next_eq.trans accepts.expect_goOn.symm) emits.ready
          (fun isStart => absurd isStart accepts.goOn_ne_start) inner
      · have tailBuilt := inductionHypothesis (emits.next_eq.trans accepts.expect_separate.symm)
          emits.ready Place.noConfusion inner
        rw [buildFrom_of_separate accepts, tailBuilt, map_cons_append]
      · have notTerminal : token.kind.isTerminal = false :=
          Token.Expect.isTerminal_of_mem_kinds emits.admitted
        exact absurd rfl (accepts.ne_finish notTerminal last)
  | case3 => exact absurd built (not_built_of_fault rfl)
  | case4 => exact absurd built (not_built_of_fault rfl)

/-! ## Joined tags -/

/-- Only an empty tag is read otherwise than what stands behind a comma. -/
theorem buildFrom_argument_eq_start {text : List Char} (notEmpty : text ≠ []) (start : Nat) :
    buildFrom .argument (Token.scanFrom .argument start text) =
      buildFrom .start (Token.scanFrom .argument start text) := by
  obtain ⟨token, rest, scanned, notEnd⟩ := Token.exists_first_of_scanFrom notEmpty start
  rw [scanned, buildFrom, buildFrom, accept_of_opens .argument notEnd,
    accept_of_opens .start notEnd]

/-- The run over a joined tag, from the runs over its parts. -/
theorem buildFrom_scan_comma {left right : String} {args : List Argument}
    (leftNotEmpty : left ≠ "") (rightNotEmpty : right ≠ "")
    (built : buildFrom .start (Token.scan left) = .ok args) :
    buildFrom .start (Token.scan (left ++ "," ++ right)) =
      (mapResult (.shift (byteLength left.toList + 1))
        (List.map (·.mapSpans (.shift (byteLength left.toList + 1))))
        (buildFrom .start (Token.scan right))).map (args ++ ·) := by
  have leftChars : left.toList ≠ [] := fun isNil => leftNotEmpty (String.toList_eq_nil_iff.1 isNil)
  have rightChars : right.toList ≠ [] := fun isNil =>
    rightNotEmpty (String.toList_eq_nil_iff.1 isNil)
  have joined : (left ++ "," ++ right).toList = left.toList ++ ',' :: right.toList := by simp
  have agrees : Token.Expect.argument = Place.start.expect := rfl
  have ready : Token.Expect.argument.Ready left.toList :=
    Token.Expect.ready_of_ne_name (by decide) _
  have shifted := Token.scanFrom_shift (byteLength left.toList + 1) .argument 0 right.toList
  calc buildFrom .start (Token.scan (left ++ "," ++ right))
      = buildFrom .start (Token.scanFrom .argument 0 (left.toList ++ ',' :: right.toList)) := by
        rw [Token.scan, joined]
    _ = (buildFrom .argument (Token.scanFrom .argument (0 + byteLength left.toList + 1)
          right.toList)).map (args ++ ·) :=
        buildFrom_append agrees ready (fun _ => leftChars) built right.toList
    _ = (buildFrom .start (Token.scanFrom .argument (0 + (byteLength left.toList + 1))
          right.toList)).map (args ++ ·) := by
        rw [buildFrom_argument_eq_start rightChars, Nat.add_assoc]
    _ = _ := by
        rw [shifted]
        exact congrArg (Except.map (args ++ ·)) (buildFrom_shift _ .start _)

end Tree

/-- The same error further to the right: nothing but its position differs. -/
structure TagError.MovedBy (distance : Nat) (error moved : TagError) : Prop where
  category : moved.category = error.category
  code : moved.code = error.code
  message : moved.message = error.message
  span : moved.span = error.span.shift distance
  /-- The data that the message is made of is the same too. -/
  data : moved = error.mapSpans (.shift distance)

theorem TagError.movedBy_mapSpans (distance : Nat) (error : TagError) :
    error.MovedBy distance (error.mapSpans (.shift distance)) where
  category := error.category_mapSpans _
  code := error.code_mapSpans _
  message := error.message_mapSpans _
  span := error.span_mapSpans _
  data := rfl

namespace Tree

/-- A tag in front of a comma adds its arguments and shifts the rest: the joined
tag is read if the second one is, as the arguments of both, and fails with the
error of the second one otherwise. -/
theorem parse_comma {left right : String} {tree : Tree} (leftNotEmpty : left ≠ "")
    (rightNotEmpty : right ≠ "") (parsed : parse left = .ok tree) :
    ((∃ joined, parse (left ++ "," ++ right) = .ok joined) ↔
        ∃ other, parse right = .ok other) ∧
      (∀ other, parse right = .ok other →
        parse (left ++ "," ++ right) = .ok
          { args := tree.args ++
              other.args.map (·.mapSpans (.shift (byteLength left.toList + 1)))
            span := ⟨0, byteLength (left ++ "," ++ right).toList⟩ }) ∧
      ∀ error, parse right = .error error →
        ∃ moved, parse (left ++ "," ++ right) = .error moved ∧
          error.MovedBy (byteLength left.toList + 1) moved := by
  obtain ⟨args, built, rfl⟩ := exists_of_map_eq_ok parsed
  have joined := buildFrom_scan_comma leftNotEmpty rightNotEmpty built
  have succeeds : ∀ other, parse right = .ok other →
      parse (left ++ "," ++ right) = .ok
        { args := args ++ other.args.map (·.mapSpans (.shift (byteLength left.toList + 1)))
          span := ⟨0, byteLength (left ++ "," ++ right).toList⟩ } := by
    intro other otherParsed
    obtain ⟨otherArgs, otherBuilt, rfl⟩ := exists_of_map_eq_ok otherParsed
    rw [parse, joined, otherBuilt]
    rfl
  have fails : ∀ error, parse right = .error error →
      parse (left ++ "," ++ right) =
        .error (error.mapSpans (.shift (byteLength left.toList + 1))) := by
    intro error refused
    rw [parse, joined, eq_error_of_map refused]
    rfl
  refine ⟨?_, succeeds, fun error refused => ⟨_, fails error refused, error.movedBy_mapSpans _⟩⟩
  cases otherParsed : parse right with
  | ok other => simp [succeeds other otherParsed]
  | error error => simp [fails error otherParsed]

theorem parse_comma_bothOutcomes :
    (∃ tree other, parse "ü='é';2" = .ok tree ∧ parse "!on,b=nil" = .ok other ∧
      parse ("ü='é';2" ++ "," ++ "!on,b=nil") = .ok
        { args := tree.args ++ other.args.map (·.mapSpans (.shift 10)), span := ⟨0, 19⟩ }) ∧
    ∃ error moved, parse "k='\\q'" = .error error ∧
      parse ("ü='é';2" ++ "," ++ "k='\\q'") = .error moved ∧ error.MovedBy 10 moved := by
  obtain ⟨tree, parsed⟩ := exists_of_isOk (by decide +kernel : (parse "ü='é';2").isOk = true)
  obtain ⟨other, read⟩ := exists_of_isOk (by decide +kernel : (parse "!on,b=nil").isOk = true)
  have notRead : (parse "k='\\q'").isOk = false := by decide +kernel
  refine ⟨⟨tree, other, parsed, read, ?_⟩, ?_⟩
  · exact (parse_comma (by decide) (by decide) parsed).2.1 other read
  · cases refused : parse "k='\\q'" with
    | ok tree =>
        rw [refused] at notRead
        contradiction
    | error error =>
        obtain ⟨moved, fails, movedBy⟩ :=
          (parse_comma (by decide) (by decide) parsed).2.2 error refused
        exact ⟨error, moved, rfl, fails, movedBy⟩

end Tree

end RecordTags
