import RecordTags.Proofs.Tree.WellFormed

/-!
Contract: reading a tag loses nothing.

Owns: the text of a place in the grammar, which is the text of the tokens that
led there, and its invariance under every transition. Over a whole run the text
of the arguments is the text that was read, so the text of the tree of a tag is
the tag.

Does not own: which trees have a text that can be read back.
-/

namespace RecordTags

open RecordTags.Text

/-! ## Texts of parts -/

theorem joinWith_cons (separator : Char) (text : List Char) {rest : List (List Char)}
    (nonempty : rest ≠ []) :
    joinWith separator (text :: rest) = text ++ separator :: joinWith separator rest := by
  cases rest with
  | nil => exact absurd rfl nonempty
  | cons head tail => rfl

theorem joinWith_concat (separator : Char) {texts : List (List Char)} (nonempty : texts ≠ [])
    (last : List Char) :
    joinWith separator (texts ++ [last]) = joinWith separator texts ++ separator :: last := by
  induction texts with
  | nil => exact absurd rfl nonempty
  | cons head tail inductionHypothesis =>
      cases tail with
      | nil => rfl
      | cons next rest =>
          rw [List.cons_append, joinWith_cons separator head (by simp),
            joinWith_cons separator head (by simp), inductionHypothesis (by simp),
            List.append_assoc, List.cons_append]

theorem elementChars_eq_map (values : List Value) :
    elementChars values = values.map Value.chars := by
  induction values with
  | nil => rw [elementChars, List.map_nil]
  | cons value rest inductionHypothesis =>
      rw [elementChars, inductionHypothesis, List.map_cons]

/-- The text of one or several simple values of an argument. -/
def elementsText (first : Value) (others : List Value) : List Char :=
  joinWith listSeparator ((first :: others).map Value.chars)

theorem elementsText_concat (first : Value) (others : List Value) (value : Value) :
    elementsText first (others ++ [value]) =
      elementsText first others ++ listSeparator :: value.chars := by
  rw [elementsText, ← List.cons_append, List.map_append, List.map_singleton,
    joinWith_concat listSeparator (by simp)]
  rfl

theorem Value.chars_ofElements (first : Value) (others : List Value) :
    (Value.ofElements first others).chars = elementsText first others := by
  unfold Value.ofElements
  split
  next isEmpty =>
    rw [List.getLast?_eq_none_iff.1 isEmpty]
    rfl
  next => rw [Value.chars, elementChars_eq_map, elementsText]

/-- The text of an optional name and the sign behind it. -/
def nameText : Option Identifier → List Char
  | none => []
  | some name => name.name.toList ++ ['=']

theorem Argument.chars_of_isPlain {argument : Argument} (plain : argument.value.IsPlain) :
    argument.chars = nameText argument.name ++ argument.value.chars := by
  unfold Argument.chars
  split
  next switched => rw [switched] at plain; exact plain.elim
  next name _ => rw [name]; rfl
  next identifier name _ =>
    rw [name, nameText, List.append_assoc]
    rfl

theorem Argument.chars_ofValue {name : Option Identifier} {value : Value} (plain : value.IsPlain) :
    (Argument.ofValue name value).chars = nameText name ++ value.chars := by
  cases name with
  | none => exact chars_of_isPlain plain
  | some name => exact chars_of_isPlain plain

theorem Argument.chars_of_switch {argument : Argument} {name : Identifier} {enabled : Bool}
    {span : Span} (switched : argument.value = .switch name enabled span) :
    argument.chars = switchMark enabled :: name.name.toList := by
  simp only [Argument.chars, switched, Value.chars]

/-- A switch is written as its mark and its name. -/
theorem Argument.chars_ofSwitch {mark : Token} {name : Identifier} (spelled : mark.Spelled)
    (kind : mark.kind = .enable ∨ mark.kind = .disable) :
    (Argument.ofSwitch mark name).chars = mark.text.toList ++ name.name.toList := by
  rw [chars_of_switch rfl]
  unfold Token.Spelled at spelled
  rcases kind with kind | kind
  · rw [kind] at spelled ⊢
    rw [spelled]
    rfl
  · rw [kind] at spelled ⊢
    rw [spelled]
    rfl

/-! ## Texts of places -/

namespace Tree

/-- The text of the tokens that have been read of the current argument. -/
def Place.text : Place → List Char
  | start | argument => []
  | switchName mark => mark.text.toList
  | word identifier => identifier.name.toList
  | value name => nameText (some name)
  | element name first others => nameText name ++ elementsText first others ++ [listSeparator]
  | afterValue name first others => nameText name ++ elementsText first others
  | afterSwitch switched => switched.chars

/-- The text of the current argument after a move, with the token that caused it. -/
def Move.text : Move → List Char
  | goOn place => place.text
  | separate argument => argument.chars ++ [argumentSeparator]
  | finish last => last.elim [] Argument.chars

theorem Place.Opens.text {place : Place} (opens : place.Opens) : place.text = [] := by
  cases opens <;> rfl

theorem Place.Holds.text {place : Place} {name : Option Identifier} {first : Value}
    {others : List Value} (holds : place.Holds name first others) :
    place.text = nameText name ++ elementsText first others := by
  cases holds with
  | word identifier => rw [Place.text, elementsText, List.map_singleton, joinWith, Value.chars]; rfl
  | afterValue => rfl

theorem Place.Completes.text {place : Place} {argument : Argument}
    (completes : place.Completes argument) (valid : place.WellFormed) :
    place.text = argument.chars := by
  cases completes with
  | value holds =>
      have plain := Value.isPlain_ofElements (holds.wellFormed valid).2
      rw [holds.text, Argument.chars_ofValue plain, Value.chars_ofElements]
  | afterSwitch => rfl

/-- One step adds the text of its token. -/
theorem Accepts.text {place : Place} {token : Token} {move : Move}
    (accepts : Accepts place token move) (spelled : token.Spelled) (valid : place.WellFormed) :
    move.text = place.text ++ token.text.toList := by
  have ofKind : ∀ kind, token.kind = kind → kind.Spells token.text.toList := by
    rintro kind rfl
    exact spelled
  cases accepts with
  | empty kind =>
      rw [show token.text.toList = [] from ofKind _ kind]
      rfl
  | mark opens kind =>
      rw [opens.text]
      rfl
  | word opens kind =>
      rw [opens.text]
      rfl
  | literal opens notWord read =>
      rw [opens.text, ← (Value.isSimple_of_ofToken spelled read).2]
      rfl
  | switchName kind => exact Argument.chars_ofSwitch valid.1 valid.2
  | name kind =>
      rw [show token.text.toList = ['='] from ofKind _ kind]
      rfl
  | value read =>
      rw [← (Value.isSimple_of_ofToken spelled read).2]
      rfl
  | element read =>
      rw [← (Value.isSimple_of_ofToken spelled read).2]
      simp only [Move.text, Place.text, elementsText_concat, List.append_assoc,
        List.singleton_append]
  | more holds kind =>
      rw [show token.text.toList = [listSeparator] from ofKind _ kind, holds.text]
      rfl
  | next completes kind =>
      rw [show token.text.toList = [argumentSeparator] from ofKind _ kind, completes.text valid]
      rfl
  | last completes kind =>
      rw [show token.text.toList = [] from ofKind _ kind, completes.text valid, List.append_nil]
      rfl

/-! ## Runs -/

theorem Accepts.ne_start {place next : Place} {token : Token}
    (accepts : Accepts place token (.goOn next)) : next ≠ .start := by
  cases accepts <;> exact Place.noConfusion

/-- A run that completes no argument reads an empty tag. -/
theorem Builds.eq_start_of_nil {place : Place} {tokens : List Token}
    (builds : Builds place tokens []) : place = .start := by
  generalize isEmpty : ([] : List Argument) = args at builds
  induction builds with
  | goOn spelled accepts run inductionHypothesis =>
      exact absurd (inductionHypothesis isEmpty) accepts.ne_start
  | separate => contradiction
  | finish spelled accepts =>
      cases accepts with
      | empty => rfl
      | last => contradiction

/-- Over a run, the text read so far and the texts of the tokens to come are the
text of the arguments. -/
theorem Builds.text {place : Place} {tokens : List Token} {args : List Argument}
    (builds : Builds place tokens args) (valid : place.WellFormed) :
    joinWith argumentSeparator (args.map Argument.chars) = place.text ++ Token.texts tokens := by
  induction builds with
  | goOn spelled accepts _ inductionHypothesis =>
      rw [inductionHypothesis (accepts.wellFormed spelled valid), Token.texts_cons,
        ← List.append_assoc, ← accepts.text spelled valid]
      rfl
  | @separate place token argument rest others spelled accepts run inductionHypothesis =>
      -- behind a comma there is at least one more argument
      have nonempty : others.map Argument.chars ≠ [] := by
        intro isEmpty
        obtain rfl := List.map_eq_nil_iff.1 isEmpty
        exact Place.noConfusion run.eq_start_of_nil
      rw [List.map_cons, joinWith_cons _ _ nonempty,
        inductionHypothesis Place.wellFormed_argument, Token.texts_cons, ← List.append_assoc,
        ← accepts.text spelled valid, Move.text, List.append_assoc]
      rfl
  | finish spelled accepts =>
      rw [Token.texts_cons, Token.texts_nil, List.append_nil, ← accepts.text spelled valid]
      cases accepts <;> rfl

/-- A run that succeeds has met no fault of the scanner. -/
theorem Builds.not_fault {place : Place} {tokens : List Token} {args : List Argument}
    (builds : Builds place tokens args) :
    ∀ token ∈ tokens, ∀ fault, token.kind ≠ .error fault := by
  induction builds with
  | goOn _ accepts _ inductionHypothesis =>
      exact List.forall_mem_cons.2 ⟨accepts.not_fault, inductionHypothesis⟩
  | separate _ accepts _ inductionHypothesis =>
      exact List.forall_mem_cons.2 ⟨accepts.not_fault, inductionHypothesis⟩
  | finish _ accepts => exact List.forall_mem_singleton.2 accepts.not_fault

/-- The characters of the tree of a tag are those of the tag. -/
theorem chars_of_parse {text : String} {tree : Tree} (parsed : parse text = .ok tree) :
    tree.chars = text.toList := by
  have builds := builds_of_parse parsed
  rw [Tree.chars, builds.text Place.wellFormed_start]
  exact Token.texts_scanFrom _ _ _ builds.not_fault

/-- Reading a tag loses nothing: the text of its tree is the tag, character for
character, so reading that text again gives the same tree with the same spans. -/
theorem render_of_parse {text : String} {tree : Tree} (parsed : parse text = .ok tree) :
    tree.render = text ∧ parse tree.render = .ok tree := by
  have same : tree.render = text := by
    rw [Tree.render, chars_of_parse parsed, String.ofList_toList]
  exact ⟨same, by rw [same, parsed]⟩

theorem render_of_parse_mixed :
    ∃ tree, parse "num-field=-0x1F;'it\\'s';\"é\",~ünï,nil,1.5e3" = .ok tree ∧
      tree.render = "num-field=-0x1F;'it\\'s';\"é\",~ünï,nil,1.5e3" ∧
      parse tree.render = .ok tree := by
  have readable : (parse "num-field=-0x1F;'it\\'s';\"é\",~ünï,nil,1.5e3").isOk = true := by
    decide +kernel
  obtain ⟨tree, parsed⟩ := exists_of_isOk readable
  exact ⟨tree, parsed, render_of_parse parsed⟩

end Tree

end RecordTags
