import RecordTags.Field.Cell
import RecordTags.Proofs.Name.Words

/-!
Contract: when the form of a name is its own form.

Cutting lowers every character, so a second cut finds no capitals but those
without a small form. Such a capital can break a word that the first cut left
whole, because a capital before it has become a small letter. This is the only
way in which forms of forms differ.

Owns:
- `Name.BreaksInside`, a word that a second cut takes apart;
- the forms that are their own forms, and the fields that they find.
-/

namespace RecordTags

open Text

namespace Name

/-! ## Words that break -/

/-- Behind the first character of the word stands a capital that starts a word there. -/
def BreaksInside (word : List Char) : Prop :=
  ∃ before previous capital after, word = before ++ previous :: capital :: after ∧
    isUppercase capital = true ∧ startsWord previous after.head? = true

theorem not_breaksInside_singleton (c : Char) : ¬ BreaksInside [c] := by
  rintro ⟨before, previous, capital, after, whole, -, -⟩
  have lengths := congrArg List.length whole
  simp only [List.length_append, List.length_cons, List.length_nil] at lengths
  omega

/-- A word breaks in front of its second character or further behind. -/
theorem breaksInside_cons_cons {previous c : Char} {rest : List Char} :
    BreaksInside (previous :: c :: rest) ↔
      (isUppercase c && startsWord previous rest.head?) = true ∨ BreaksInside (c :: rest) := by
  rw [Bool.and_eq_true]
  constructor
  · rintro ⟨before, other, capital, after, whole, isCapital, starts⟩
    cases before with
    | nil =>
        cases whole
        exact .inl ⟨isCapital, starts⟩
    | cons first before =>
        obtain ⟨-, whole⟩ := List.cons_eq_cons.1 whole
        exact .inr ⟨before, other, capital, after, whole, isCapital, starts⟩
  · rintro (⟨isCapital, starts⟩ | ⟨before, other, capital, after, whole, isCapital, starts⟩)
    · exact ⟨[], previous, c, rest, rfl, isCapital, starts⟩
    · refine ⟨previous :: before, other, capital, after, ?_, isCapital, starts⟩
      rw [whole, List.cons_append]

/-- A word that has been started is not lost. -/
theorem wordsFrom_ne_nil {current : List Char} (started : current ≠ []) (previous : Char)
    (text : List Char) : wordsFrom previous current text ≠ [] := by
  induction text generalizing previous current with
  | nil => simp [wordsFrom, finished, started]
  | cons c rest inductionHypothesis =>
      unfold wordsFrom
      split
      · simp [finished, started]
      · split
        · exact List.cons_ne_nil _ _
        · exact inductionHypothesis (List.append_ne_nil_of_left_ne_nil started _) c

/-- What has been lowered is cut without loss. -/
theorem flatten_wordsFrom {text : List Char} (noBreak : ∀ c ∈ text, isBreak c = false)
    (lowered : ∀ c ∈ text, toLowercase c = [c]) (previous : Char) (current : List Char) :
    (wordsFrom previous current text).flatten = current ++ text := by
  induction text generalizing previous current with
  | nil =>
      unfold wordsFrom finished
      split
      next isEmpty => simp [List.isEmpty_iff.1 isEmpty]
      next => simp
  | cons c rest inductionHypothesis =>
      obtain ⟨notBreak, noBreakRest⟩ := List.forall_mem_cons.1 noBreak
      obtain ⟨own, loweredRest⟩ := List.forall_mem_cons.1 lowered
      have continues := inductionHypothesis noBreakRest loweredRest c
      rw [wordsFrom, if_neg (Bool.eq_false_iff.1 notBreak), own]
      split
      · rw [List.flatten_cons, continues, List.singleton_append]
      · rw [continues, List.append_assoc, List.singleton_append]

/-- A word that has been lowered stays whole unless it breaks inside. -/
theorem wordsFrom_eq_singleton_iff {text : List Char} (noBreak : ∀ c ∈ text, isBreak c = false)
    (lowered : ∀ c ∈ text, toLowercase c = [c]) {previous : Char} {current : List Char}
    (started : current ≠ []) :
    wordsFrom previous current text = [current ++ text] ↔ ¬ BreaksInside (previous :: text) := by
  induction text generalizing previous current with
  | nil => simp [wordsFrom, finished, started, not_breaksInside_singleton]
  | cons c rest inductionHypothesis =>
      obtain ⟨notBreak, noBreakRest⟩ := List.forall_mem_cons.1 noBreak
      obtain ⟨own, loweredRest⟩ := List.forall_mem_cons.1 lowered
      rw [breaksInside_cons_cons]
      cases breaks : isUppercase c && startsWord previous rest.head? with
      | true =>
          obtain ⟨isCapital, starts⟩ := Bool.and_eq_true_iff.1 breaks
          -- the capital starts a second word, whatever follows it
          rw [wordsFrom_of_startsWord notBreak isCapital started starts, own]
          have another := wordsFrom_ne_nil (List.cons_ne_nil c []) c rest
          simp [another]
      | false =>
          have startedStill : current ++ [c] ≠ [] := List.append_ne_nil_of_left_ne_nil started _
          rw [wordsFrom_of_goesOn notBreak breaks, own, List.append_cons current c rest,
            inductionHypothesis noBreakRest loweredRest startedStill]
          simp

theorem IsWord.wordsFrom_eq_iff {word : List Char} (isWord : IsWord word) :
    wordsFrom ' ' [] word = [word] ↔ ¬ BreaksInside word := by
  cases word with
  | nil => exact absurd rfl isWord.nonempty
  | cons first rest =>
      obtain ⟨notBreak, noBreakRest⟩ := List.forall_mem_cons.1 isWord.noBreak
      obtain ⟨own, loweredRest⟩ := List.forall_mem_cons.1 isWord.lowered
      rw [wordsFrom_of_first notBreak, own]
      exact wordsFrom_eq_singleton_iff noBreakRest loweredRest (List.cons_ne_nil first [])

theorem IsWord.wordsFrom_ne_nil {word : List Char} (isWord : IsWord word) :
    wordsFrom ' ' [] word ≠ [] := by
  intro noPieces
  have whole := flatten_wordsFrom isWord.noBreak isWord.lowered ' ' []
  rw [noPieces] at whole
  exact isWord.nonempty whole.symm

/-- A first piece that is the whole word leaves nothing for other pieces. -/
theorem IsWord.eq_nil_of_wordsFrom {word : List Char} (isWord : IsWord word)
    {more : List (List Char)} (pieces : wordsFrom ' ' [] word = word :: more) : more = [] := by
  have whole := flatten_wordsFrom isWord.noBreak isWord.lowered ' ' []
  rw [pieces] at whole
  have moreEmpty : more.flatten = [] := by simpa using whole
  rw [List.eq_nil_iff_forall_not_mem]
  intro piece member
  have inPieces : piece ∈ wordsFrom ' ' [] word := by
    rw [pieces]
    exact List.mem_cons_of_mem word member
  exact (of_mem_wordsFrom inPieces).1 (List.flatten_eq_nil_iff.1 moreEmpty piece member)

/-- Cutting words again leaves them as they are exactly when it leaves each one whole. -/
theorem flatMap_wordsFrom_eq_iff {words : List (List Char)}
    (areWords : ∀ word ∈ words, IsWord word) :
    words.flatMap (wordsFrom ' ' []) = words ↔ ∀ word ∈ words, wordsFrom ' ' [] word = [word] := by
  induction words with
  | nil => simp
  | cons first others inductionHypothesis =>
      obtain ⟨firstWord, otherWords⟩ := List.forall_mem_cons.1 areWords
      rw [List.flatMap_cons, List.forall_mem_cons, ← inductionHypothesis otherWords]
      constructor
      · intro unchanged
        -- each word has at least one piece, so the first piece must be the first word
        obtain ⟨piece, more, pieces⟩ := List.exists_cons_of_ne_nil firstWord.wordsFrom_ne_nil
        rw [pieces, List.cons_append] at unchanged
        obtain ⟨rfl, rest⟩ := List.cons_eq_cons.1 unchanged
        have noMore := firstWord.eq_nil_of_wordsFrom pieces
        rw [noMore] at pieces rest
        exact ⟨pieces, rest⟩
      · rintro ⟨firstWhole, othersWhole⟩
        rw [firstWhole, othersWhole, List.singleton_append]

end Name

/-! ## Forms of forms -/

namespace NameStyle

open Name

/-- The form of a name is its own form exactly when none of the name's words breaks inside. -/
theorem normalize_normalize_iff {style : NameStyle} (notExact : style ≠ .exact) {name : String} :
    style.normalize (style.normalize name) = style.normalize name ↔
      ∀ word ∈ words name, ¬ BreaksInside word := by
  obtain ⟨separator, isSeparator, normalizes⟩ := exists_separator notExact
  have areWords : ∀ word ∈ words name, IsWord word := fun _ => isWord_of_mem_words
  rw [normalize_eq_iff notExact, normalizes, words_join isSeparator,
    flatMap_wordsFrom_eq_iff areWords]
  constructor
  · intro whole word member
    exact (areWords word member).wordsFrom_eq_iff.1 (whole word member)
  · intro unbroken word member
    exact (areWords word member).wordsFrom_eq_iff.2 (unbroken word member)

/-- A word that breaks inside comes from a name with a capital that has no small form. -/
theorem exists_capital_of_breaksInside {name : String} {word : List Char}
    (member : word ∈ words name) (breaks : BreaksInside word) :
    ∃ c ∈ name.toList, isUppercase c = true ∧ toLowercase c = [c] := by
  obtain ⟨before, previous, capital, after, whole, isCapital, -⟩ := breaks
  have inWord : capital ∈ word := by simp [whole]
  -- lowering makes no capitals, so this one was in the name and is its own small form
  obtain ⟨c, inName, -, lowered⟩ := exists_of_mem_words member inWord
  rcases isSettled_of_mem_toLowercase lowered with ⟨own, rfl⟩ | settled
  · exact ⟨capital, inName, isCapital, own⟩
  · rw [settled.notCapital] at isCapital
    contradiction

/-- The name is compared as it is, or none of its words breaks inside. -/
def KeepsWhole (style : NameStyle) (name : String) : Prop :=
  style = .exact ∨ ∀ word ∈ words name, ¬ BreaksInside word

/-- The form of a name is its own form exactly when the words of the name are kept whole; so they
are if all capitals of the name have small forms. Such a form, used as a key, finds what the name
finds, which is the field with the name unless an earlier one has the same form. -/
theorem normalize_canonical (style : NameStyle) (name : String) :
    (style.normalize (style.normalize name) = style.normalize name ↔ style.KeepsWhole name) ∧
      ((∀ c ∈ name.toList, isUppercase c = true → toLowercase c ≠ [c]) → style.KeepsWhole name) ∧
      (style.KeepsWhole name → ∀ {F : Type} (record : Record F),
        record.indexOf? style (style.normalize name) = record.indexOf? style name ∧
          ∀ index, record.names[index]? = some name →
            (∀ earlier < index, ∀ other, record.names[earlier]? = some other →
              style.normalize other ≠ style.normalize name) →
            record.indexOf? style (style.normalize name) = some index) := by
  have canonical :
      style.normalize (style.normalize name) = style.normalize name ↔ style.KeepsWhole name := by
    unfold KeepsWhole
    by_cases isExact : style = .exact
    · simp [isExact, normalize]
    · rw [normalize_normalize_iff isExact]
      simp [isExact]
  refine ⟨canonical, ?_, ?_⟩
  · intro lowerable
    right
    intro word member breaks
    obtain ⟨c, inName, isCapital, own⟩ := exists_capital_of_breaksInside member breaks
    exact lowerable c inName isCapital own
  · intro keepsWhole F record
    have sameIndex : record.indexOf? style (style.normalize name) = record.indexOf? style name :=
      Record.indexOf?_of_normalize (canonical.2 keepsWhole)
    refine ⟨sameIndex, fun index found isFirst => ?_⟩
    rw [sameIndex]
    exact Record.indexOf?_of_first found rfl isFirst

/-- An acronym and a digit in one record. -/
def acronymAndDigit : Record Cell :=
  { fields := [("parseURL", .zero .int), ("HTTP2Server", .zero .bool)] }

theorem normalize_canonical_acronym :
    kebab.normalize "HTTP2Server" = "http2-server" ∧
      kebab.normalize (kebab.normalize "HTTP2Server") = kebab.normalize "HTTP2Server" ∧
      acronymAndDigit.indexOf? kebab (kebab.normalize "HTTP2Server") = some 1 := by
  have lowerable : ∀ c ∈ "HTTP2Server".toList, isUppercase c = true → toLowercase c ≠ [c] := by
    decide +kernel
  obtain ⟨canonical, keeps, finds⟩ := normalize_canonical kebab "HTTP2Server"
  have keepsWhole := keeps lowerable
  refine ⟨by decide +kernel, canonical.2 keepsWhole, ?_⟩
  apply (finds keepsWhole acronymAndDigit).2 1 rfl
  intro earlier before other found
  obtain rfl : earlier = 0 := by omega
  cases found
  decide +kernel

/-- A field whose name holds a capital without a small form. -/
def capitalWithoutSmallForm : Record Cell := { fields := [("Aℂ", .zero .int)] }

/-- The form of a name need not be its own form, and then it does not find the field. -/
theorem form_misses_field :
    kebab.normalize (kebab.normalize "Aℂ") ≠ kebab.normalize "Aℂ" ∧
      capitalWithoutSmallForm.indexOf? kebab (kebab.normalize "Aℂ") = none := by
  decide +kernel

end NameStyle

end RecordTags
