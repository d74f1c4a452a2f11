import Mathlib.Data.List.Basic
import RecordTags.Proofs.Text.SmallForm
import RecordTags.Record

/-!
Contract: the words of a name, and names made of words.

Owns:
- `IsWord`, what names are cut into: characters in small form, without breaks;
- the cut at a separator, from which follows that the words of joined words are
  the words of each;
- that words joined by a separator can be told from each other, so names have
  the same form exactly when they have the same words;
- the field that a key finds: the first one whose name has the form of the key.

Cutting looks one character ahead. At a separator it sees no small letter, just
as at the end of the text; this is why words can be cut one by one.
-/

namespace RecordTags

open Text

namespace Name

/-! ## One character -/

section

variable {previous c : Char} {current rest : List Char}

theorem wordsFrom_of_isBreak (isBreak : isBreak c = true) :
    wordsFrom previous current (c :: rest) = finished current ++ wordsFrom c [] rest := by
  rw [wordsFrom, if_pos isBreak]

/-- A capital that starts a word ends the one before it. -/
theorem wordsFrom_of_startsWord (notBreak : isBreak c = false) (isCapital : isUppercase c = true)
    (started : current ≠ []) (starts : startsWord previous rest.head? = true) :
    wordsFrom previous current (c :: rest) = current :: wordsFrom c (toLowercase c) rest := by
  rw [wordsFrom, if_neg (Bool.eq_false_iff.1 notBreak), if_pos]
  simp [isCapital, started, starts]

/-- Any other character goes on with the word. -/
theorem wordsFrom_of_goesOn (notBreak : isBreak c = false)
    (goesOn : (isUppercase c && startsWord previous rest.head?) = false) :
    wordsFrom previous current (c :: rest) = wordsFrom c (current ++ toLowercase c) rest := by
  rw [wordsFrom, if_neg (Bool.eq_false_iff.1 notBreak), if_neg]
  rw [Bool.and_right_comm, goesOn, Bool.false_and]
  exact Bool.false_ne_true

/-- The first character of a word starts it, whatever it is. -/
theorem wordsFrom_of_first (notBreak : isBreak c = false) :
    wordsFrom previous [] (c :: rest) = wordsFrom c (toLowercase c) rest := by
  rw [wordsFrom, if_neg (Bool.eq_false_iff.1 notBreak), if_neg (by simp), List.nil_append]

/-- Before a word has begun it does not matter what stood there. -/
theorem wordsFrom_nil (previous other : Char) (text : List Char) :
    wordsFrom previous [] text = wordsFrom other [] text := by
  cases text with
  | nil => rfl
  | cons c rest => simp [wordsFrom]

end

/-! ## What words are made of -/

/-- A word: not empty, without breaks, in small form. -/
structure IsWord (word : List Char) : Prop where
  nonempty : word ≠ []
  noBreak : ∀ c ∈ word, isBreak c = false
  lowered : ∀ c ∈ word, toLowercase c = [c]

/-- No settled character separates words. -/
theorem isBreak_of_isSettled {c : Char} (settled : IsSettled c) : isBreak c = false := by
  have ofMark : ∀ mark : Char, mark.toNat ≤ 0x60 → (c == mark) = false := by
    intro mark isMark
    rw [beq_eq_false_iff_ne]
    rintro rfl
    exact absurd settled.behindMarks (Nat.not_lt.2 isMark)
  unfold isBreak
  rw [ofMark '_' (by decide), ofMark '-' (by decide), settled.notSpace]
  rfl

theorem isBreak_of_mem_toLowercase {c small : Char} (notBreak : isBreak c = false)
    (member : small ∈ toLowercase c) : isBreak small = false := by
  rcases isSettled_of_mem_toLowercase member with ⟨-, rfl⟩ | settled
  · exact notBreak
  · exact isBreak_of_isSettled settled

theorem mem_finished {word current : List Char} :
    word ∈ finished current ↔ word = current ∧ current ≠ [] := by
  unfold finished
  split
  next isEmpty => simp [List.isEmpty_iff.1 isEmpty]
  next notEmpty =>
    rw [List.isEmpty_iff] at notEmpty
    simp [notEmpty]

/-- The character comes from a word that had been read or from the text. -/
def ComesFrom (current text : List Char) (small : Char) : Prop :=
  small ∈ current ∨ ∃ c ∈ text, isBreak c = false ∧ small ∈ toLowercase c

section

variable {c small : Char} {current rest : List Char}

theorem ComesFrom.later (comes : ComesFrom [] rest small) :
    ComesFrom current (c :: rest) small := by
  rcases comes with inNone | ⟨other, inRest, fromOther⟩
  · contradiction
  · exact .inr ⟨other, List.mem_cons_of_mem c inRest, fromOther⟩

theorem ComesFrom.goesOn (notBreak : isBreak c = false)
    (comes : ComesFrom (current ++ toLowercase c) rest small) :
    ComesFrom current (c :: rest) small := by
  rcases comes with read | ⟨other, inRest, fromOther⟩
  · rcases List.mem_append.1 read with inCurrent | lowered
    · exact .inl inCurrent
    · exact .inr ⟨c, List.mem_cons_self, notBreak, lowered⟩
  · exact .inr ⟨other, List.mem_cons_of_mem c inRest, fromOther⟩

end

/-- Words are not empty, and their characters come from the text or from the word that had
been read. -/
theorem of_mem_wordsFrom {previous : Char} {current text word : List Char}
    (member : word ∈ wordsFrom previous current text) :
    word ≠ [] ∧ ∀ small ∈ word, ComesFrom current text small := by
  induction text generalizing previous current with
  | nil =>
      obtain ⟨rfl, nonempty⟩ := mem_finished.1 member
      exact ⟨nonempty, fun small inWord => .inl inWord⟩
  | cons c rest inductionHypothesis =>
      unfold wordsFrom at member
      split at member
      next =>
        rcases List.mem_append.1 member with inFinished | inRest
        · obtain ⟨rfl, nonempty⟩ := mem_finished.1 inFinished
          exact ⟨nonempty, fun small inWord => .inl inWord⟩
        · obtain ⟨nonempty, comes⟩ := inductionHypothesis inRest
          exact ⟨nonempty, fun small inWord => (comes small inWord).later⟩
      next isNoBreak =>
        have notBreak := Bool.eq_false_iff.2 isNoBreak
        split at member
        next startsWord =>
          rcases List.mem_cons.1 member with rfl | inRest
          · have started : word ≠ [] := by
              rintro rfl
              simp at startsWord
            exact ⟨started, fun small inWord => .inl inWord⟩
          · obtain ⟨nonempty, comes⟩ := inductionHypothesis inRest
            refine ⟨nonempty, fun small inWord => ?_⟩
            have fromText : ComesFrom [] (c :: rest) small := .goesOn notBreak (comes small inWord)
            exact .inr (fromText.resolve_left List.not_mem_nil)
        next =>
          obtain ⟨nonempty, comes⟩ := inductionHypothesis member
          exact ⟨nonempty, fun small inWord => .goesOn notBreak (comes small inWord)⟩

theorem exists_of_mem_words {name : String} {word : List Char} (member : word ∈ words name)
    {small : Char} (inWord : small ∈ word) :
    ∃ c ∈ name.toList, isBreak c = false ∧ small ∈ toLowercase c := by
  have comes := (of_mem_wordsFrom member).2 small inWord
  exact comes.resolve_left List.not_mem_nil

theorem isWord_of_mem_words {name : String} {word : List Char} (member : word ∈ words name) :
    IsWord word where
  nonempty := (of_mem_wordsFrom member).1
  noBreak small inWord := by
    obtain ⟨c, -, notBreak, lowered⟩ := exists_of_mem_words member inWord
    exact isBreak_of_mem_toLowercase notBreak lowered
  lowered small inWord := by
    obtain ⟨c, -, -, lowered⟩ := exists_of_mem_words member inWord
    exact toLowercase_of_mem_toLowercase lowered

/-! ## Cutting at separators -/

/-- What words are joined by. -/
def IsSeparator (c : Char) : Prop := c = '-' ∨ c = '_'

theorem IsSeparator.isBreak {separator : Char} (isSeparator : IsSeparator separator) :
    isBreak separator = true := by
  rcases isSeparator with rfl | rfl
  · rfl
  · rfl

theorem IsSeparator.isLowercase {separator : Char} (isSeparator : IsSeparator separator) :
    isLowercase separator = false := by
  rcases isSeparator with rfl | rfl
  · decide +kernel
  · decide +kernel

theorem IsWord.not_mem_separator {word : List Char} (isWord : IsWord word) {separator : Char}
    (isSeparator : IsSeparator separator) : separator ∉ word := by
  intro member
  have notBreak := isWord.noBreak separator member
  rw [isSeparator.isBreak] at notBreak
  contradiction

/-- A separator ends a word just as the end of the text does. -/
theorem wordsFrom_append_separator {separator : Char} (isSeparator : IsSeparator separator)
    (previous : Char) (current text rest : List Char) :
    wordsFrom previous current (text ++ separator :: rest) =
      wordsFrom previous current text ++ wordsFrom ' ' [] rest := by
  induction text generalizing previous current with
  | nil =>
      rw [List.nil_append, wordsFrom_of_isBreak isSeparator.isBreak, wordsFrom_nil separator ' ']
      rfl
  | cons c tail inductionHypothesis =>
      have sameNext : startsWord previous (tail ++ separator :: rest).head? =
          startsWord previous tail.head? := by
        cases tail with
        | nil => simp [startsWord, isSeparator.isLowercase]
        | cons next _ => rfl
      rw [List.cons_append, wordsFrom, wordsFrom, sameNext]
      split
      · rw [inductionHypothesis, List.append_assoc]
      · split
        · rw [inductionHypothesis, List.cons_append]
        · rw [inductionHypothesis]

/-- The words of joined texts are the words of each. -/
theorem words_join {separator : Char} (isSeparator : IsSeparator separator)
    (texts : List (List Char)) :
    words (join separator texts) = texts.flatMap (wordsFrom ' ' []) := by
  unfold words join
  rw [String.toList_ofList]
  induction texts with
  | nil => rfl
  | cons first others inductionHypothesis =>
      cases others with
      | nil => simp
      | cons second rest =>
          rw [List.intercalate_cons_cons, List.append_assoc, List.singleton_append,
            wordsFrom_append_separator isSeparator, inductionHypothesis]
          exact List.flatMap_cons.symm

/-! ## Words can be told from their join -/

/-- Only no words at all are joined to nothing. -/
theorem eq_nil_of_intercalate {separator : Char} {words : List (List Char)}
    (areWords : ∀ word ∈ words, IsWord word) (isNil : List.intercalate [separator] words = []) :
    words = [] := by
  cases words with
  | nil => rfl
  | cons first others =>
      have nonempty := (areWords first List.mem_cons_self).nonempty
      cases others with
      | nil =>
          rw [List.intercalate_singleton] at isNil
          contradiction
      | cons second rest => simp [List.intercalate_cons_cons, nonempty] at isNil

/-- Joined words can be taken apart in one way only. -/
theorem join_inj {separator : Char} (isSeparator : IsSeparator separator)
    {left right : List (List Char)} (leftWords : ∀ word ∈ left, IsWord word)
    (rightWords : ∀ word ∈ right, IsWord word) :
    join separator left = join separator right ↔ left = right := by
  refine ⟨fun sameText => ?_, fun same => by rw [same]⟩
  have same : List.intercalate [separator] left = List.intercalate [separator] right :=
    String.ofList_injective sameText
  -- no words are the one case that a cut at separators would not tell from an empty word
  by_cases leftNil : left = []
  · rw [leftNil, List.intercalate_nil] at same
    rw [leftNil, eq_nil_of_intercalate rightWords same.symm]
  by_cases rightNil : right = []
  · rw [rightNil, List.intercalate_nil] at same
    rw [rightNil, eq_nil_of_intercalate leftWords same]
  have apart : ∀ {words : List (List Char)}, (∀ word ∈ words, IsWord word) →
      ∀ word ∈ words, separator ∉ word := by
    intro words areWords word member
    exact (areWords word member).not_mem_separator isSeparator
  rw [← List.splitOn_intercalate separator (apart leftWords) leftNil, same,
    List.splitOn_intercalate separator (apart rightWords) rightNil]

end Name

/-! ## Forms -/

namespace NameStyle

open Name

/-- All styles but the exact one join words. -/
theorem exists_separator {style : NameStyle} (notExact : style ≠ .exact) :
    ∃ separator, IsSeparator separator ∧
      ∀ name, style.normalize name = join separator (words name) := by
  cases style with
  | kebab => exact ⟨'-', .inl rfl, fun _ => rfl⟩
  | snake => exact ⟨'_', .inr rfl, fun _ => rfl⟩
  | exact => contradiction

/-- Two names have the same form exactly when they have the same words. -/
theorem normalize_eq_iff {style : NameStyle} (notExact : style ≠ .exact) {left right : String} :
    style.normalize left = style.normalize right ↔ words left = words right := by
  obtain ⟨separator, isSeparator, normalizes⟩ := exists_separator notExact
  rw [normalizes, normalizes]
  exact join_inj isSeparator (fun _ => isWord_of_mem_words) (fun _ => isWord_of_mem_words)

end NameStyle

/-! ## Fields -/

namespace Record

variable {F : Type} {record : Record F} {style : NameStyle}

theorem indexOf?_of_normalize {key other : String}
    (sameForm : style.normalize key = style.normalize other) :
    record.indexOf? style key = record.indexOf? style other := by
  rw [indexOf?, indexOf?, sameForm]

/-- A key finds the first field with its form. -/
theorem indexOf?_of_first {index : Nat} {name key : String}
    (found : record.names[index]? = some name)
    (sameForm : style.normalize name = style.normalize key)
    (isFirst : ∀ earlier < index, ∀ other, record.names[earlier]? = some other →
      style.normalize other ≠ style.normalize key) :
    record.indexOf? style key = some index := by
  obtain ⟨inRange, isName⟩ := List.getElem?_eq_some_iff.1 found
  rw [indexOf?, List.findIdx?_eq_some_iff_getElem]
  refine ⟨inRange, ?_, ?_⟩
  · rw [isName]
    exact beq_iff_eq.2 sameForm
  · intro earlier before
    rw [Bool.not_eq_true, beq_eq_false_iff_ne]
    exact isFirst earlier before _ (List.getElem?_eq_getElem (Nat.lt_trans before inRange))

/-- A name finds its own field when no two names are compared as equal. -/
theorem indexOf?_of_nodup (distinct : (record.names.map style.normalize).Nodup) {index : Nat}
    {name : String} (found : record.names[index]? = some name) :
    record.indexOf? style name = some index := by
  apply indexOf?_of_first found rfl
  intro earlier before other otherFound sameForm
  obtain ⟨inRange, isName⟩ := List.getElem?_eq_some_iff.1 found
  have different := List.pairwise_iff_getElem.1 distinct earlier index (by simp; omega)
    (by simpa using inRange) before
  obtain ⟨otherInRange, isOther⟩ := List.getElem?_eq_some_iff.1 otherFound
  rw [List.getElem_map, List.getElem_map, isOther, isName] at different
  exact different sameForm

end Record

end RecordTags
