import RecordTags.Field.Cell
import RecordTags.Proofs.Name.Words

/-!
Contract: the conventional spellings of a name address the same field.

Owns:
- `Spelling`, the four ways to write a list of words as one name;
- `PlainWords`, words of small ASCII letters and digits that every spelling keeps
  apart;
- that the words of every spelling are the words that were written, and that keys
  and declared names may be spelled differently.

A capital starts a word behind a small letter or a digit. Where capitals mark
the words, a word of one letter would leave two capitals side by side; so only
the last word may be that short.
-/

namespace RecordTags

open Text

/-! ## Spellings -/

/-- The ways to write words as one name. -/
inductive Spelling where
  /-- Joined by `-`. -/
  | kebab
  /-- Joined by `_`. -/
  | snake
  /-- A capital for every word but the first. -/
  | camel
  /-- A capital for every word. -/
  | pascal
deriving DecidableEq, Repr

namespace Name

def capitalized : List Char → List Char
  | [] => []
  | first :: rest => first.toUpper :: rest

def capitals (words : List (List Char)) : List Char := (words.map capitalized).flatten

end Name

/-- The name that words have in a spelling. -/
def Spelling.spell : Spelling → List (List Char) → String
  | kebab, words => Name.join '-' words
  | snake, words => Name.join '_' words
  | camel, [] => ""
  | camel, first :: rest => String.ofList (first ++ Name.capitals rest)
  | pascal, words => String.ofList (Name.capitals words)

namespace Name

def isSmallLetter (c : Char) : Bool := 'a' ≤ c && c ≤ 'z'

def isPlain (c : Char) : Bool := isSmallLetter c || isAsciiDigit c

/-- A small letter, and then small letters and digits. -/
def IsPlainWord : List Char → Prop
  | [] => False
  | first :: rest => isSmallLetter first = true ∧ ∀ c ∈ rest, isPlain c = true

/-- Plain words, of which only the last may be a single letter. -/
structure PlainWords (words : List (List Char)) : Prop where
  plain : ∀ word ∈ words, IsPlainWord word
  long : ∀ word ∈ words.dropLast, 2 ≤ word.length

theorem PlainWords.tail {first : List Char} {others : List (List Char)}
    (words : PlainWords (first :: others)) : PlainWords others where
  plain word member := words.plain word (List.mem_cons_of_mem first member)
  long word member := by
    cases others with
    | nil => contradiction
    | cons second rest => exact words.long word (List.mem_cons_of_mem first member)

/-! ## Plain characters -/

theorem lt_of_isPlain {c : Char} (plain : isPlain c = true) : c.toNat < 128 := by
  simp only [isPlain, isSmallLetter, isAsciiDigit, Bool.or_eq_true, Bool.and_eq_true,
    decide_eq_true_eq] at plain
  rcases plain with ⟨-, upper⟩ | ⟨-, upper⟩
  · exact Nat.lt_of_le_of_lt (show c.toNat ≤ 122 from upper) (by decide)
  · exact Nat.lt_of_le_of_lt (show c.toNat ≤ 57 from upper) (by decide)

/-- A plain character stands inside a word, and words may end with it. -/
structure Continues (c : Char) : Prop where
  notBreak : isBreak c = false
  notCapital : isUppercase c = false
  lowered : toLowercase c = [c]
  ends : (isLowercase c || isNumeric c) = true

/-- A plain character goes on with a word. -/
theorem continues_of_isPlain {c : Char} (plain : isPlain c = true) : Continues c := by
  have known : ∀ codePoint < 128, isPlain (Char.ofNat codePoint) = true →
      isBreak (Char.ofNat codePoint) = false ∧ isUppercase (Char.ofNat codePoint) = false ∧
        toLowercase (Char.ofNat codePoint) = [Char.ofNat codePoint] ∧
        (isLowercase (Char.ofNat codePoint) || isNumeric (Char.ofNat codePoint)) = true := by
    decide +kernel
  have facts := known c.toNat (lt_of_isPlain plain)
  rw [Char.ofNat_toNat] at facts
  obtain ⟨notBreak, notCapital, lowered, ends⟩ := facts plain
  exact ⟨notBreak, notCapital, lowered, ends⟩

theorem isPlain_of_isSmallLetter {c : Char} (isSmall : isSmallLetter c = true) :
    isPlain c = true := by
  rw [isPlain, isSmall, Bool.true_or]

/-- The capital of a small letter is lowered to it. -/
theorem toUpper_of_isSmallLetter {c : Char} (isSmall : isSmallLetter c = true) :
    isBreak c.toUpper = false ∧ isUppercase c.toUpper = true ∧ toLowercase c.toUpper = [c] := by
  have known : ∀ codePoint < 128, isSmallLetter (Char.ofNat codePoint) = true →
      isBreak (Char.ofNat codePoint).toUpper = false ∧
        isUppercase (Char.ofNat codePoint).toUpper = true ∧
        toLowercase (Char.ofNat codePoint).toUpper = [Char.ofNat codePoint] := by
    decide +kernel
  have facts := known c.toNat (lt_of_isPlain (isPlain_of_isSmallLetter isSmall))
  rw [Char.ofNat_toNat] at facts
  exact facts isSmall

/-! ## Reading words back -/

/-- Plain characters go on with the word. -/
theorem wordsFrom_plain {run : List Char} (plain : ∀ c ∈ run, isPlain c = true) (previous : Char)
    (current rest : List Char) :
    wordsFrom previous current (run ++ rest) =
      wordsFrom (run.getLastD previous) (current ++ run) rest := by
  induction run generalizing previous current with
  | nil => simp
  | cons c tail inductionHypothesis =>
      obtain ⟨plainFirst, plainTail⟩ := List.forall_mem_cons.1 plain
      have continues := continues_of_isPlain plainFirst
      have goesOn : (isUppercase c && startsWord previous (tail ++ rest).head?) = false := by
        rw [continues.notCapital, Bool.false_and]
      rw [List.cons_append, wordsFrom_of_goesOn continues.notBreak goesOn, continues.lowered,
        inductionHypothesis plainTail, List.append_assoc, List.singleton_append,
        List.getLastD_cons]

theorem wordsFrom_end {current : List Char} (started : current ≠ []) (previous : Char) :
    wordsFrom previous current [] = [current] := by
  simp [wordsFrom, finished, started]

theorem IsPlainWord.ne_nil {word : List Char} (plain : IsPlainWord word) : word ≠ [] := by
  rintro rfl
  exact plain

theorem IsPlainWord.forall_isPlain {word : List Char} (plain : IsPlainWord word) :
    ∀ c ∈ word, isPlain c = true := by
  cases word with
  | nil => exact absurd rfl plain.ne_nil
  | cons first rest =>
      exact List.forall_mem_cons.2 ⟨isPlain_of_isSmallLetter plain.1, plain.2⟩

/-- A capital may follow the last of plain characters. -/
theorem startsWord_getLastD {run : List Char} (plain : ∀ c ∈ run, isPlain c = true)
    (nonempty : run ≠ []) (previous : Char) (next : Option Char) :
    startsWord (run.getLastD previous) next = true := by
  have isLast : run.getLastD previous ∈ run := by
    rw [List.getLastD_eq_getLast?, List.getLast?_eq_some_getLast nonempty]
    exact List.getLast_mem nonempty
  have continues := continues_of_isPlain (plain _ isLast)
  rw [startsWord, continues.ends, Bool.true_or]

/-- A capital ends the word before it, if there is one and a capital may follow it. -/
theorem wordsFrom_of_capital {previous c : Char} {current rest : List Char}
    (notBreak : isBreak c = false) (isCapital : isUppercase c = true)
    (starts : current = [] ∨ startsWord previous rest.head? = true) :
    wordsFrom previous current (c :: rest) =
      finished current ++ wordsFrom c (toLowercase c) rest := by
  by_cases started : current = []
  · rw [started, wordsFrom_of_first notBreak]
    rfl
  · rw [wordsFrom_of_startsWord notBreak isCapital started (starts.resolve_left started)]
    simp [finished, started]

/-- Words with capitals are read back, behind nothing or a word that a capital may follow. -/
theorem wordsFrom_capitals {words : List (List Char)} (plain : PlainWords words)
    {previous : Char} {current : List Char}
    (starts : words ≠ [] → current = [] ∨ ∀ next, startsWord previous next = true) :
    wordsFrom previous current (capitals words) = finished current ++ words := by
  induction words generalizing previous current with
  | nil => simp [capitals, wordsFrom]
  | cons word others inductionHypothesis =>
      have plainWord := plain.plain word List.mem_cons_self
      cases word with
      | nil => exact absurd rfl plainWord.ne_nil
      | cons first tail =>
          obtain ⟨notBreak, isCapital, lowered⟩ := toUpper_of_isSmallLetter plainWord.1
          have split : capitals ((first :: tail) :: others) =
              first.toUpper :: (tail ++ capitals others) := rfl
          have startsHere := (starts (List.cons_ne_nil _ _)).imp_right fun follows =>
            follows (tail ++ capitals others).head?
          -- the next capital follows this word's last character, which is not its capital
          have startsNext : others ≠ [] → [first] ++ tail = [] ∨
              ∀ next, startsWord (tail.getLastD first.toUpper) next = true := by
            intro notLast
            obtain ⟨second, rest, rfl⟩ := List.exists_cons_of_ne_nil notLast
            have atLeastTwo := plain.long (first :: tail) List.mem_cons_self
            right
            apply startsWord_getLastD plainWord.2
            rintro rfl
            contradiction
          rw [split, wordsFrom_of_capital notBreak isCapital startsHere, lowered,
            wordsFrom_plain plainWord.2, inductionHypothesis plain.tail startsNext]
          rfl

theorem PlainWords.flatMap_wordsFrom {words : List (List Char)} (plain : PlainWords words) :
    words.flatMap (wordsFrom ' ' []) = words := by
  have whole : ∀ word ∈ words, wordsFrom ' ' [] word = [word] := by
    intro word member
    have plainWord := plain.plain word member
    rw [← List.append_nil word, wordsFrom_plain plainWord.forall_isPlain, List.nil_append,
      wordsFrom_end plainWord.ne_nil, List.append_nil]
  rw [List.flatMap_congr whole]
  exact List.flatMap_singleton' words

end Name

namespace Spelling

open Name

/-- The words of every spelling are the words that were written. -/
theorem words_spell {words : List (List Char)} (plain : PlainWords words) (spelling : Spelling) :
    Name.words (spelling.spell words) = words := by
  cases spelling with
  | kebab => exact (words_join (.inl rfl) words).trans plain.flatMap_wordsFrom
  | snake => exact (words_join (.inr rfl) words).trans plain.flatMap_wordsFrom
  | pascal =>
      rw [spell, Name.words, String.toList_ofList, wordsFrom_capitals plain fun _ => .inl rfl]
      rfl
  | camel =>
      cases words with
      | nil => rfl
      | cons first others =>
          have plainFirst := plain.plain first List.mem_cons_self
          have starts : ∀ next, startsWord (first.getLastD ' ') next = true :=
            startsWord_getLastD plainFirst.forall_isPlain plainFirst.ne_nil ' '
          rw [spell, Name.words, String.toList_ofList, wordsFrom_plain plainFirst.forall_isPlain,
            List.nil_append, wordsFrom_capitals plain.tail fun _ => .inr starts]
          simp [finished, plainFirst.ne_nil]

end Spelling

/-! ## Fields -/

namespace Record

variable {F : Type}

/-- The record with another name at an index. The field stays. -/
def renamed (record : Record F) (index : Nat) (name : String) : Record F :=
  { fields := record.fields.modify index fun (_, field) => (name, field) }

/-- Renaming a field changes one name. -/
theorem names_renamed (record : Record F) (index : Nat) (name : String) :
    (record.renamed index name).names = record.names.set index name := by
  apply List.ext_getElem?
  intro position
  simp only [renamed, names, List.getElem?_map, List.getElem?_modify, List.getElem?_set,
    List.length_map]
  by_cases same : index = position
  · subst same
    cases found : record.fields[index]? with
    | none => simp [Nat.not_lt.2 (List.getElem?_eq_none_iff.1 found)]
    | some entry => simp [(List.getElem?_eq_some_iff.1 found).1]
  · simp [same]

variable {record : Record F} {style : NameStyle} {index : Nat}

/-- A declared name may be replaced by one with the same form. -/
theorem indexOf?_renamed {name other : String}
    (sameForm : style.normalize name = style.normalize other) (key : String) :
    (record.renamed index name).indexOf? style key =
      (record.renamed index other).indexOf? style key := by
  have byForm : ∀ declared : Record F, declared.indexOf? style key =
      (declared.names.map style.normalize).findIdx? (· == style.normalize key) := by
    intro declared
    rw [indexOf?, List.findIdx?_map]
    rfl
  rw [byForm, byForm, names_renamed, names_renamed, List.map_set, List.map_set, sameForm]

theorem name_renamed (inRange : index < record.count) (name : String) :
    (record.renamed index name).names[index]? = some name := by
  rw [names_renamed, List.getElem?_set_self]
  rw [names, List.length_map]
  exact inRange

/-- A key with the form of a declared name finds that name or an earlier one. -/
theorem exists_indexOf?_renamed (inRange : index < record.count) {name key : String}
    (sameForm : style.normalize name = style.normalize key) :
    ∃ position ≤ index, (record.renamed index name).indexOf? style key = some position := by
  obtain ⟨below, isName⟩ := List.getElem?_eq_some_iff.1 (name_renamed inRange name)
  have answers : (style.normalize (record.renamed index name).names[index] ==
      style.normalize key) = true := by
    rw [isName]
    exact beq_iff_eq.2 sameForm
  cases found : (record.renamed index name).indexOf? style key with
  | none =>
      have noAnswer := List.findIdx?_eq_none_iff.1 found _ (List.getElem_mem below)
      rw [answers] at noAnswer
      contradiction
  | some position =>
      refine ⟨position, ?_, rfl⟩
      obtain ⟨_, _, noEarlier⟩ := List.findIdx?_eq_some_iff_getElem.1 found
      by_contra behind
      exact noEarlier index (Nat.lt_of_not_le behind) answers

end Record

/-- Every spelling of plain words has these words, so in the styles that join words all spellings
have one form. A key in any spelling finds the same field, in whichever spelling the field is
declared; and it is that field, unless an earlier one has the same words. -/
theorem Spelling.spellings_agree {words : List (List Char)} (plain : Name.PlainWords words) :
    (∀ spelling : Spelling, Name.words (spelling.spell words) = words) ∧
      ∀ style : NameStyle, style ≠ .exact →
        (∀ spelling other : Spelling,
            style.normalize (spelling.spell words) = style.normalize (other.spell words)) ∧
          ∀ {F : Type} (record : Record F),
            (∀ spelling other : Spelling, record.indexOf? style (spelling.spell words) =
              record.indexOf? style (other.spell words)) ∧
            ∀ index < record.count, ∃ position ≤ index,
              (∀ declared key : Spelling,
                (record.renamed index (declared.spell words)).indexOf? style (key.spell words) =
                  some position) ∧
              ((∀ earlier < index, ∀ name, record.names[earlier]? = some name →
                Name.words name ≠ words) → position = index) := by
  refine ⟨words_spell plain, fun style notExact => ?_⟩
  have sameForm : ∀ spelling other : Spelling,
      style.normalize (spelling.spell words) = style.normalize (other.spell words) := by
    intro spelling other
    rw [NameStyle.normalize_eq_iff notExact, words_spell plain, words_spell plain]
  refine ⟨sameForm, fun {F} record => ⟨?_, ?_⟩⟩
  · intro spelling other
    exact Record.indexOf?_of_normalize (sameForm spelling other)
  · intro index inRange
    obtain ⟨position, atMost, found⟩ :=
      Record.exists_indexOf?_renamed inRange (sameForm .kebab .kebab)
    have sameIndex : ∀ declared key : Spelling,
        (record.renamed index (declared.spell words)).indexOf? style (key.spell words) =
          some position := by
      intro declared key
      rw [Record.indexOf?_renamed (sameForm declared .kebab),
        Record.indexOf?_of_normalize (sameForm key .kebab), found]
    refine ⟨position, atMost, sameIndex, fun noEarlier => ?_⟩
    have own := Record.indexOf?_of_first (Record.name_renamed inRange (spell .kebab words))
      (sameForm .kebab .kebab) (by
        intro earlier before name isName
        rw [Record.names_renamed, List.getElem?_set_ne (Nat.ne_of_gt before)] at isName
        rw [Ne, NameStyle.normalize_eq_iff notExact, words_spell plain]
        exact noEarlier earlier before name isName)
    rw [found, Option.some.injEq] at own
    exact own

/-- Words with a digit, and a last one of one letter. -/
def portWords : List (List Char) := ["http2".toList, "port".toList, "x".toList]

def flagAndPort : Record Cell :=
  { fields := [("verbose", .zero .bool), ("port", .zero .uint)] }

theorem spellings_agree_port :
    [Spelling.kebab, .snake, .camel, .pascal].map (Spelling.spell · portWords) =
        ["http2-port-x", "http2_port_x", "http2PortX", "Http2PortX"] ∧
      Name.PlainWords portWords ∧
      ∀ declared key : Spelling,
        (flagAndPort.renamed 1 (declared.spell portWords)).indexOf? .kebab (key.spell portWords) =
          some 1 := by
  have plain : Name.PlainWords portWords := by
    refine ⟨?_, by decide⟩
    intro word member
    simp only [portWords, List.mem_cons, List.not_mem_nil, or_false] at member
    rcases member with rfl | rfl | rfl
    · exact ⟨rfl, by decide⟩
    · exact ⟨rfl, by decide⟩
    · exact ⟨rfl, by decide⟩
  obtain ⟨position, -, sameIndex, own⟩ :=
    ((Spelling.spellings_agree plain).2 .kebab (by decide)).2 flagAndPort |>.2 1 (by decide)
  obtain rfl : position = 1 := by
    apply own
    intro earlier before name isName
    obtain rfl : earlier = 0 := by omega
    cases isName
    decide +kernel
  exact ⟨by decide +kernel, plain, sameIndex⟩

end RecordTags
