import Mathlib.Data.List.Basic
import Mathlib.Data.List.TakeWhile
import RecordTags.Field.Type

/-!
Contract: the grammar of field types, and the reader of types as its recognizer.

The reader takes a text apart from both ends at once: it trims, takes off the
sign of an optional type or the brackets of a sequence type, and trims again. The
grammar says nothing about the ends: a type stands between blanks, and its parts
are types. The two meet in `trim`, which reads any two texts alike that differ in
the blanks around them.

Owns:
- what `trim` takes away, and when it takes away nothing;
- the grammar, and that the reader accepts its texts and no others;
- that the text of a type is its only spelling without blanks.

Does not own: which part of a text without meaning is reported.
-/

namespace RecordTags

open RecordTags.Text

/-! ## Blanks around a text -/

namespace Text

def Blank (text : List Char) : Prop := ∀ c ∈ text, isWhiteSpace c = true

theorem trimEnd_append_blank (text : List Char) {blanks : List Char} (isBlank : Blank blanks) :
    trimEnd (text ++ blanks) = trimEnd text := by
  have reversed : ∀ c ∈ blanks.reverse, isWhiteSpace c = true := fun c member =>
    isBlank c (List.mem_reverse.mp member)
  unfold trimEnd
  rw [List.reverse_append, List.dropWhile_append_of_pos reversed]

theorem trimEnd_append_of_not_blank (text : List Char) {last : Char}
    (isInk : isWhiteSpace last = false) : trimEnd (text ++ [last]) = text ++ [last] := by
  unfold trimEnd
  rw [List.reverse_append, List.reverse_singleton, List.singleton_append,
    List.dropWhile_cons_of_neg (by simp [isInk])]
  simp

theorem trimEnd_cons_of_not_blank {first : Char} (isInk : isWhiteSpace first = false)
    (text : List Char) : trimEnd (first :: text) = first :: trimEnd text := by
  unfold trimEnd
  rw [List.reverse_cons, List.dropWhile_append]
  split
  · rename_i isEmpty
    rw [List.isEmpty_iff.mp isEmpty, List.dropWhile_cons_of_neg (by simp [isInk])]
    rfl
  · rw [List.reverse_append, List.reverse_singleton, List.singleton_append]

/-- A text ends in the blanks that `trimEnd` takes away. -/
theorem exists_blank_end (text : List Char) :
    ∃ blanks, Blank blanks ∧ text = trimEnd text ++ blanks := by
  refine ⟨(text.reverse.takeWhile isWhiteSpace).reverse, ?_, ?_⟩
  · intro c member
    exact List.mem_takeWhile_imp (List.mem_reverse.mp member)
  · unfold trimEnd
    rw [← List.reverse_append, List.takeWhile_append_dropWhile, List.reverse_reverse]

theorem trim_blank_append {blanks : List Char} (isBlank : Blank blanks) (text : List Char) :
    trim (blanks ++ text) = trim text := by
  unfold trim
  rw [List.dropWhile_append_of_pos isBlank]

theorem dropWhile_cons_of_not_blank {first : Char} (isInk : isWhiteSpace first = false)
    (rest : List Char) : (first :: rest).dropWhile isWhiteSpace = first :: rest :=
  List.dropWhile_cons_of_neg (by simp [isInk])

/-- Blanks behind a text are taken away, also where the text itself is blank. -/
theorem trim_append_blank (text : List Char) {blanks : List Char} (isBlank : Blank blanks) :
    trim (text ++ blanks) = trim text := by
  have hasBlankStart : Blank (text.takeWhile isWhiteSpace) := fun _ => List.mem_takeWhile_imp
  have whole : text = text.takeWhile isWhiteSpace ++ text.dropWhile isWhiteSpace :=
    List.takeWhile_append_dropWhile.symm
  generalize text.takeWhile isWhiteSpace = start at hasBlankStart whole
  have starts : ∀ first rest, text.dropWhile isWhiteSpace = first :: rest →
      isWhiteSpace first = false := by
    intro first rest isRest
    have headFails := List.head?_dropWhile_not isWhiteSpace text
    rw [isRest] at headFails
    simpa using headFails
  generalize text.dropWhile isWhiteSpace = ink at whole starts
  subst whole
  rw [List.append_assoc, trim_blank_append hasBlankStart, trim_blank_append hasBlankStart]
  cases ink with
  | nil =>
    have onlyBlanks := trim_blank_append isBlank []
    rwa [List.append_nil] at onlyBlanks
  | cons first rest =>
    have isInk := starts first rest rfl
    unfold trim
    rw [List.cons_append, dropWhile_cons_of_not_blank isInk, dropWhile_cons_of_not_blank isInk,
      ← List.cons_append, trimEnd_append_blank _ isBlank]

theorem trim_surrounded {left right : List Char} (isLeft : Blank left) (isRight : Blank right)
    (text : List Char) : trim (left ++ text ++ right) = trim text := by
  rw [trim_append_blank _ isRight, trim_blank_append isLeft]

/-- A text is what `trim` leaves of it, between blanks. -/
theorem exists_surrounded (text : List Char) :
    ∃ left right, Blank left ∧ Blank right ∧ text = left ++ trim text ++ right := by
  obtain ⟨right, isRight, isText⟩ := exists_blank_end (text.dropWhile isWhiteSpace)
  refine ⟨text.takeWhile isWhiteSpace, right, fun _ => List.mem_takeWhile_imp, isRight, ?_⟩
  have whole : text.takeWhile isWhiteSpace ++ text.dropWhile isWhiteSpace = text :=
    List.takeWhile_append_dropWhile
  rw [isText] at whole
  rw [trim, List.append_assoc, whole]

theorem trim_eq_self {first last : Char} (isFirst : isWhiteSpace first = false)
    (isLast : isWhiteSpace last = false) (middle : List Char) :
    trim (first :: middle ++ [last]) = first :: middle ++ [last] := by
  unfold trim
  rw [List.cons_append, dropWhile_cons_of_not_blank isFirst, ← List.cons_append,
    trimEnd_append_of_not_blank _ isLast]

end Text

/-! ## The grammar -/

namespace FieldType

/-- The words for the types without parts. -/
def words : List (List Char × FieldType) :=
  [("bool".toList, bool), ("int".toList, int), ("uint".toList, uint), ("float".toList, float),
    ("string".toList, string)]

/-- The text spells the type: a word, `?` and a type, or a type in brackets, with
blanks around it. -/
inductive Spelling : List Char → FieldType → Prop where
  | word {left right word : List Char} {type : FieldType} (isLeft : Blank left)
      (isRight : Blank right) (isWord : (word, type) ∈ words) :
      Spelling (left ++ word ++ right) type
  | optional {left right inner : List Char} {type : FieldType} (isLeft : Blank left)
      (isRight : Blank right) (isInner : Spelling inner type) :
      Spelling (left ++ ('?' :: inner) ++ right) (.optional type)
  | sequence {left right element : List Char} {type : FieldType} (isLeft : Blank left)
      (isRight : Blank right) (isElement : Spelling element type) :
      Spelling (left ++ ('[' :: element ++ [']']) ++ right) (.sequence type)

/-- The reader looks at a text only after trimming it. -/
theorem ofChars_eq (text : List Char) :
    ofChars text = match trim text with
      | '?' :: inner => (ofChars inner).map optional
      | '[' :: rest =>
        if rest.getLast? == some ']' then (ofChars rest.dropLast).map sequence
        else ofName ('[' :: rest)
      | name => ofName name := by
  rw [ofChars]
  split <;> simp_all

theorem ofChars_congr {text other : List Char} (same : trim text = trim other) :
    ofChars text = ofChars other := by
  rw [ofChars_eq text, ofChars_eq other, same]

theorem scalar_mem_words : ∀ type ∈ scalars, (type.chars, type) ∈ words := by decide

theorem find?_word : ∀ entry ∈ words, scalars.find? (·.chars == entry.1) = some entry.2 := by
  decide

/-- The names that denote types are the words. -/
theorem ofName_eq_ok_iff {name : List Char} {type : FieldType} :
    ofName name = .ok type ↔ (name, type) ∈ words := by
  unfold ofName
  constructor
  · intro isRead
    split at isRead
    · rename_i found isFound
      cases isRead
      have isName : type.chars = name := by simpa using List.find?_some isFound
      have isWord := scalar_mem_words type (List.mem_of_find?_eq_some isFound)
      rwa [isName] at isWord
    · cases isRead
  · intro isWord
    rw [find?_word _ isWord]

theorem trim_word : ∀ entry ∈ words, trim entry.1 = entry.1 := by decide

theorem ofChars_word {left right word : List Char} {type : FieldType} (isLeft : Blank left)
    (isRight : Blank right) (isWord : (word, type) ∈ words) :
    ofChars (left ++ word ++ right) = .ok type := by
  have isName := ofName_eq_ok_iff.mpr isWord
  rw [ofChars_eq, trim_surrounded isLeft isRight, trim_word _ isWord]
  simp only [words, List.mem_cons, Prod.mk.injEq, List.not_mem_nil, or_false] at isWord
  rcases isWord with ⟨rfl, -⟩ | ⟨rfl, -⟩ | ⟨rfl, -⟩ | ⟨rfl, -⟩ | ⟨rfl, -⟩ <;> exact isName

/-- Blanks behind the part of an optional type may belong to the part or to the whole:
both are trimmed. -/
theorem ofChars_optional {left right : List Char} (isLeft : Blank left) (isRight : Blank right)
    (inner : List Char) :
    ofChars (left ++ ('?' :: inner) ++ right) = (ofChars inner).map optional := by
  have isTrimmed : trim ('?' :: inner) = '?' :: trimEnd inner := by
    unfold trim
    rw [dropWhile_cons_of_not_blank (by decide), trimEnd_cons_of_not_blank (by decide)]
  have sameInner : ofChars (trimEnd inner) = ofChars inner := by
    apply ofChars_congr
    obtain ⟨blanks, isBlank, isInner⟩ := exists_blank_end inner
    have sameTrimmed := trim_append_blank (trimEnd inner) isBlank
    rw [← isInner] at sameTrimmed
    exact sameTrimmed.symm
  rw [ofChars_eq, trim_surrounded isLeft isRight, isTrimmed, ← sameInner]
  rfl

theorem ofChars_sequence {left right : List Char} (isLeft : Blank left) (isRight : Blank right)
    (element : List Char) :
    ofChars (left ++ ('[' :: element ++ [']']) ++ right) = (ofChars element).map sequence := by
  rw [ofChars_eq, trim_surrounded isLeft isRight, trim_eq_self (by decide) (by decide)]
  simp

/-- A spelling is read as its type. -/
theorem ofChars_of_spelling {text : List Char} {type : FieldType} (spelled : Spelling text type) :
    ofChars text = .ok type := by
  induction spelled with
  | word isLeft isRight isWord => exact ofChars_word isLeft isRight isWord
  | optional isLeft isRight isInner inductionHypothesis =>
    rw [ofChars_optional isLeft isRight, inductionHypothesis]
    rfl
  | sequence isLeft isRight isElement inductionHypothesis =>
    rw [ofChars_sequence isLeft isRight, inductionHypothesis]
    rfl

/-- What the reader takes apart, the grammar puts together. -/
theorem spelling_of_ofChars {text : List Char} {type : FieldType}
    (isRead : ofChars text = .ok type) : Spelling text type := by
  obtain ⟨left, right, isLeft, isRight, isText⟩ := exists_surrounded text
  fun_induction ofChars text generalizing type left right with
  | case1 text inner trimmed shorter inductionHypothesis =>
    rw [trimmed] at isText
    cases isInner : ofChars inner with
    | error part => rw [isInner] at isRead; cases isRead
    | ok innerType =>
      rw [isInner] at isRead
      cases isRead
      obtain ⟨innerLeft, innerRight, isInnerLeft, isInnerRight, isInnerText⟩ :=
        exists_surrounded inner
      rw [isText]
      exact .optional isLeft isRight
        (inductionHypothesis isInner innerLeft innerRight isInnerLeft isInnerRight isInnerText)
  | case2 text rest trimmed closed shorter inductionHypothesis =>
    rw [trimmed] at isText
    cases isElement : ofChars rest.dropLast with
    | error part => rw [isElement] at isRead; cases isRead
    | ok elementType =>
      rw [isElement] at isRead
      cases isRead
      obtain ⟨innerLeft, innerRight, isInnerLeft, isInnerRight, isInnerText⟩ :=
        exists_surrounded rest.dropLast
      have isRest : rest.dropLast ++ [']'] = rest := by
        obtain ⟨front, isFront⟩ := List.getLast?_eq_some_iff.mp (by simpa using closed)
        rw [isFront, List.dropLast_concat]
      rw [isText, ← isRest, ← List.cons_append]
      exact .sequence isLeft isRight
        (inductionHypothesis isElement innerLeft innerRight isInnerLeft isInnerRight isInnerText)
  | case3 text rest trimmed notClosed =>
    rw [← trimmed] at isRead
    rw [isText]
    exact .word isLeft isRight (ofName_eq_ok_iff.mp isRead)
  | case4 text _ _ =>
    rw [isText]
    exact .word isLeft isRight (ofName_eq_ok_iff.mp isRead)

theorem ofChars_eq_ok_iff {text : List Char} {type : FieldType} :
    ofChars text = .ok type ↔ Spelling text type :=
  ⟨spelling_of_ofChars, ofChars_of_spelling⟩

theorem parse_eq_ok_iff {text : String} {type : FieldType} :
    parse text = .ok type ↔ Spelling text.toList type := by
  rw [← ofChars_eq_ok_iff, parse]
  cases ofChars text.toList with
  | error part => simp [Except.mapError]
  | ok found => simp [Except.mapError]

/-! ## The text of a type -/

/-- The text of a type spells it, with no blanks anywhere. -/
theorem spelling_chars (type : FieldType) : Spelling type.chars type := by
  have noBlank : Blank [] := by
    intro c member
    cases member
  have plain : ∀ {scalar : FieldType}, scalar ∈ scalars → Spelling scalar.chars scalar := by
    intro scalar isScalar
    have spelled := Spelling.word noBlank noBlank (scalar_mem_words scalar isScalar)
    rwa [List.nil_append, List.append_nil] at spelled
  induction type with
  | bool | int | uint | float | string => exact plain (by decide)
  | optional inner inductionHypothesis =>
    have spelled := Spelling.optional noBlank noBlank inductionHypothesis
    rwa [List.nil_append, List.append_nil] at spelled
  | sequence element inductionHypothesis =>
    have spelled := Spelling.sequence noBlank noBlank inductionHypothesis
    rwa [List.nil_append, List.append_nil] at spelled

/-- The characters of a text that are not white space. -/
def ink (text : List Char) : List Char := text.filter (!isWhiteSpace ·)

/-- Blanks around a text are no ink. -/
theorem ink_surrounded {left right : List Char} (isLeft : Blank left) (isRight : Blank right)
    (text : List Char) : ink (left ++ text ++ right) = ink text := by
  have gone : ∀ {blanks : List Char}, Blank blanks → ink blanks = [] := by
    intro blanks isBlank
    apply List.filter_eq_nil_iff.mpr
    intro c member
    simp [isBlank c member]
  unfold ink at gone ⊢
  rw [List.filter_append, List.filter_append, gone isLeft, gone isRight, List.nil_append,
    List.append_nil]

theorem ink_word : ∀ entry ∈ words, ink entry.1 = entry.2.chars := by decide

/-- A spelling is the text of its type with blanks put in. -/
theorem ink_of_spelling {text : List Char} {type : FieldType} (spelled : Spelling text type) :
    ink text = type.chars := by
  induction spelled with
  | word isLeft isRight isWord => rw [ink_surrounded isLeft isRight, ink_word _ isWord]
  | @optional left right inner type isLeft isRight _ inductionHypothesis =>
    have signStays : ink ('?' :: inner) = '?' :: ink inner :=
      List.filter_cons_of_pos (by decide)
    rw [ink_surrounded isLeft isRight, signStays, inductionHypothesis, chars]
  | @sequence left right element type isLeft isRight _ inductionHypothesis =>
    have bracketsStay : ink ('[' :: element ++ [']']) = '[' :: ink element ++ [']'] := by
      have closing : ink [']'] = [']'] := by decide
      unfold ink at closing ⊢
      rw [List.filter_append, List.filter_cons_of_pos (by decide), closing]
    rw [ink_surrounded isLeft isRight, bracketsStay, inductionHypothesis, chars]

/-- The reader accepts the grammar and nothing else. A text spells one type at
most, so the derivations of a text differ only in which part a blank belongs to.
Every type is read back from its text, and every spelling of a type is that text
with white space put in. -/
theorem types_spelled (text : String) (type : FieldType) :
    (parse text = .ok type ↔ Spelling text.toList type) ∧
      (∀ other, Spelling text.toList type → Spelling text.toList other → other = type) ∧
      parse type.render = .ok type ∧
      (parse text = .ok type →
        type.render = String.ofList (text.toList.filter (!isWhiteSpace ·))) := by
  refine ⟨parse_eq_ok_iff, ?_, ?_, ?_⟩
  · intro other spelled spelledOther
    have isRead := ofChars_of_spelling spelled
    have isReadOther := ofChars_of_spelling spelledOther
    rw [isRead] at isReadOther
    exact (Except.ok.inj isReadOther).symm
  · apply parse_eq_ok_iff.mpr
    rw [render, String.toList_ofList]
    exact spelling_chars type
  · intro isRead
    have isText := ink_of_spelling (parse_eq_ok_iff.mp isRead)
    rw [render, ← isText, ink]

/-- An optional sequence of numbers with blanks of three kinds between its parts. -/
theorem types_spelled_optional_sequence :
    Spelling " ? [\tint\u3000] ".toList (.optional (.sequence .int)) ∧
      (FieldType.optional (.sequence .int)).render = "?[int]" := by
  have isRead : parse " ? [\tint\u3000] " = .ok (.optional (.sequence .int)) := by cbv
  have facts := types_spelled " ? [\tint\u3000] " (.optional (.sequence .int))
  exact ⟨facts.1.mp isRead, (facts.2.2.2 isRead).trans (by cbv)⟩

end FieldType

end RecordTags
