import RecordTags.Proofs.Field.Conforming
import RecordTags.Proofs.Number.Decimal
import RecordTags.Proofs.Tree.Image

/-!
Contract: the literals of values, and what writing them leaves.

Owns:
- quoting: a text between quotes, with a backslash in front of every backslash
  and of every quote of the same kind;
- `Cell.IsLiteral`, the canonical literals of a cell: a scalar, a scalar that is
  present, or at least two scalars of one type;
- that an assignment does not depend on where its value stands;
- that a literal is the text of a value that writes the cell into every field
  of its type.
-/

namespace RecordTags

open RecordTags.Text

/-! ## Quoting -/

/-- The text with a backslash in front of every backslash and every such quote. -/
def protect (quote : Char) : List Char → List Char
  | [] => []
  | c :: rest =>
    if c = '\\' ∨ c = quote then '\\' :: c :: protect quote rest else c :: protect quote rest

def quotedWith (quote : Char) (text : String) : List Char :=
  quote :: (protect quote text.toList ++ [quote])

/-- No quote in a protected text closes the literal. -/
theorem isQuoteTail_protect (quote : Char) (text : List Char) :
    IsQuoteTail quote (protect quote text ++ [quote]) := by
  induction text with
  | nil => exact .close
  | cons c rest inductionHypothesis =>
      rw [protect]
      by_cases special : c = '\\' ∨ c = quote
      · rw [if_pos special]
        exact .escaped c inductionHypothesis
      · rw [if_neg special]
        obtain ⟨notBackslash, notQuote⟩ := not_or.1 special
        exact .plain notBackslash notQuote inductionHypothesis

/-- Decoding takes the protecting backslashes away. -/
theorem Escape.decodeFrom_protect {quote : Char} (isQuote : IsQuote quote) (start : Nat)
    (text : List Char) : decodeFrom start (protect quote text) = .ok text := by
  induction text generalizing start with
  | nil => rw [protect, decodeFrom]
  | cons c rest inductionHypothesis =>
      rw [protect]
      by_cases special : c = '\\' ∨ c = quote
      · -- a backslash and both quotes mean themselves behind a backslash
        have meaning : letterMeaning? c = some c := by
          rcases special with rfl | rfl
          · rfl
          · rcases isQuote with rfl | rfl <;> rfl
        rw [if_pos special, decodeFrom.eq_def]
        simp only [bne_self_eq_false, Bool.false_eq_true, if_false, meaning, inductionHypothesis]
        rfl
      · have plain : (c != '\\') = true := bne_iff_ne.2 (not_or.1 special).1
        rw [if_neg special, decodeFrom.eq_def]
        simp only [if_pos plain, inductionHypothesis]
        rfl

theorem isQuoted_quotedWith {quote : Char} (isQuote : IsQuote quote) (text : String) :
    IsQuoted (quotedWith quote text) :=
  ⟨quote, _, rfl, isQuote, isQuoteTail_protect quote text.toList⟩

/-- A quoted text is read back. -/
theorem Escape.unquote_quotedWith {quote : Char} (isQuote : IsQuote quote) (start : Nat)
    (text : String) : unquote start (quotedWith quote text) = .ok text := by
  have inside : ((quotedWith quote text).drop 1).dropLast = protect quote text.toList := by
    rw [quotedWith, List.drop_one, List.tail_cons, List.dropLast_concat]
  rw [unquote, inside, decodeFrom_protect isQuote]
  simp [Except.map]

/-! ## Literals -/

namespace Cell

/-- The literals of a scalar. -/
inductive IsScalarLiteral : Cell → List Char → Prop where
  | bool (value : Bool) :
      IsScalarLiteral (.mk .bool (.bool value))
        (if value then ['t', 'r', 'u', 'e'] else ['f', 'a', 'l', 's', 'e'])
  | int (value : Int64) :
      IsScalarLiteral (.mk .int (.int value)) (decimalInt value.toInt).toList
  | uint (value : UInt64) :
      IsScalarLiteral (.mk .uint (.uint value)) (decimal value.toNat).toList
  | text (value : String) {quote : Char} (isQuote : IsQuote quote) :
      IsScalarLiteral (.mk .string (.text value)) (quotedWith quote value)

/-- The literals of a cell: those of a scalar, which may be in an optional cell, or those of at
least two elements with separators between them. -/
inductive IsLiteral : Cell → List Char → Prop where
  | scalar {cell : Cell} {literal : List Char} (scalar : cell.IsScalarLiteral literal) :
      IsLiteral cell literal
  | present {content : Cell} {literal : List Char} (scalar : content.IsScalarLiteral literal) :
      IsLiteral (.mk (.optional content.type) (.optional (some content))) literal
  | sequence {element : FieldType} {parts : List (Cell × List Char)} (several : 2 ≤ parts.length)
      (typed : ∀ part ∈ parts, part.1.type = element)
      (scalars : ∀ part ∈ parts, part.1.IsScalarLiteral part.2) :
      IsLiteral (.mk (.sequence element) (.sequence (parts.map Prod.fst)))
        (joinWith listSeparator (parts.map Prod.snd))

theorem IsScalarLiteral.conforms {cell : Cell} {literal : List Char}
    (scalar : cell.IsScalarLiteral literal) : cell.Conforms := by
  cases scalar with
  | bool value => exact .bool value
  | int value => exact .int value
  | uint value => exact .uint value
  | text value => exact .text value

theorem IsLiteral.conforms {cell : Cell} {literal : List Char}
    (isLiteral : cell.IsLiteral literal) : cell.Conforms := by
  cases isLiteral with
  | scalar scalar => exact scalar.conforms
  | present scalar => exact .present scalar.conforms
  | sequence several typed scalars =>
      refine .sequence ?_ ?_
      · exact List.forall_mem_map.2 typed
      · exact List.forall_mem_map.2 fun part member => (scalars part member).conforms

end Cell

/-! ## Positions -/

section

variable {F : Type} [Field F]

def Mismatch.mapSpans (f : Span → Span) (mismatch : Mismatch) : Mismatch :=
  { mismatch with value := mismatch.value.mapSpans f }

/-- The outcome of an attempt to write, with the spans of a refused value changed. -/
def Written.mapSpans (f : Span → Span) (written : Written F) : Written F :=
  { written with mismatch := written.mismatch.map (·.mapSpans f) }

theorem Written.ofResult_mapSpans (f : Span → Span) (value : Value) (field : F)
    (result : Except Refusal F) :
    Written.ofResult (value.mapSpans f) field result =
      (Written.ofResult value field result).mapSpans f := by
  cases result <;> rfl

theorem Value.isScalar_mapSpans {f : Span → Span} {value : Value} (scalar : value.IsScalar) :
    (value.mapSpans f).IsScalar := by
  cases value with
  | nil | slice => exact scalar.elim
  | bool | number | string | identifier | switch =>
      rw [Value.mapSpans]
      trivial

theorem Field.offer_mapSpans (f : Span → Span) (field : F) (value : Value) :
    Field.offer field (value.mapSpans f) = Field.offer field value := by
  have sameScalar : (value.mapSpans f).scalar? (Field.kind field) =
      value.scalar? (Field.kind field) := by
    cases value <;> rw [Value.mapSpans] <;> rfl
  rw [Field.offer, sameScalar, Field.offer]

theorem writeInside_mapSpans (f : Span → Span) (value : Value) {write moved : F → Written F}
    (same : ∀ field, moved field = (write field).mapSpans f) (layers : Nat) (field : F) :
    writeInside (value.mapSpans f) moved layers field =
      (writeInside value write layers field).mapSpans f := by
  induction layers generalizing field with
  | zero => exact same field
  | succ layers inductionHypothesis =>
      rw [writeInside, writeInside]
      split
      next => exact Written.ofResult_mapSpans f value field _
      next => rw [inductionHypothesis]; rfl

/-- Where values stand makes no difference to the fields, only to where a refused one stands. -/
theorem assignEach_mapSpans (f : Span → Span) {values : List Value}
    (same : ∀ value ∈ values, ∀ field : F,
      assign (value.mapSpans f) field = (assign value field).mapSpans f) (fields : List F) :
    assignEach (values.map (·.mapSpans f)) fields =
      ((assignEach values fields).1, (assignEach values fields).2.map (·.mapSpans f)) := by
  induction values generalizing fields with
  | nil => rw [List.map_nil, assignEach_nil]; rfl
  | cons value values inductionHypothesis =>
      obtain ⟨sameValue, sameValues⟩ := List.forall_mem_cons.1 same
      cases fields with
      | nil => rw [assignEach_fields_nil, assignEach_fields_nil]; rfl
      | cons field fields =>
          rw [List.map_cons, assignEach_cons, assignEach_cons, sameValue,
            inductionHypothesis sameValues]
          cases outcome : (assign value field).mismatch with
          | none | some mismatch =>
              simp only [Written.mapSpans, outcome]
              rfl

/-- An assignment depends on the position of its value only in what it reports. -/
theorem assign_mapSpans (f : Span → Span) (value : Value) (field : F) :
    assign (value.mapSpans f) field = (assign value field).mapSpans f := by
  induction value using Value.induct generalizing field with
  | nil span =>
      rw [Value.mapSpans, assign_nil, assign_nil]
      rfl
  | scalar value isScalar =>
      rw [assign_of_isScalar isScalar, assign_of_isScalar (Value.isScalar_mapSpans isScalar)]
      apply writeInside_mapSpans
      intro field
      rw [Field.offer_mapSpans, Written.ofResult_mapSpans]
  | slice values span inductionHypothesis =>
      have moved : (Value.slice values span).mapSpans f =
          .slice (values.map (·.mapSpans f)) (f span) := by
        rw [Value.mapSpans, mapElementSpans_eq_map]
      rw [moved, assign_slice, assign_slice, ← moved]
      apply writeInside_mapSpans
      intro field
      unfold writeElements
      rw [List.length_map]
      cases Field.newElements field values.length with
      | error refusal => rw [← moved]; exact Written.ofResult_mapSpans f _ field _
      | ok elements =>
          simp only [assignEach_mapSpans f inductionHypothesis]
          rfl

end

/-! ## What a literal writes -/

/-- Written into any field of the type of the cell, the value leaves the cell. -/
def Value.Writes (value : Value) (cell : Cell) : Prop :=
  ∀ field : Cell, field.Conforms → field.type = cell.type →
    assign value field = { field := cell, mismatch := none }

/-- Where a value stands makes no difference to what it writes. -/
theorem Value.writes_mapSpans {f : Span → Span} {value : Value} {cell : Cell} :
    (value.mapSpans f).Writes cell ↔ value.Writes cell := by
  have sameOutcome : ∀ field : Cell,
      assign (value.mapSpans f) field = { field := cell, mismatch := none } ↔
        assign value field = { field := cell, mismatch := none } := by
    intro field
    rw [assign_mapSpans]
    obtain ⟨written, mismatch⟩ := assign value field
    simp [Written.mapSpans]
  simp only [Value.Writes, sameOutcome]

/-- A scalar writes what the field stores of it. -/
theorem Value.writes_of_stores {value : Value} (isScalar : value.IsScalar) {cell : Cell}
    {scalar : Scalar} (notOptional : cell.type.layers = 0)
    (offers : value.scalar? cell.type.kind = some scalar)
    (stores : ∀ field : Cell, field.Conforms → field.type = cell.type →
      Field.store field scalar = .ok cell) : value.Writes cell := by
  intro field conforms sameType
  have noLayers : Field.layers field = 0 := by
    show field.type.layers = 0
    rw [sameType, notOptional]
  have sameKind : Field.kind field = cell.type.kind := congrArg FieldType.kind sameType
  rw [assign_of_isScalar isScalar, noLayers, writeInside, Field.offer, sameKind, offers]
  simp only [stores field conforms sameType, Written.ofResult]

/-- What writes the content writes the optional cell around it. -/
theorem Value.Writes.present {value : Value} (isScalar : value.IsScalar) {content : Cell}
    (writes : value.Writes content) :
    value.Writes (.mk (.optional content.type) (.optional (some content))) := by
  intro field conforms sameType
  have opened : ∃ held : Cell, Field.content field = .ok held ∧ held.Conforms ∧
      held.type = content.type := by
    cases conforms with
    | absent inner =>
        have sameInner : inner = content.type := FieldType.optional.inj sameType
        exact ⟨.zero inner, rfl, Cell.conforms_zero inner, sameInner⟩
    | @present held conforms =>
        exact ⟨held, rfl, conforms, FieldType.optional.inj sameType⟩
    | bool | int | uint | float | text | sequence => contradiction
  obtain ⟨held, isHeld, heldConforms, heldType⟩ := opened
  have layers : Field.layers field = Field.layers held + 1 := by
    show field.type.layers = held.type.layers + 1
    rw [sameType, heldType]
    rfl
  have inside := writes held heldConforms heldType
  rw [assign_of_isScalar isScalar] at inside
  rw [assign_of_isScalar isScalar, layers, writeInside, isHeld]
  simp only [inside]
  show Written.mk (Cell.mk field.type (.optional (some content))) none = _
  rw [sameType]
  rfl

/-- Values that each write a cell give the cells one by one. -/
theorem assignEach_of_writes {parts : List (Value × Cell)}
    (writes : ∀ part ∈ parts, part.1.Writes part.2) {element : FieldType}
    (typed : ∀ part ∈ parts, part.2.type = element) :
    assignEach (parts.map Prod.fst) (List.replicate parts.length (Cell.zero element)) =
      (parts.map Prod.snd, none) := by
  induction parts with
  | nil => exact assignEach_nil _
  | cons part rest inductionHypothesis =>
      obtain ⟨writesPart, writesRest⟩ := List.forall_mem_cons.1 writes
      obtain ⟨typedPart, typedRest⟩ := List.forall_mem_cons.1 typed
      have first := writesPart (.zero element) (Cell.conforms_zero element) typedPart.symm
      rw [List.map_cons, List.length_cons, List.replicate_succ, assignEach_cons, first,
        inductionHypothesis writesRest typedRest]
      rfl

/-- What writes the elements writes, as a slice, the sequence of them. -/
theorem Value.writes_slice {parts : List (Value × Cell)}
    (writes : ∀ part ∈ parts, part.1.Writes part.2) {element : FieldType}
    (typed : ∀ part ∈ parts, part.2.type = element) (span : Span) :
    (Value.slice (parts.map Prod.fst) span).Writes
      (.mk (.sequence element) (.sequence (parts.map Prod.snd))) := by
  intro field conforms sameType
  obtain ⟨type, content⟩ := field
  obtain rfl : type = .sequence element := sameType
  have opened : Field.newElements (Cell.mk (.sequence element) content)
      (parts.map Prod.fst).length = .ok (List.replicate parts.length (.zero element)) := by
    rw [List.length_map]
    rfl
  have noLayers : Field.layers (Cell.mk (.sequence element) content) = 0 := rfl
  rw [assign_slice, noLayers, writeInside, writeElements, opened]
  simp only [assignEach_of_writes writes typed]
  rfl

namespace Cell

/-- A scalar literal is the text of a simple value that writes the scalar. -/
theorem IsScalarLiteral.exists_value {cell : Cell} {literal : List Char}
    (scalar : cell.IsScalarLiteral literal) :
    ∃ value : Value, value.IsSimple ∧ value.IsScalar ∧ value.chars = literal ∧
      value.Writes cell := by
  cases scalar with
  | bool value =>
      have isScalar : (Value.bool value (.empty 0)).IsScalar := trivial
      refine ⟨.bool value (.empty 0), trivial, isScalar, by rw [Value.chars], ?_⟩
      refine Value.writes_of_stores isScalar rfl rfl ?_
      intro field conforms sameType
      cases conforms <;> cases sameType
      rfl
  | int value =>
      obtain ⟨readings, read, isInt⟩ := Readings.exists_int_decimalInt value
      let literal : NumberLiteral :=
        { readings with text := decimalInt value.toInt, span := .empty 0 }
      have isScalar : (Value.number literal).IsScalar := trivial
      refine ⟨.number literal, ⟨startsNumber_decimalInt _, read⟩, isScalar, by rw [Value.chars], ?_⟩
      refine Value.writes_of_stores isScalar rfl (congrArg (Option.map Scalar.int) isInt) ?_
      intro field conforms sameType
      cases conforms <;> cases sameType
      rfl
  | uint value =>
      obtain ⟨readings, read, isUint⟩ := Readings.exists_uint_decimal value
      let literal : NumberLiteral :=
        { readings with text := decimal value.toNat, span := .empty 0 }
      have isScalar : (Value.number literal).IsScalar := trivial
      refine ⟨.number literal, ⟨startsNumber_decimal _, read⟩, isScalar, by rw [Value.chars], ?_⟩
      refine Value.writes_of_stores isScalar rfl (congrArg (Option.map Scalar.uint) isUint) ?_
      intro field conforms sameType
      cases conforms <;> cases sameType
      rfl
  | @text value quote isQuote =>
      let literal : QuotedString :=
        { quoted := String.ofList (quotedWith quote value), text := value, span := .empty 0 }
      have valid : literal.IsValid := by
        refine ⟨?_, ?_⟩
        · rw [String.toList_ofList]
          exact isQuoted_quotedWith isQuote value
        · rw [String.toList_ofList]
          exact Escape.unquote_quotedWith isQuote 0 value
      have isScalar : (Value.string literal).IsScalar := trivial
      refine ⟨.string literal, valid, isScalar, ?_, ?_⟩
      · rw [Value.chars, String.toList_ofList]
      · refine Value.writes_of_stores isScalar rfl rfl ?_
        intro field conforms sameType
        cases conforms <;> cases sameType
        rfl

/-- The literals of scalars are texts of simple values that write them. -/
theorem exists_values_of_scalars {parts : List (Cell × List Char)}
    (scalars : ∀ part ∈ parts, part.1.IsScalarLiteral part.2) :
    ∃ values : List (Value × Cell), (∀ part ∈ values, part.1.IsSimple ∧ part.1.Writes part.2) ∧
      values.map Prod.snd = parts.map Prod.fst ∧
      values.map (·.1.chars) = parts.map Prod.snd := by
  induction parts with
  | nil => exact ⟨[], by simp, rfl, rfl⟩
  | cons part rest inductionHypothesis =>
      obtain ⟨scalar, scalarsRest⟩ := List.forall_mem_cons.1 scalars
      obtain ⟨value, simple, -, chars, writes⟩ := scalar.exists_value
      obtain ⟨values, all, cells, texts⟩ := inductionHypothesis scalarsRest
      refine ⟨(value, part.1) :: values, List.forall_mem_cons.2 ⟨⟨simple, writes⟩, all⟩, ?_, ?_⟩
      · rw [List.map_cons, List.map_cons, cells]
      · rw [List.map_cons, List.map_cons, chars, texts]

/-- A literal is the text of a plain value that writes the cell. -/
theorem IsLiteral.exists_value {cell : Cell} {literal : List Char}
    (isLiteral : cell.IsLiteral literal) :
    ∃ value : Value, value.IsPlain ∧ value.chars = literal ∧ value.Writes cell := by
  cases isLiteral with
  | scalar scalar =>
      obtain ⟨value, simple, -, chars, writes⟩ := scalar.exists_value
      exact ⟨value, Value.isPlain_of_isSimple simple, chars, writes⟩
  | present scalar =>
      obtain ⟨value, simple, isScalar, chars, writes⟩ := scalar.exists_value
      exact ⟨value, Value.isPlain_of_isSimple simple, chars, writes.present isScalar⟩
  | @sequence element parts several typed scalars =>
      obtain ⟨values, all, cells, texts⟩ := exists_values_of_scalars scalars
      have sameLength : values.length = parts.length := by
        have lengths := congrArg List.length cells
        rwa [List.length_map, List.length_map] at lengths
      have typedValues : ∀ part ∈ values, part.2.type = element := by
        have typedCells : ∀ cell ∈ values.map Prod.snd, cell.type = element := by
          rw [cells]
          exact List.forall_mem_map.2 typed
        exact List.forall_mem_map.1 typedCells
      refine ⟨.slice (values.map Prod.fst) (.empty 0), ⟨?_, ?_⟩, ?_, ?_⟩
      · rw [List.length_map, sameLength]
        exact several
      · exact List.forall_mem_map.2 fun part member => (all part member).1
      · rw [Value.chars, elementChars_eq_map, List.map_map, ← texts]
        rfl
      · rw [← cells]
        exact Value.writes_slice (fun part member => (all part member).2) typedValues _

end Cell

end RecordTags
