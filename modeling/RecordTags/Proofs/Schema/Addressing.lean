import RecordTags.Proofs.Bind.Ignoring
import RecordTags.Proofs.Name.Words
import RecordTags.Proofs.Record.Correspondence
import RecordTags.Schema

/-!
Contract: a schema is valid when each of its names is the address of its field.

Owns:
- the rules for names without the order in which they are checked: no name is
  blank, and no two names have the same form;
- `Record.Finds`, that a key stands for a field whatever is asked of a record;
- that names without a common form are names that find their own fields;
- the record that a schema declares.

The check goes through the names once and stops at the first fault, with the
names before it at hand. The invariant is that these are fine. Lookup goes through
the names as well, and stops at the first that has the form of the key. The two
meet in the list of forms: it has no duplicates.
-/

namespace RecordTags

open RecordTags.Text

/-! ## The rules -/

/-- One name has no fault when it is not blank and its form is new. That the name itself is new
follows. -/
theorem firstNameFault_cons_eq_none_iff (style : NameStyle) (earlier rest : List String)
    (name : String) :
    firstNameFault style earlier (name :: rest) = none ↔
      trim name.toList ≠ [] ∧ style.normalize name ∉ earlier.map style.normalize ∧
        firstNameFault style (earlier ++ [name]) rest = none := by
  have newName : style.normalize name ∉ earlier.map style.normalize → name ∉ earlier :=
    fun newForm member => newForm (List.mem_map_of_mem member)
  rw [firstNameFault]
  simp only [List.isEmpty_iff, List.contains_iff_mem]
  split
  next isBlank => simp [isBlank]
  next notBlank =>
    split
    next repeated =>
      exact ⟨fun noFault => by simp at noFault,
        fun ⟨_, newForm, _⟩ => absurd repeated (newName newForm)⟩
    next =>
      split
      next collision => simp [collision]
      next noCollision => simp [notBlank, noCollision]

/-- The names behind `earlier` have no fault exactly when none is blank and their forms differ
from those of `earlier` and from each other. -/
theorem firstNameFault_eq_none_iff (style : NameStyle) (earlier names : List String) :
    firstNameFault style earlier names = none ↔
      (∀ name ∈ names, trim name.toList ≠ []) ∧
        (∀ name ∈ names, style.normalize name ∉ earlier.map style.normalize) ∧
        (names.map style.normalize).Nodup := by
  induction names generalizing earlier with
  | nil => simp [firstNameFault]
  | cons name rest inductionHypothesis =>
    rw [firstNameFault_cons_eq_none_iff, inductionHypothesis, List.forall_mem_cons,
      List.forall_mem_cons, List.map_cons, List.nodup_cons]
    simp only [List.map_append, List.map_cons, List.map_nil, List.mem_append, List.mem_singleton,
      not_or]
    constructor
    · rintro ⟨notBlank, isNew, restNotBlank, restNew, distinct⟩
      refine ⟨⟨notBlank, restNotBlank⟩, ⟨isNew, fun other member => (restNew other member).1⟩,
        ?_, distinct⟩
      intro repeated
      obtain ⟨other, member, sameForm⟩ := List.mem_map.mp repeated
      exact (restNew other member).2 sameForm
    · rintro ⟨⟨notBlank, restNotBlank⟩, ⟨isNew, restNew⟩, notRepeated, distinct⟩
      refine ⟨notBlank, isNew, restNotBlank, fun other member => ⟨restNew other member, ?_⟩,
        distinct⟩
      intro sameForm
      exact notRepeated (List.mem_map.mpr ⟨other, member, sameForm⟩)

namespace Schema

/-- A schema is valid exactly when it has fields, and its names are not blank and have forms of
their own. -/
theorem fault?_eq_none_iff (schema : Schema) :
    schema.fault? = none ↔
      schema.fields ≠ [] ∧ (∀ name ∈ schema.names, trim name.toList ≠ []) ∧
        (schema.names.map schema.options.naming.normalize).Nodup := by
  unfold fault?
  cases isEmpty : schema.fields.isEmpty with
  | true => simp [List.isEmpty_iff.mp isEmpty]
  | false =>
    have hasField : schema.fields ≠ [] := by
      intro noField
      rw [noField] at isEmpty
      contradiction
    rw [if_neg (by simp), firstNameFault_eq_none_iff]
    simp [hasField]

end Schema

/-! ## Addresses -/

namespace Record

/-- Whatever is asked of the record, the key stands for the field at the index: it is found, and
called by its name; an argument of that key is written into it at any time in a binding; and the
key is never unknown or passed over. -/
structure Finds {F : Type} [Field F] (record : Record F) (options : BindOptions) (key : String)
    (index : Nat) : Prop where
  found : record.indexOf? options.naming key = some index
  called : ∀ call,
    (Operation.callNamed options.naming key call).run record = record.callAt index call
  written : ∀ before argument, (record.bindSteps options before).error = none →
    record.bindSteps options (before ++ [.keyword key argument]) =
      (record.bindSteps options before).record.assignAt index argument.value
  known : ∀ resolved span,
    (record.bind options resolved).error ≠ some (.unknownField key span) ∧
      (record.bindAtomic options resolved).error ≠ some (.unknownField key span)
  heeded : ∀ resolved argument, (key, argument) ∉ record.ignoredKeys options resolved

section

variable {F : Type}

/-- Names find their own fields exactly when their forms differ. -/
theorem indexOf?_names_iff (record : Record F) (style : NameStyle) :
    (∀ (index : Nat) (name : String), record.names[index]? = some name →
        record.indexOf? style name = some index) ↔
      (record.names.map style.normalize).Nodup := by
  constructor
  · intro findsOwn
    apply List.pairwise_iff_getElem.mpr
    intro left right inLeft inRight before sameForm
    rw [List.length_map] at inLeft inRight
    rw [List.getElem_map, List.getElem_map] at sameForm
    have foundLeft := findsOwn left _ (List.getElem?_eq_getElem inLeft)
    have foundRight := findsOwn right _ (List.getElem?_eq_getElem inRight)
    rw [indexOf?_of_normalize sameForm, foundRight] at foundLeft
    have sameIndex := Option.some.inj foundLeft
    omega
  · intro distinct index name
    exact indexOf?_of_nodup distinct

variable [Field F] {record : Record F} {options : BindOptions} {key : String} {index : Nat}

theorem error_bindAtomic (record : Record F) (options : BindOptions) (resolved : Resolved) :
    (record.bindAtomic options resolved).error = (record.bind options resolved).error := by
  simp only [bindAtomic]
  split
  · rename_i error fails
    exact fails.symm
  · rfl

/-- A key that is found is found by every operation, also in the midst of a binding, where
earlier steps have changed the fields but not their names. -/
theorem finds_of_indexOf? (found : record.indexOf? options.naming key = some index) :
    record.Finds options key index where
  found := found
  called call := by simp only [Operation.run, found]
  written before argument succeeds := by
    have stillFound :
        (record.bindSteps options before).record.indexOf? options.naming key = some index := by
      rw [indexOf?_of_names (names_bindSteps options record before), found]
    rw [bindSteps_append_of_none succeeds, bindSteps_singleton, bindStep, BindStep.target]
    simp only [stillFound, BindStep.value]
  known resolved span := by
    have notUnknown : (record.bind options resolved).error ≠ some (.unknownField key span) := by
      intro fails
      obtain ⟨other, argument, -, unmatched, isError⟩ := exists_of_unknownField fails rfl
      cases isError
      rw [found] at unmatched
      contradiction
    rw [error_bindAtomic]
    exact ⟨notUnknown, notUnknown⟩
  heeded resolved argument member := by
    cases unknownKeys : options.unknownKeys with
    | error =>
      rw [ignoredKeys, unknownKeys] at member
      contradiction
    | ignore =>
      have unmatched := ((mem_ignoredKeys_iff unknownKeys).mp member).2
      rw [found] at unmatched
      contradiction

end

end Record

/-! ## The declared record -/

namespace Schema

theorem names_record (schema : Schema) : schema.record.names = schema.names := by
  simp [Record.names, record, names]

theorem types_record (schema : Schema) :
    schema.record.types = schema.fields.map FieldSpec.type := by
  unfold Record.types record
  rw [List.map_map]
  rfl

/-- All fields are zero, and stay as they are when they are set to zero. -/
theorem zero_record (schema : Schema) : ∀ entry ∈ schema.record.fields,
    entry.2.held = .zero entry.2.type ∧ Field.setZero entry.2 = entry.2 := by
  intro entry member
  obtain ⟨field, -, rfl⟩ := List.mem_map.mp member
  exact ⟨rfl, rfl⟩

/-- The name of the field at the index has the form of the key. -/
def Answers (schema : Schema) (index : Nat) (key : String) : Prop :=
  (schema.names.map schema.options.naming.normalize)[index]? =
    some (schema.options.naming.normalize key)

/-- A schema is valid exactly when it has fields, none of its names is blank, and in its record
each name finds the field that it was declared for. Then no two fields answer to one key, and a
declared name is the address of its field for all operations, on the declared record and on every
other record with these names. The declared record has the names and types of the schema, and
all its fields are zero. -/
theorem validity_addressing (schema : Schema) :
    (schema.fault? = none ↔
      schema.fields ≠ [] ∧ (∀ name ∈ schema.names, trim name.toList ≠ []) ∧
        ∀ (index : Nat) (name : String), schema.names[index]? = some name →
          schema.record.indexOf? schema.options.naming name = some index) ∧
      (schema.fault? = none →
        (∀ key left right, schema.Answers left key → schema.Answers right key → left = right) ∧
        ∀ (F : Type) [Field F] (record : Record F), record.names = schema.names →
          ∀ (index : Nat) (name : String), schema.names[index]? = some name →
            record.Finds schema.options name index) ∧
      schema.record.names = schema.names ∧
      schema.record.types = schema.fields.map FieldSpec.type ∧
      ∀ entry ∈ schema.record.fields,
        entry.2.held = .zero entry.2.type ∧ Field.setZero entry.2 = entry.2 := by
  refine ⟨?_, ?_, schema.names_record, schema.types_record, schema.zero_record⟩
  · have findsOwn := schema.record.indexOf?_names_iff schema.options.naming
    rw [schema.names_record] at findsOwn
    rw [findsOwn, fault?_eq_none_iff]
  · intro isValid
    obtain ⟨-, -, distinct⟩ := schema.fault?_eq_none_iff.mp isValid
    refine ⟨?_, ?_⟩
    · intro key left right answersLeft answersRight
      have inRange := (List.getElem?_eq_some_iff.mp answersLeft).1
      exact (List.getElem?_inj inRange distinct).mp (answersLeft.trans answersRight.symm)
    · intro F _ record sameNames index name found
      rw [← sameNames] at distinct found
      exact Record.finds_of_indexOf? (Record.indexOf?_of_nodup distinct found)

/-- Two names that differ only in how their words are written. -/
def twoSpellings (naming : NameStyle) : Schema :=
  { fields := [⟨"numField", .int⟩, ⟨"num_field", .optional .string⟩], options := { naming } }

theorem validity_addressing_twoSpellings :
    (twoSpellings .exact).fault? = none ∧
      (twoSpellings .exact).record.Finds (twoSpellings .exact).options "num_field" 1 ∧
      (twoSpellings .kebab).record.indexOf? .kebab "num_field" = some 0 ∧
      (twoSpellings .kebab).fault? ≠ none := by
  have isValid : (twoSpellings .exact).fault? = none := by decide +kernel
  have foundFirst : (twoSpellings .kebab).record.indexOf? .kebab "num_field" = some 0 := by
    decide +kernel
  have valid := (twoSpellings .exact).validity_addressing
  have invalid := (twoSpellings .kebab).validity_addressing
  refine ⟨isValid, ?_, foundFirst, ?_⟩
  · exact (valid.2.1 isValid).2 Cell _ (names_record _) 1 "num_field" rfl
  · intro isValidToo
    have foundSecond := (invalid.1.mp isValidToo).2.2 1 "num_field" rfl
    have sameIndex := Option.some.inj (foundFirst.symm.trans foundSecond)
    omega

end Schema

end RecordTags
