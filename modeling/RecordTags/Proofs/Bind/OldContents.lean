import RecordTags.Proofs.Bind.Meaning
import RecordTags.Proofs.Field.Conforming

/-!
Contract: binding does not depend on what a record held before.

Owns:
- `Alike`, two records with the same names and types. Every step fails on both
  alike or on neither, and leaves records that are alike;
- runs on records that are alike: they fail alike, and a run that succeeds makes
  every field that it addresses the same in both. Hence a run that succeeds
  changes nothing when it is repeated;
- what a run leaves in the field of its last step there: the value of that step,
  written as if no other step had come before it.
-/

namespace RecordTags

open TypedField ConformingField

theorem Bound.eq_of_fields {F : Type} {bound : Bound F} {record : Record F}
    (sameFields : bound.record.fields = record.fields) (succeeds : bound.error = none) :
    bound = { record, error := none } := by
  obtain ⟨⟨fields⟩, error⟩ := bound
  obtain rfl : fields = record.fields := sameFields
  obtain rfl : error = none := succeeds
  rfl

namespace Record

variable {F : Type} [ConformingField F]

/-! ## Records that are alike -/

/-- Every field holds a value of its type. -/
def Conforms (record : Record F) : Prop :=
  ∀ entry ∈ record.fields, ConformingField.Conforms entry.2

/-- Names and types are the same, contents need not be. -/
structure Alike (left right : Record F) : Prop where
  names : left.names = right.names
  types : left.types = right.types
  conforms : left.Conforms
  conformsRight : right.Conforms

theorem Alike.symm {left right : Record F} (alike : left.Alike right) : right.Alike left :=
  ⟨alike.names.symm, alike.types.symm, alike.conformsRight, alike.conforms⟩

theorem Alike.trans {left middle right : Record F} (alike : left.Alike middle)
    (others : middle.Alike right) : left.Alike right :=
  ⟨alike.names.trans others.names, alike.types.trans others.types, alike.conforms,
    others.conformsRight⟩

theorem Alike.count {left right : Record F} (alike : left.Alike right) :
    left.count = right.count := by
  have lengths := congrArg List.length alike.names
  rwa [Record.names, Record.names, List.length_map, List.length_map] at lengths

theorem Conforms.field {record : Record F} (conforms : record.Conforms) {index : Nat}
    {name : String} {field : F} (found : record.fields[index]? = some (name, field)) :
    ConformingField.Conforms field :=
  conforms (name, field) (List.mem_of_getElem? found)

/-- Fields of the same index have the same name and type. -/
theorem Alike.exists_field {left right : Record F} (alike : left.Alike right) {index : Nat}
    {name : String} {field : F} (found : left.fields[index]? = some (name, field)) :
    ∃ other, right.fields[index]? = some (name, other) ∧ typeOf field = typeOf other := by
  have sameName := congrArg (·[index]?) alike.names
  have sameType := congrArg (·[index]?) alike.types
  simp only [Record.names, Record.types, List.getElem?_map, found, Option.map_some]
    at sameName sameType
  obtain ⟨⟨otherName, other⟩, foundOther, rfl⟩ := Option.map_eq_some_iff.1 sameName.symm
  rw [foundOther, Option.map_some, Option.some.injEq] at sameType
  exact ⟨other, foundOther, sameType⟩

/-- An assignment to fields of the same index has the same outcome. -/
theorem Alike.agrees {left right : Record F} (alike : left.Alike right) {index : Nat}
    {name otherName : String} {field other : F} (found : left.fields[index]? = some (name, field))
    (foundOther : right.fields[index]? = some (otherName, other)) (value : Value) :
    (assign value field).Agrees (assign value other) := by
  obtain ⟨third, foundThird, sameType⟩ := alike.exists_field found
  rw [foundOther, Option.some.injEq, Prod.mk.injEq] at foundThird
  rw [← foundThird.2] at sameType
  exact agrees_assign value sameType (alike.conforms.field found)
    (alike.conformsRight.field foundOther)

/-! ## One step -/

/-- An assignment leaves a value of its type in every field. -/
theorem Conforms.assigned {record : Record F} (conforms : record.Conforms) (index : Nat)
    (value : Value) : (record.assigned index value).Conforms := by
  intro entry member
  obtain ⟨position, found⟩ := List.getElem?_of_mem member
  rw [Record.assigned, List.getElem?_modify] at found
  obtain ⟨⟨name, field⟩, foundBefore, rfl⟩ := Option.map_eq_some_iff.1 found
  have conformsBefore := conforms.field foundBefore
  by_cases same : index = position
  · simpa [same] using conforms_assign value conformsBefore
  · simpa [same] using conformsBefore

theorem Conforms.perform {record : Record F} (conforms : record.Conforms) (options : BindOptions)
    (declared : Record F) (step : BindStep) :
    (Record.perform options declared record step).Conforms := by
  unfold Record.perform
  split
  next index _ => exact conforms.assigned index step.value
  next => exact conforms

/-- Assignments leave a record that is alike. -/
theorem alike_foldl_perform {record : Record F} (conforms : record.Conforms)
    (options : BindOptions) (declared : Record F) (steps : List BindStep) :
    (steps.foldl (perform options declared) record).Alike record where
  names := map_fields_performed (fun _ _ _ => rfl) options declared record steps
  types := map_fields_performed (fun value _ field => typeOf_assign value field) options declared
    record steps
  conforms := by
    induction steps generalizing record with
    | nil => exact conforms
    | cons step rest inductionHypothesis =>
        exact inductionHypothesis (conforms.perform options declared step)
  conformsRight := conforms

theorem alike_bindStep {record : Record F} (conforms : record.Conforms) (options : BindOptions)
    (step : BindStep) : (record.bindStep options step).record.Alike record := by
  rw [record_bindStep]
  exact alike_foldl_perform conforms options record [step]

/-- A step fails on records that are alike in the same way. -/
theorem Alike.failsWith {left right : Record F} (alike : left.Alike right)
    {options : BindOptions} {step : BindStep} {error : TagError}
    (fails : step.FailsWith options left error) : step.FailsWith options right error := by
  have sameIndex := index?_of_names alike.names options step
  cases fails with
  | outOfRange beyond =>
      rw [alike.count] at beyond ⊢
      exact .outOfRange beyond
  | unknownKey unmatched insists => exact .unknownKey (sameIndex.symm.trans unmatched) insists
  | refused addresses found mismatched =>
      obtain ⟨other, foundOther, -⟩ := alike.exists_field found
      have sameMismatch := (alike.agrees found foundOther step.value).mismatch
      exact .refused (sameIndex.symm.trans addresses) foundOther
        (sameMismatch.symm.trans mismatched)

theorem Alike.error_bindStep {left right : Record F} (alike : left.Alike right)
    (options : BindOptions) (step : BindStep) :
    (left.bindStep options step).error = (right.bindStep options step).error := by
  apply Option.ext
  intro error
  rw [error_bindStep_iff, error_bindStep_iff]
  exact ⟨alike.failsWith, alike.symm.failsWith⟩

theorem Alike.bindStep {left right : Record F} (alike : left.Alike right)
    (options : BindOptions) (step : BindStep) :
    (left.bindStep options step).record.Alike (right.bindStep options step).record :=
  ((alike_bindStep alike.conforms options step).trans alike).trans
    (alike_bindStep alike.conformsRight options step).symm

theorem fields_assigned_self {record : Record F} {index : Nat} {name : String} {field : F}
    (found : record.fields[index]? = some (name, field)) (value : Value) :
    (record.assigned index value).fields[index]? = some (name, (assign value field).field) := by
  simp [assigned, found]

/-- A step that succeeds makes the field that it addresses the same in both records. -/
theorem Alike.fields_bindStep {left right : Record F} (alike : left.Alike right)
    {options : BindOptions} {step : BindStep}
    (succeeds : (right.bindStep options step).error = none) {index : Nat}
    (known : step.index? options left = some index ∨ left.fields[index]? = right.fields[index]?) :
    (left.bindStep options step).record.fields[index]? =
      (right.bindStep options step).record.fields[index]? := by
  have sameIndex := index?_of_names alike.names options step
  cases addresses : step.index? options left with
  | none =>
      have sameFields : left.fields[index]? = right.fields[index]? := by
        rw [addresses] at known
        exact known.resolve_left (Option.some_ne_none index).symm
      rw [(bindStep_of_not_addresses addresses).1,
        (bindStep_of_not_addresses (sameIndex.symm.trans addresses)).1, sameFields]
  | some target =>
      have addressesRight := sameIndex.symm.trans addresses
      obtain ⟨name, field, found⟩ := exists_field_of_index? addresses
      obtain ⟨other, foundOther, -⟩ := alike.exists_field found
      rw [bindStep_of_addresses addressesRight foundOther] at succeeds
      rw [bindStep_of_addresses addresses found, bindStep_of_addresses addressesRight foundOther]
      by_cases same : target = index
      · have accepted : (assign step.value other).mismatch = none :=
          Option.map_eq_none_iff.1 succeeds
        rw [same] at found foundOther ⊢
        rw [fields_assigned_self found, fields_assigned_self foundOther,
          (alike.agrees found foundOther step.value).field accepted]
      · have sameFields : left.fields[index]? = right.fields[index]? := by
          apply known.resolve_left
          rw [addresses, Option.some.injEq]
          exact same
        rw [fields_assigned_of_ne same, fields_assigned_of_ne same, sameFields]

/-! ## Runs -/

/-- Runs on records that are alike fail alike or not at all. -/
theorem Alike.error_bindSteps {left right : Record F} (alike : left.Alike right)
    (options : BindOptions) (steps : List BindStep) :
    (left.bindSteps options steps).error = (right.bindSteps options steps).error := by
  induction steps generalizing left right with
  | nil => rfl
  | cons step rest inductionHypothesis =>
      have sameError := alike.error_bindStep options step
      cases outcome : (right.bindStep options step).error with
      | none =>
          rw [bindSteps_cons_of_none (sameError.trans outcome), bindSteps_cons_of_none outcome]
          exact inductionHypothesis (alike.bindStep options step)
      | some error =>
          rw [bindSteps_cons_of_some (sameError.trans outcome), bindSteps_cons_of_some outcome]
          exact sameError

/-- A run that succeeds makes all fields that it addresses the same in both records. -/
theorem Alike.fields_bindSteps {left right : Record F} (alike : left.Alike right)
    {options : BindOptions} {steps : List BindStep}
    (succeeds : (right.bindSteps options steps).error = none) {index : Nat}
    (known : (∃ step ∈ steps, step.index? options left = some index) ∨
      left.fields[index]? = right.fields[index]?) :
    (left.bindSteps options steps).record.fields[index]? =
      (right.bindSteps options steps).record.fields[index]? := by
  induction steps generalizing left right with
  | nil => simpa [Record.bindSteps] using known
  | cons step rest inductionHypothesis =>
      have sameError := alike.error_bindStep options step
      cases outcome : (right.bindStep options step).error with
      | some error =>
          rw [bindSteps_cons_of_some outcome, outcome] at succeeds
          contradiction
      | none =>
          rw [bindSteps_cons_of_none outcome] at succeeds
          rw [bindSteps_cons_of_none (sameError.trans outcome), bindSteps_cons_of_none outcome]
          have kept := (alike_bindStep alike.conforms options step).names
          apply inductionHypothesis (alike.bindStep options step) succeeds
          -- the first step settles its own field, the rest settle theirs
          by_cases laterAddresses : ∃ later ∈ rest, later.index? options left = some index
          · left
            obtain ⟨later, member, addresses⟩ := laterAddresses
            exact ⟨later, member, (index?_of_names kept options later).trans addresses⟩
          · right
            apply alike.fields_bindStep outcome
            rcases known with ⟨some, member, addresses⟩ | sameFields
            · rcases List.mem_cons.1 member with rfl | inRest
              · exact .inl addresses
              · exact absurd ⟨some, inRest, addresses⟩ laterAddresses
            · exact .inr sameFields

/-- A run that leaves the fields that it addresses as they are leaves the record as it is. -/
theorem bindSteps_eq_self {record : Record F} {options : BindOptions} {steps : List BindStep}
    (succeeds : (record.bindSteps options steps).error = none)
    (settled : ∀ index, (∃ step ∈ steps, step.index? options record = some index) →
      (record.bindSteps options steps).record.fields[index]? = record.fields[index]?) :
    record.bindSteps options steps = { record, error := none } := by
  have sameFields : (record.bindSteps options steps).record.fields = record.fields := by
    apply List.ext_getElem?
    intro index
    by_cases addressed : ∃ step ∈ steps, step.index? options record = some index
    · exact settled index addressed
    · rw [record_bindSteps_of_none succeeds]
      apply fields_performed_of_untouched
      intro step member addresses
      exact addressed ⟨step, member, addresses⟩
  exact Bound.eq_of_fields sameFields succeeds

/-- Repeating a run that succeeds changes nothing. -/
theorem bindSteps_bindSteps {record : Record F} (conforms : record.Conforms)
    {options : BindOptions} {steps : List BindStep}
    (succeeds : (record.bindSteps options steps).error = none) :
    (record.bindSteps options steps).record.bindSteps options steps =
      record.bindSteps options steps := by
  have alike : (record.bindSteps options steps).record.Alike record := by
    rw [record_bindSteps_of_none succeeds]
    exact alike_foldl_perform conforms options record steps
  have succeedsAgain := (alike.error_bindSteps options steps).trans succeeds
  have repeated := bindSteps_eq_self succeedsAgain fun _ addressed =>
    alike.fields_bindSteps succeeds (.inl addressed)
  rw [repeated, ← succeeds]

/-- A run that addresses every field, and changes nothing in a record that is alike, leaves that
record. -/
theorem Alike.bindSteps_eq {left right : Record F} (alike : left.Alike right)
    {options : BindOptions} {steps : List BindStep}
    (rests : right.bindSteps options steps = { record := right, error := none })
    (covers : ∀ index < left.count, ∃ step ∈ steps, step.index? options left = some index) :
    left.bindSteps options steps = { record := right, error := none } := by
  have succeedsRight : (right.bindSteps options steps).error = none := by rw [rests]
  have succeeds := (alike.error_bindSteps options steps).trans succeedsRight
  have sameFields : (left.bindSteps options steps).record.fields = right.fields := by
    apply List.ext_getElem?
    intro index
    have known : (∃ step ∈ steps, step.index? options left = some index) ∨
        left.fields[index]? = right.fields[index]? := by
      by_cases inRange : index < left.count
      · exact .inl (covers index inRange)
      · right
        have beyond : left.fields.length ≤ index := Nat.le_of_not_lt inRange
        have beyondRight : right.fields.length ≤ index :=
          Nat.le_trans (Nat.le_of_eq alike.count.symm) beyond
        rw [List.getElem?_eq_none beyond, List.getElem?_eq_none beyondRight]
    have settled := alike.fields_bindSteps succeedsRight known
    rwa [rests] at settled
  exact Bound.eq_of_fields sameFields succeeds

/-- The last step that addresses a field decides what the field holds, as if it were the only
one. -/
theorem fields_bindSteps_of_last {record : Record F} (conforms : record.Conforms)
    {options : BindOptions} {before after : List BindStep} {step : BindStep}
    (succeeds : (record.bindSteps options (before ++ step :: after)).error = none) {index : Nat}
    (addresses : step.index? options record = some index)
    (untouched : ∀ later ∈ after, later.index? options record ≠ some index) {name : String}
    {field : F} (found : record.fields[index]? = some (name, field)) :
    (assign step.value field).mismatch = none ∧
      (record.bindSteps options (before ++ step :: after)).record.fields[index]? =
        some (name, (assign step.value field).field) := by
  let middle := record.performed options before
  have alike : middle.Alike record := alike_foldl_perform conforms options record before
  obtain ⟨other, foundOther, -⟩ := alike.symm.exists_field found
  have agrees := alike.agrees foundOther found step.value
  have accepted : (assign step.value other).mismatch = none := by
    by_contra refused
    obtain ⟨mismatch, mismatched⟩ := Option.ne_none_iff_exists'.1 refused
    have addressesMiddle := (index?_of_names alike.names options step).trans addresses
    have fails := BindStep.FailsWith.refused addressesMiddle foundOther mismatched
    exact not_failsAt_of_error_none succeeds before.length _ (failsAt_append_cons.2 fails)
  have acceptedHere : (assign step.value field).mismatch = none :=
    agrees.mismatch.symm.trans accepted
  refine ⟨acceptedHere, ?_⟩
  have performs : perform options record middle step = middle.assigned index step.value := by
    unfold perform
    rw [addresses]
  rw [record_bindSteps_of_none succeeds, performed, List.foldl_append, List.foldl_cons,
    fields_performed_of_untouched untouched]
  show (perform options record middle step).fields[index]? = _
  rw [performs, fields_assigned_self foundOther, agrees.field acceptedHere]

end Record

end RecordTags
