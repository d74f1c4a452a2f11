import Mathlib.Data.List.Induction
import RecordTags.Bind
import RecordTags.Proofs.Field.Typed

/-!
Contract: what binding does to a record.

Owns:
- the meaning of steps: the field that each addresses in the record as it is
  declared, the assignments of a list of steps in order, and the ways in which
  a step fails;
- the agreement of one step and of whole runs with that meaning, up to the first
  step that fails;
- the frame: names, types and fields that no step addresses stay.

A step looks fields up in the record that earlier steps have left. That this
is the same as looking them up in the record as it was rests on names, which no
assignment changes.
-/

namespace RecordTags

/-! ## The meaning of steps -/

/-- The field that a step addresses: the one of the same index, or the one that answers
to the key. -/
def BindStep.index? {F : Type} (options : BindOptions) (record : Record F) :
    BindStep → Option Nat
  | positional index _ => if index < record.count then some index else none
  | keyword key _ => record.indexOf? options.naming key

namespace Record

section

variable {F : Type} [Field F]

def assigned (record : Record F) (index : Nat) (value : Value) : Record F :=
  { fields := record.fields.modify index fun (name, field) => (name, (assign value field).field) }

/-- The record with the assignment of a step, whose field is looked up in `declared`. -/
def perform (options : BindOptions) (declared record : Record F) (step : BindStep) : Record F :=
  match step.index? options declared with
  | some index => record.assigned index step.value
  | none => record

def performed (record : Record F) (options : BindOptions) (steps : List BindStep) : Record F :=
  steps.foldl (perform options record) record

end

end Record

/-- The ways in which a step fails on a record. -/
inductive BindStep.FailsWith {F : Type} [Field F] (options : BindOptions) (record : Record F) :
    BindStep → TagError → Prop where
  | outOfRange {index : Nat} {value : Value} (beyond : record.count ≤ index) :
      FailsWith options record (positional index value)
        (.indexOutOfRange index record.count value.span)
  | unknownKey {key : String} {argument : Argument}
      (unmatched : record.indexOf? options.naming key = none)
      (insists : options.unknownKeys = .error) :
      FailsWith options record (keyword key argument) (.unknownField key argument.span)
  | refused {step : BindStep} {index : Nat} {name : String} {field : F} {mismatch : Mismatch}
      (addresses : step.index? options record = some index)
      (found : record.fields[index]? = some (name, field))
      (mismatched : (assign step.value field).mismatch = some mismatch) :
      FailsWith options record step
        (.refused mismatch.refusal mismatch.value mismatch.kind name)

namespace Record

section

variable {F : Type} [Field F]

/-! ## One step -/

omit [Field F] in
/-- A step addresses only fields that are there. -/
theorem exists_field_of_index? {options : BindOptions} {record : Record F} {step : BindStep}
    {index : Nat} (addresses : step.index? options record = some index) :
    ∃ name field, record.fields[index]? = some (name, field) := by
  have inRange : index < record.fields.length := by
    cases step with
    | positional position value =>
        simp only [BindStep.index?] at addresses
        split at addresses
        next below =>
          cases addresses
          exact below
        next => contradiction
    | keyword key argument =>
        have below := (List.findIdx?_eq_some_iff_findIdx_eq.1 addresses).1
        rwa [Record.names, List.length_map] at below
  obtain ⟨⟨name, field⟩, found⟩ : ∃ entry, record.fields[index]? = some entry :=
    ⟨_, List.getElem?_eq_getElem inRange⟩
  exact ⟨name, field, found⟩

/-- Putting the assigned field back into its place is the assignment to the record. -/
theorem setField_eq_assigned {record : Record F} {index : Nat} {name : String} {field : F}
    (found : record.fields[index]? = some (name, field)) (value : Value) :
    record.setField index (assign value field).field = record.assigned index value := by
  unfold setField assigned
  congr 1
  apply List.ext_getElem?
  intro position
  rw [List.getElem?_modify, List.getElem?_modify]
  by_cases same : index = position
  · rw [← same, found]
    simp
  · simp [same]

/-- A step that addresses a field assigns it, and fails when the field refuses. -/
theorem bindStep_of_addresses {options : BindOptions} {record : Record F} {step : BindStep}
    {index : Nat} {name : String} {field : F}
    (addresses : step.index? options record = some index)
    (found : record.fields[index]? = some (name, field)) :
    record.bindStep options step =
      { record := record.assigned index step.value
        error := (assign step.value field).mismatch.map (·.toError name) } := by
  have target : step.target options record = .field index := by
    cases step with
    | positional position value =>
        simp only [BindStep.index?] at addresses
        split at addresses
        next below =>
          cases addresses
          rw [BindStep.target, if_pos below]
        next => contradiction
    | keyword key argument =>
        rw [BindStep.index?] at addresses
        simp only [BindStep.target, addresses]
  rw [bindStep, target]
  simp only [assignAt, found, setField_eq_assigned found]

/-- A step that addresses nothing is beyond the last field, or its key has no answer. -/
theorem bindStep_of_not_addresses {options : BindOptions} {record : Record F} {step : BindStep}
    (addressesNone : step.index? options record = none) :
    (record.bindStep options step).record = record ∧
      ∀ error, (record.bindStep options step).error = some error ↔
        step.FailsWith options record error := by
  have noField : ∀ index, step.index? options record ≠ some index := by
    intro index addresses
    rw [addressesNone] at addresses
    contradiction
  cases step with
  | positional index value =>
      have beyond : ¬ index < record.count := by
        intro below
        rw [BindStep.index?, if_pos below] at addressesNone
        contradiction
      rw [bindStep, BindStep.target, if_neg beyond]
      refine ⟨rfl, fun error => ⟨fun isError => ?_, fun fails => ?_⟩⟩
      · cases isError
        exact .outOfRange (Nat.le_of_not_lt beyond)
      · cases fails with
        | outOfRange => rfl
        | refused addresses => exact absurd addresses (noField _)
  | keyword key argument =>
      have unmatched : record.indexOf? options.naming key = none := addressesNone
      rw [bindStep, BindStep.target, unmatched]
      cases unknownKeys : options.unknownKeys with
      | ignore =>
          refine ⟨rfl, fun error => ⟨fun isError => ?_, fun fails => ?_⟩⟩
          · contradiction
          · cases fails with
            | unknownKey _ insists =>
                rw [unknownKeys] at insists
                contradiction
            | refused addresses => exact absurd addresses (noField _)
      | error =>
          refine ⟨rfl, fun error => ⟨fun isError => ?_, fun fails => ?_⟩⟩
          · cases isError
            exact .unknownKey unmatched unknownKeys
          · cases fails with
            | unknownKey => rfl
            | refused addresses => exact absurd addresses (noField _)

/-- One step does its assignment. -/
theorem record_bindStep (options : BindOptions) (record : Record F) (step : BindStep) :
    (record.bindStep options step).record = perform options record record step := by
  unfold perform
  cases addresses : step.index? options record with
  | none => exact (bindStep_of_not_addresses addresses).1
  | some index =>
      obtain ⟨name, field, found⟩ := exists_field_of_index? addresses
      rw [bindStep_of_addresses addresses found]

/-- One step fails in the ways that a step can fail. -/
theorem error_bindStep_iff {options : BindOptions} {record : Record F} {step : BindStep}
    {error : TagError} :
    (record.bindStep options step).error = some error ↔ step.FailsWith options record error := by
  cases addresses : step.index? options record with
  | none => exact (bindStep_of_not_addresses addresses).2 error
  | some index =>
      obtain ⟨name, field, found⟩ := exists_field_of_index? addresses
      rw [bindStep_of_addresses addresses found]
      constructor
      · intro refused
        obtain ⟨mismatch, mismatched, rfl⟩ := Option.map_eq_some_iff.1 refused
        exact .refused addresses found mismatched
      · intro fails
        cases fails with
        | outOfRange beyond =>
            rw [BindStep.index?, if_neg (Nat.not_lt.2 beyond)] at addresses
            contradiction
        | unknownKey unmatched =>
            rw [BindStep.index?, unmatched] at addresses
            contradiction
        | refused otherAddresses otherFound mismatched =>
            rw [addresses] at otherAddresses
            cases otherAddresses
            rw [found] at otherFound
            cases otherFound
            rw [mismatched]
            rfl

/-! ## What assignments keep -/

/-- What an assignment keeps of one field, assignments keep of all fields. -/
theorem map_fields_assigned {β : Type} {view : String × F → β} {value : Value}
    (keeps : ∀ name field, view (name, (assign value field).field) = view (name, field))
    (record : Record F) (index : Nat) :
    (record.assigned index value).fields.map view = record.fields.map view := by
  apply List.ext_getElem?
  intro position
  simp only [assigned, List.getElem?_map, List.getElem?_modify, Option.map_eq_map, Option.map_map]
  congr 1
  funext entry
  by_cases same : index = position
  · simpa [same] using keeps entry.1 entry.2
  · simp [same]

theorem map_fields_performed {β : Type} {view : String × F → β}
    (keeps : ∀ value name field, view (name, (assign value field).field) = view (name, field))
    (options : BindOptions) (declared record : Record F) (steps : List BindStep) :
    (steps.foldl (perform options declared) record).fields.map view = record.fields.map view := by
  induction steps generalizing record with
  | nil => rfl
  | cons step rest inductionHypothesis =>
      rw [List.foldl_cons, inductionHypothesis, perform]
      split
      next index _ => exact map_fields_assigned (keeps step.value) record index
      next => rfl

theorem names_performed (record : Record F) (options : BindOptions) (steps : List BindStep) :
    (record.performed options steps).names = record.names :=
  map_fields_performed (fun _ _ _ => rfl) options record record steps

theorem fields_assigned_of_ne {record : Record F} {index other : Nat} (different : index ≠ other)
    (value : Value) : (record.assigned index value).fields[other]? = record.fields[other]? := by
  simp [assigned, different]

theorem fields_perform_of_ne {options : BindOptions} {declared record : Record F}
    {step : BindStep} {index : Nat} (untouched : step.index? options declared ≠ some index) :
    (perform options declared record step).fields[index]? = record.fields[index]? := by
  unfold perform
  split
  next other addresses =>
    apply fields_assigned_of_ne
    rintro rfl
    exact untouched addresses
  next => rfl

theorem fields_performed_of_untouched {options : BindOptions} {declared record : Record F}
    {steps : List BindStep} {index : Nat}
    (untouched : ∀ step ∈ steps, step.index? options declared ≠ some index) :
    (steps.foldl (perform options declared) record).fields[index]? = record.fields[index]? := by
  induction steps generalizing record with
  | nil => rfl
  | cons step rest inductionHypothesis =>
      obtain ⟨untouchedStep, untouchedRest⟩ := List.forall_mem_cons.1 untouched
      rw [List.foldl_cons, inductionHypothesis untouchedRest, fields_perform_of_ne untouchedStep]

omit [Field F] in
/-- What a step addresses depends on the names only. -/
theorem index?_of_names {left right : Record F} (same : left.names = right.names)
    (options : BindOptions) (step : BindStep) :
    step.index? options left = step.index? options right := by
  have sameCount : left.count = right.count := by
    have lengths := congrArg List.length same
    rwa [names, names, List.length_map, List.length_map] at lengths
  cases step with
  | positional index value => rw [BindStep.index?, BindStep.index?, sameCount]
  | keyword key argument => rw [BindStep.index?, BindStep.index?, indexOf?, indexOf?, same]

theorem perform_of_names {left right : Record F} (same : left.names = right.names)
    (options : BindOptions) (record : Record F) (step : BindStep) :
    perform options left record step = perform options right record step := by
  rw [perform, perform, index?_of_names same]

theorem performed_concat (record : Record F) (options : BindOptions) (before : List BindStep)
    (step : BindStep) :
    record.performed options (before ++ [step]) =
      perform options record (record.performed options before) step := by
  rw [performed, List.foldl_append]
  rfl

/-! ## Runs -/

theorem bindSteps_cons_of_none {options : BindOptions} {record : Record F} {step : BindStep}
    (succeeds : (record.bindStep options step).error = none) (rest : List BindStep) :
    record.bindSteps options (step :: rest) =
      (record.bindStep options step).record.bindSteps options rest := by
  rw [bindSteps]
  simp only [succeeds]

theorem bindSteps_cons_of_some {options : BindOptions} {record : Record F} {step : BindStep}
    {error : TagError} (fails : (record.bindStep options step).error = some error)
    (rest : List BindStep) :
    record.bindSteps options (step :: rest) = record.bindStep options step := by
  rw [bindSteps]
  simp only [fails]
  rw [← fails]

/-- A step keeps the names. -/
theorem names_bindStep (options : BindOptions) (record : Record F) (step : BindStep) :
    (record.bindStep options step).record.names = record.names := by
  rw [record_bindStep]
  exact names_performed record options [step]

theorem names_bindSteps (options : BindOptions) (record : Record F) (steps : List BindStep) :
    (record.bindSteps options steps).record.names = record.names := by
  induction steps generalizing record with
  | nil => rfl
  | cons step rest inductionHypothesis =>
      cases outcome : (record.bindStep options step).error with
      | none => rw [bindSteps_cons_of_none outcome, inductionHypothesis, names_bindStep]
      | some error => rw [bindSteps_cons_of_some outcome, names_bindStep]

/-- Binding goes on behind steps that succeed. -/
theorem bindSteps_append_of_none {options : BindOptions} {record : Record F}
    {before : List BindStep} (succeeds : (record.bindSteps options before).error = none)
    (after : List BindStep) :
    record.bindSteps options (before ++ after) =
      (record.bindSteps options before).record.bindSteps options after := by
  induction before generalizing record with
  | nil => rfl
  | cons step rest inductionHypothesis =>
      cases outcome : (record.bindStep options step).error with
      | none =>
          rw [bindSteps_cons_of_none outcome] at succeeds
          rw [List.cons_append, bindSteps_cons_of_none outcome, bindSteps_cons_of_none outcome,
            inductionHypothesis succeeds]
      | some error =>
          rw [bindSteps_cons_of_some outcome, outcome] at succeeds
          contradiction

/-- Nothing happens behind steps that fail. -/
theorem bindSteps_append_of_some {options : BindOptions} {record : Record F}
    {before : List BindStep} {error : TagError}
    (fails : (record.bindSteps options before).error = some error) (after : List BindStep) :
    record.bindSteps options (before ++ after) = record.bindSteps options before := by
  induction before generalizing record with
  | nil => contradiction
  | cons step rest inductionHypothesis =>
      cases outcome : (record.bindStep options step).error with
      | none =>
          rw [bindSteps_cons_of_none outcome] at fails
          rw [List.cons_append, bindSteps_cons_of_none outcome, bindSteps_cons_of_none outcome,
            inductionHypothesis fails]
      | some stepError =>
          rw [List.cons_append, bindSteps_cons_of_some outcome, bindSteps_cons_of_some outcome]

theorem bindSteps_singleton (options : BindOptions) (record : Record F) (step : BindStep) :
    record.bindSteps options [step] = record.bindStep options step := by
  cases outcome : (record.bindStep options step).error with
  | none =>
      rw [bindSteps_cons_of_none outcome, bindSteps, ← outcome]
  | some error => exact bindSteps_cons_of_some outcome []

theorem error_none_of_append {options : BindOptions} {record : Record F}
    {before after : List BindStep}
    (succeeds : (record.bindSteps options (before ++ after)).error = none) :
    (record.bindSteps options before).error = none := by
  cases outcome : (record.bindSteps options before).error with
  | none => rfl
  | some error =>
      rw [bindSteps_append_of_some outcome, outcome] at succeeds
      contradiction

/-- Steps that all succeed do their assignments in order. -/
theorem record_bindSteps_of_none {options : BindOptions} {record : Record F}
    {steps : List BindStep} (succeeds : (record.bindSteps options steps).error = none) :
    (record.bindSteps options steps).record = record.performed options steps := by
  -- from the right: the last step looks its field up in what the steps before it leave
  induction steps using List.reverseRecOn with
  | nil => rfl
  | append_singleton before step inductionHypothesis =>
      have succeedsBefore := error_none_of_append succeeds
      rw [bindSteps_append_of_none succeedsBefore, bindSteps_singleton, record_bindStep,
        inductionHypothesis succeedsBefore,
        perform_of_names (names_performed record options before), performed_concat]

/-- A run that fails has a first step that fails, and stops there. -/
theorem exists_first_failure {options : BindOptions} {record : Record F} {steps : List BindStep}
    {error : TagError} (fails : (record.bindSteps options steps).error = some error) :
    ∃ before step after, steps = before ++ step :: after ∧
      (record.bindSteps options before).error = none ∧
      record.bindSteps options steps = (record.performed options before).bindStep options step := by
  induction steps using List.reverseRecOn with
  | nil => contradiction
  | append_singleton before step inductionHypothesis =>
      cases outcome : (record.bindSteps options before).error with
      | none =>
          refine ⟨before, step, [], rfl, outcome, ?_⟩
          rw [bindSteps_append_of_none outcome, bindSteps_singleton,
            record_bindSteps_of_none outcome]
      | some earlier =>
          rw [bindSteps_append_of_some outcome] at fails ⊢
          obtain ⟨front, failing, behind, rfl, succeeds, stops⟩ := inductionHypothesis fails
          exact ⟨front, failing, behind ++ [step], by simp, succeeds, stops⟩

/-! ## The first failure -/

/-- Step number `k` fails on the record that the steps before it leave. -/
def FailsAt (record : Record F) (options : BindOptions) (steps : List BindStep) (k : Nat)
    (error : TagError) : Prop :=
  ∃ step, steps[k]? = some step ∧
    step.FailsWith options (record.performed options (steps.take k)) error

theorem failsAt_append_cons {record : Record F} {options : BindOptions}
    {before after : List BindStep} {step : BindStep} {error : TagError} :
    record.FailsAt options (before ++ step :: after) before.length error ↔
      step.FailsWith options (record.performed options before) error := by
  unfold FailsAt
  rw [List.getElem?_append_right (Nat.le_refl _), Nat.sub_self, List.take_left]
  simp

theorem failsAt_append_left {record : Record F} {options : BindOptions}
    {before after : List BindStep} {k : Nat} (inBefore : k < before.length) {error : TagError} :
    record.FailsAt options (before ++ after) k error ↔ record.FailsAt options before k error := by
  unfold FailsAt
  rw [List.getElem?_append_left inBefore, List.take_append_of_le_length (Nat.le_of_lt inBefore)]

/-- No step fails in a run that succeeds. -/
theorem not_failsAt_of_error_none {record : Record F} {options : BindOptions}
    {steps : List BindStep} (succeeds : (record.bindSteps options steps).error = none) (k : Nat)
    (error : TagError) : ¬ record.FailsAt options steps k error := by
  rintro ⟨step, found, fails⟩
  have upTo : steps.take (k + 1) = steps.take k ++ [step] := by
    rw [List.take_add_one, found]
    rfl
  rw [← List.take_append_drop (k + 1) steps, upTo] at succeeds
  have succeedsUpTo := error_none_of_append succeeds
  have succeedsBefore := error_none_of_append succeedsUpTo
  rw [bindSteps_append_of_none succeedsBefore, bindSteps_singleton,
    record_bindSteps_of_none succeedsBefore, error_bindStep_iff.2 fails] at succeedsUpTo
  contradiction

end

/-! ## Binding -/

section

variable {F : Type} [TypedField F]

def types (record : Record F) : List (TypedField.Declared F) :=
  record.fields.map fun (_, field) => TypedField.typeOf field

/-- Names, types and the fields that none of the steps addresses are as in the record. -/
structure Frame (record : Record F) (options : BindOptions) (steps : List BindStep)
    (final : Record F) : Prop where
  names : final.names = record.names
  types : final.types = record.types
  untouched : ∀ index, (∀ step ∈ steps, step.index? options record ≠ some index) →
    final.fields[index]? = record.fields[index]?

theorem frame_performed (record : Record F) (options : BindOptions) (steps : List BindStep) :
    record.Frame options steps (record.performed options steps) where
  names := names_performed record options steps
  types := map_fields_performed (fun value _ field => typeOf_assign value field) options record
    record steps
  untouched _ := fields_performed_of_untouched

/-- Binding that stops at step number `k`: the step is the first to fail, all other fields
are as the steps before it leave them, its own field is so too unless it is optional or a
sequence, and later steps have no effect. -/
structure StopsAt (record : Record F) (options : BindOptions) (steps : List BindStep)
    (bound : Bound F) (k : Nat) (error : TagError) : Prop where
  fails : record.FailsAt options steps k error
  first : ∀ earlier < k, ∀ other, ¬ record.FailsAt options steps earlier other
  elsewhere : ∀ index, (∀ step ∈ steps[k]?, step.index? options record ≠ some index) →
    bound.record.fields[index]? = (record.performed options (steps.take k)).fields[index]?
  target : ∀ step ∈ steps[k]?, ∀ index, step.index? options record = some index →
    ∀ name field, (record.performed options (steps.take k)).fields[index]? = some (name, field) →
    Field.kind field ≠ .optional → Field.kind field ≠ .sequence →
    bound.record.fields[index]? = some (name, field)
  later : ∀ others, record.bindSteps options (steps.take (k + 1) ++ others) = bound

theorem StopsAt.unique {record : Record F} {options : BindOptions} {steps : List BindStep}
    {bound : Bound F} {k other : Nat} {error : TagError}
    (stops : record.StopsAt options steps bound k error)
    (otherStops : record.StopsAt options steps bound other error) : other = k := by
  rcases Nat.lt_trichotomy other k with before | same | behind
  · exact absurd otherStops.fails (stops.first other before error)
  · exact same
  · exact absurd stops.fails (otherStops.first k behind error)

/-- A field that is neither optional nor a sequence survives the step that fails on it. -/
theorem fields_of_refused {record : Record F} {options : BindOptions} {step : BindStep}
    {error : TagError} (fails : (record.bindStep options step).error = some error) {index : Nat}
    (addresses : step.index? options record = some index) {name : String} {field : F}
    (found : record.fields[index]? = some (name, field))
    (notOptional : Field.kind field ≠ .optional) (notSequence : Field.kind field ≠ .sequence) :
    (record.bindStep options step).record.fields[index]? = some (name, field) := by
  rw [bindStep_of_addresses addresses found] at fails ⊢
  have refused : (assign step.value field).mismatch ≠ none := by
    intro accepted
    rw [accepted] at fails
    contradiction
  have unchanged := assign_of_mismatch notOptional notSequence refused
  simp [assigned, found, unchanged]

/-- A run that fails stops at one step, and what it leaves is framed by the steps up to it. -/
theorem exists_stopsAt {record : Record F} {options : BindOptions} {steps : List BindStep}
    {error : TagError} (fails : (record.bindSteps options steps).error = some error) :
    ∃ k, record.StopsAt options steps (record.bindSteps options steps) k error ∧
      record.Frame options (steps.take (k + 1)) (record.bindSteps options steps).record := by
  obtain ⟨before, step, after, rfl, succeeds, stops⟩ := exists_first_failure fails
  have sameNames := names_performed record options before
  have stepFails :
      ((record.performed options before).bindStep options step).error = some error := by
    rw [← stops]
    exact fails
  have final : (record.bindSteps options (before ++ step :: after)).record =
      perform options record (record.performed options before) step := by
    rw [stops, record_bindStep, perform_of_names sameNames]
  have found : (before ++ step :: after)[before.length]? = some step := by simp
  have upTo : (before ++ step :: after).take (before.length + 1) = before ++ [step] := by
    rw [List.take_add_one, List.take_left, found]
    rfl
  have upToFails : (record.bindSteps options (before ++ [step])).error = some error := by
    rw [bindSteps_append_of_none succeeds, bindSteps_singleton, record_bindSteps_of_none succeeds]
    exact stepFails
  refine ⟨before.length, ⟨?_, ?_, ?_, ?_, ?_⟩, ?_⟩
  · exact failsAt_append_cons.2 (error_bindStep_iff.1 stepFails)
  · intro earlier inBefore other
    rw [failsAt_append_left inBefore]
    exact not_failsAt_of_error_none succeeds earlier other
  · intro index untouched
    rw [final, List.take_left]
    exact fields_perform_of_ne (untouched step found)
  · intro failing isStep index addresses name field atIndex notOptional notSequence
    obtain rfl : step = failing := by
      rw [found] at isStep
      exact Option.some.inj isStep
    rw [List.take_left] at atIndex
    rw [stops]
    -- the step fails on a record with other fields, but it addresses the same one
    rw [← index?_of_names sameNames] at addresses
    exact fields_of_refused stepFails addresses atIndex notOptional notSequence
  · intro others
    rw [upTo, bindSteps_append_of_some upToFails, stops, bindSteps_append_of_none succeeds,
      bindSteps_singleton, record_bindSteps_of_none succeeds]
  · rw [upTo, final, ← performed_concat]
    exact frame_performed record options (before ++ [step])

end

end Record

/-! ## The order of steps -/

/-- Positional values come first, each for the field of its index, and then keywords in
ascending order. -/
structure Resolved.InOrder (resolved : Resolved) (steps : List BindStep) : Prop where
  positional : ∀ index < resolved.positional.length,
    steps[index]? = (resolved.positional[index]?).map (.positional index)
  keyword : steps.drop resolved.positional.length =
    resolved.keyword.map fun (key, argument) => .keyword key argument
  ascending : resolved.keyword.Pairwise fun entry later => entry.1 < later.1

theorem Resolved.inOrder_steps (resolved : Resolved) : resolved.InOrder resolved.steps where
  positional index inRange := by
    rw [Resolved.steps, List.getElem?_append_left (by simpa using inRange), List.getElem?_map,
      List.getElem?_zipIdx, Option.map_map, Nat.zero_add]
    rfl
  keyword := by
    rw [Resolved.steps, List.drop_append_of_le_length (by simp)]
    simp
  ascending := resolved.ascending

/-- The meaning of binding. Steps are taken in order. A run that succeeds leaves the record
with exactly their assignments; a run that fails stops at one step, the first that fails. Either
way names, types and all fields that no step up to there addresses stay. -/
theorem Record.bind_meaning {F : Type} [TypedField F] (record : Record F) (options : BindOptions)
    (resolved : Resolved) :
    resolved.InOrder resolved.steps ∧
      ((record.bind options resolved).error = none →
        (record.bind options resolved).record = record.performed options resolved.steps ∧
          (∀ k error, ¬ record.FailsAt options resolved.steps k error) ∧
          record.Frame options resolved.steps (record.bind options resolved).record) ∧
      ∀ error, (record.bind options resolved).error = some error →
        ∃! k, record.StopsAt options resolved.steps (record.bind options resolved) k error ∧
          record.Frame options (resolved.steps.take (k + 1))
            (record.bind options resolved).record := by
  refine ⟨resolved.inOrder_steps, fun succeeds => ?_, fun error fails => ?_⟩
  · have final := record_bindSteps_of_none succeeds
    refine ⟨final, not_failsAt_of_error_none succeeds, ?_⟩
    rw [bind, final]
    exact frame_performed record options resolved.steps
  · obtain ⟨k, stops, frame⟩ := exists_stopsAt fails
    exact ⟨k, ⟨stops, frame⟩, fun other both => stops.unique both.1⟩

/-- A count and an optional flag. -/
def countAndFlag : Record Cell :=
  { fields := [("count", .zero .int), ("flag", .zero (.optional .bool))] }

/-- A number for the count, and the flag by its name. -/
def numberAndFlag : Resolved :=
  { positional :=
      [ .number { int := some 7, uint := some 7, float := some (.ofInt 7), text := "7",
                  span := ⟨0, 1⟩ } ]
    keyword := [("flag", ⟨some ⟨"flag", ⟨2, 6⟩⟩, .bool true ⟨7, 11⟩, ⟨2, 11⟩⟩)]
    ascending := List.pairwise_singleton _ _ }

/-- A value for the count, and a text that the flag refuses. -/
def textForFlag : Resolved :=
  { positional := [.nil ⟨0, 3⟩, .string ⟨"'on'", "on", ⟨4, 8⟩⟩]
    keyword := []
    ascending := Keyed.ascending_nil }

/-- The refused flag is present afterwards, so the frame does not cover it. -/
theorem bind_meaning_countAndFlag :
    ((countAndFlag.bind {} numberAndFlag).record =
        countAndFlag.performed {} numberAndFlag.steps ∧
      (countAndFlag.bind {} numberAndFlag).record.fields =
        [("count", .mk .int (.int 7)),
          ("flag", .mk (.optional .bool) (.optional (some (.mk .bool (.bool true)))))]) ∧
    (∃! k, countAndFlag.StopsAt {} textForFlag.steps (countAndFlag.bind {} textForFlag) k
        (.refused .unsupported (.string ⟨"'on'", "on", ⟨4, 8⟩⟩) .bool "flag") ∧
      countAndFlag.Frame {} (textForFlag.steps.take (k + 1))
        (countAndFlag.bind {} textForFlag).record) ∧
      (countAndFlag.bind {} textForFlag).record.fields =
        [("count", .zero .int), ("flag", .mk (.optional .bool) (.optional (some (.zero .bool))))] :=
  ⟨⟨((countAndFlag.bind_meaning {} numberAndFlag).2.1 (by decide +kernel)).1, rfl⟩,
    (countAndFlag.bind_meaning {} textForFlag).2.2 _ rfl, rfl⟩

end RecordTags
