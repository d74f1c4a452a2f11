import RecordTags.Proofs.Bind.Meaning

/-!
Contract: named arguments that no field answers to.

Owns:
- `Resolved.without`, arguments with some of the named ones removed;
- that passing over unmatched keys is binding without them, step by step and for
  whole runs;
- that the keys that are passed over are the same before and after binding, and
  the only ones that binding can report as unknown.

Every step looks its key up again, in a record that has changed. What it finds
depends on the names only, and these stay.
-/

namespace RecordTags

def Keyed.lacks {α : Type} (keyed : Keyed α) (key : String) : Bool :=
  keyed.all fun entry => entry.1 != key

/-- The arguments without the named ones whose keys the entries have. -/
def Resolved.without (resolved : Resolved) (entries : Keyed Argument) : Resolved where
  positional := resolved.positional
  keyword := resolved.keyword.filter fun entry => entries.lacks entry.1
  ascending := resolved.ascending.filter _

theorem TagError.exists_of_code {error : TagError} (isUnknown : error.code = .unknownField) :
    ∃ key span, error = .unknownField key span := by
  cases error with
  | unknownField key span => exact ⟨key, span, rfl⟩
  | lexical fault => cases fault <;> contradiction
  | numeric fault => cases fault <;> contradiction
  | refused refusal => cases refusal <;> contradiction
  | _ => contradiction

/-- Whether the step is for a key that no field answers to. -/
def BindStep.isUnmatched {F : Type} (style : NameStyle) (record : Record F) : BindStep → Bool
  | positional _ _ => false
  | keyword key _ => (record.indexOf? style key).isNone

namespace Record

variable {F : Type}

/-! ## Keys that are passed over -/

theorem indexOf?_of_names {left right : Record F} (same : left.names = right.names)
    (style : NameStyle) (key : String) : left.indexOf? style key = right.indexOf? style key := by
  rw [indexOf?, indexOf?, same]

theorem isUnmatched_of_names {left right : Record F} (same : left.names = right.names)
    (style : NameStyle) (step : BindStep) :
    step.isUnmatched style left = step.isUnmatched style right := by
  cases step with
  | positional index value => rfl
  | keyword key argument =>
      rw [BindStep.isUnmatched, BindStep.isUnmatched, indexOf?_of_names same]

theorem ignoredKeys_of_names {left right : Record F} (same : left.names = right.names)
    (options : BindOptions) (resolved : Resolved) :
    left.ignoredKeys options resolved = right.ignoredKeys options resolved := by
  unfold ignoredKeys
  simp only [indexOf?_of_names same]

variable {record : Record F} {options : BindOptions} {resolved : Resolved}

theorem mem_ignoredKeys_iff (ignores : options.unknownKeys = .ignore)
    {entry : String × Argument} :
    entry ∈ record.ignoredKeys options resolved ↔
      entry ∈ resolved.keyword ∧ record.indexOf? options.naming entry.1 = none := by
  unfold ignoredKeys
  rw [ignores, List.mem_filter, Option.isNone_iff_eq_none]

/-- A key is listed exactly when no field answers to it. -/
theorem lacks_ignoredKeys (ignores : options.unknownKeys = .ignore) {entry : String × Argument}
    (member : entry ∈ resolved.keyword) :
    (record.ignoredKeys options resolved).lacks entry.1 =
      (record.indexOf? options.naming entry.1).isSome := by
  rw [Bool.eq_iff_iff, Keyed.lacks, List.all_eq_true, Option.isSome_iff_ne_none]
  constructor
  · intro others unmatched
    have listed := (mem_ignoredKeys_iff ignores).2 ⟨member, unmatched⟩
    simpa using others entry listed
  · intro matched other listed
    rw [bne_iff_ne]
    intro sameKey
    apply matched
    rw [← sameKey]
    exact ((mem_ignoredKeys_iff ignores).1 listed).2

/-- Exactly the listed entries are removed. -/
theorem mem_without_ignoredKeys (ignores : options.unknownKeys = .ignore)
    {entry : String × Argument} :
    entry ∈ (resolved.without (record.ignoredKeys options resolved)).keyword ↔
      entry ∈ resolved.keyword ∧ entry ∉ record.ignoredKeys options resolved := by
  rw [mem_ignoredKeys_iff ignores, Resolved.without, List.mem_filter]
  constructor
  · rintro ⟨member, others⟩
    rw [lacks_ignoredKeys ignores member, Option.isSome_iff_ne_none] at others
    exact ⟨member, fun listed => others listed.2⟩
  · rintro ⟨member, notListed⟩
    refine ⟨member, ?_⟩
    rw [lacks_ignoredKeys ignores member, Option.isSome_iff_ne_none]
    exact fun unmatched => notListed ⟨member, unmatched⟩

/-- The steps of what is left are the steps whose keys have answers. -/
theorem steps_without_ignoredKeys (ignores : options.unknownKeys = .ignore) :
    (resolved.without (record.ignoredKeys options resolved)).steps =
      resolved.steps.filter fun step => !step.isUnmatched options.naming record := by
  unfold Resolved.steps Resolved.without
  rw [List.filter_append, List.filter_map, List.filter_map]
  congr 1
  · congr 1
    symm
    rw [List.filter_eq_self]
    intro entry _
    rfl
  · congr 1
    apply List.filter_congr
    intro entry member
    rw [lacks_ignoredKeys ignores member, ← Option.not_isNone]
    rfl

/-! ## Steps -/

variable [Field F]

/-- A step for an unmatched key does nothing when such keys are passed over. -/
theorem bindStep_of_isUnmatched {step : BindStep} (ignores : options.unknownKeys = .ignore)
    (unmatched : step.isUnmatched options.naming record = true) :
    record.bindStep options step = { record, error := none } := by
  cases step with
  | positional index value => contradiction
  | keyword key argument =>
      have noIndex : record.indexOf? options.naming key = none :=
        Option.isNone_iff_eq_none.1 unmatched
      simp only [bindStep, BindStep.target, noIndex, ignores]

/-- For all other steps it does not matter what becomes of unmatched keys. -/
theorem bindStep_of_unknownKeys {step : BindStep} (unknownKeys : UnknownKeys)
    (matched : step.isUnmatched options.naming record = false) :
    record.bindStep { options with unknownKeys } step = record.bindStep options step := by
  cases step with
  | positional index value => rfl
  | keyword key argument =>
      obtain ⟨index, isIndex⟩ : ∃ index, record.indexOf? options.naming key = some index := by
        rw [← Option.isSome_iff_exists, ← Option.not_isNone, Bool.not_eq_true']
        exact matched
      simp only [bindStep, BindStep.target, isIndex]

/-- Passing over unmatched keys is doing the other steps and insisting on keys there. -/
theorem bindSteps_filter (ignores : options.unknownKeys = .ignore) (record : Record F)
    (steps : List BindStep) :
    record.bindSteps options steps =
      record.bindSteps { options with unknownKeys := .error }
        (steps.filter fun step => !step.isUnmatched options.naming record) := by
  induction steps generalizing record with
  | nil => rfl
  | cons step rest inductionHypothesis =>
      cases unmatched : step.isUnmatched options.naming record with
      | true =>
          have nothing := bindStep_of_isUnmatched ignores unmatched
          have succeeds : (record.bindStep options step).error = none := by rw [nothing]
          rw [bindSteps_cons_of_none succeeds, nothing,
            List.filter_cons_of_neg (by simp [unmatched])]
          exact inductionHypothesis record
      | false =>
          have sameStep := bindStep_of_unknownKeys .error unmatched
          rw [List.filter_cons_of_pos (by simp [unmatched])]
          cases outcome : (record.bindStep options step).error with
          | some error =>
              rw [bindSteps_cons_of_some outcome,
                bindSteps_cons_of_some (by rw [sameStep, outcome]), sameStep]
          | none =>
              -- the step may have changed fields, but not which keys have answers
              have sameNames := names_bindStep options record step
              rw [bindSteps_cons_of_none outcome,
                bindSteps_cons_of_none (by rw [sameStep, outcome]), sameStep, inductionHypothesis]
              simp only [isUnmatched_of_names sameNames]

/-- A key that is reported as unknown is that of a named argument without an answer. -/
theorem exists_of_unknownField {error : TagError}
    (fails : (record.bind options resolved).error = some error)
    (isUnknown : error.code = .unknownField) :
    ∃ key argument, (key, argument) ∈ resolved.keyword ∧
      record.indexOf? options.naming key = none ∧ error = .unknownField key argument.span := by
  obtain ⟨before, step, after, steps, -, stops⟩ := exists_first_failure fails
  obtain ⟨key, span, rfl⟩ := TagError.exists_of_code isUnknown
  have stepFails :
      step.FailsWith options (record.performed options before) (.unknownField key span) := by
    rw [← error_bindStep_iff, ← stops]
    exact fails
  cases stepFails with
  | @unknownKey key argument unmatched =>
      have inSteps : BindStep.keyword key argument ∈ resolved.steps := by
        rw [steps]
        simp
      have inKeyword : (key, argument) ∈ resolved.keyword := by
        simpa [Resolved.steps] using inSteps
      rw [indexOf?_of_names (names_performed record options before)] at unmatched
      exact ⟨key, argument, inKeyword, unmatched, rfl⟩

/-! ## Binding -/

/-- Ignoring keys is deleting their arguments: binding that passes over unmatched keys does what
binding that insists on every key does with the arguments that are left without them. The keys
that are passed over are the same afterwards, and binding that insists reports no other key as
unknown. -/
theorem bind_ignoring (record : Record F) (options : BindOptions)
    (ignores : options.unknownKeys = .ignore) (resolved : Resolved) :
    (∀ entry, entry ∈ (resolved.without (record.ignoredKeys options resolved)).keyword ↔
        entry ∈ resolved.keyword ∧ entry ∉ record.ignoredKeys options resolved) ∧
      record.bind options resolved =
        record.bind { options with unknownKeys := .error }
          (resolved.without (record.ignoredKeys options resolved)) ∧
      (record.bind options resolved).record.ignoredKeys options resolved =
        record.ignoredKeys options resolved ∧
      ∀ error, (record.bind { options with unknownKeys := .error } resolved).error = some error →
        error.code = .unknownField →
          ∃ key argument, (key, argument) ∈ record.ignoredKeys options resolved ∧
            error = .unknownField key argument.span := by
  refine ⟨fun entry => mem_without_ignoredKeys ignores, ?_, ?_, ?_⟩
  · rw [bind, bind, steps_without_ignoredKeys ignores]
    exact bindSteps_filter ignores record resolved.steps
  · exact ignoredKeys_of_names (names_bindSteps options record resolved.steps) options resolved
  · intro error fails isUnknown
    obtain ⟨key, argument, member, unmatched, isError⟩ := exists_of_unknownField fails isUnknown
    exact ⟨key, argument, (mem_ignoredKeys_iff ignores).2 ⟨member, unmatched⟩, isError⟩

end Record

/-- An argument for the flag, and one that no field answers to. -/
def flagAndStranger : Resolved :=
  { positional := []
    keyword :=
      [ ("flag", ⟨some ⟨"flag", ⟨9, 13⟩⟩, .bool true ⟨14, 18⟩, ⟨9, 18⟩⟩),
        ("stranger", ⟨some ⟨"stranger", ⟨0, 8⟩⟩, .nil ⟨9, 12⟩, ⟨0, 12⟩⟩) ]
    ascending := List.pairwise_pair.2 (by decide) }

theorem bind_ignoring_stranger :
    (countAndFlag.ignoredKeys { unknownKeys := .ignore } flagAndStranger).map Prod.fst =
        ["stranger"] ∧
      (countAndFlag.bind { unknownKeys := .ignore } flagAndStranger).error = none ∧
      countAndFlag.bind { unknownKeys := .ignore } flagAndStranger =
        countAndFlag.bind {} (flagAndStranger.without
          (countAndFlag.ignoredKeys { unknownKeys := .ignore } flagAndStranger)) ∧
      ∃ key argument,
        (key, argument) ∈ countAndFlag.ignoredKeys { unknownKeys := .ignore } flagAndStranger ∧
          (countAndFlag.bind {} flagAndStranger).error =
            some (.unknownField key argument.span) := by
  obtain ⟨-, same, -, reported⟩ :=
    countAndFlag.bind_ignoring { unknownKeys := .ignore } rfl flagAndStranger
  have insists : (countAndFlag.bind {} flagAndStranger).error.map TagError.code =
      some .unknownField := by
    decide +kernel
  obtain ⟨error, fails, isUnknown⟩ := Option.map_eq_some_iff.1 insists
  obtain ⟨key, argument, listed, rfl⟩ := reported error fails isUnknown
  exact ⟨by decide +kernel, by decide +kernel, same, key, argument, listed, fails⟩

end RecordTags
