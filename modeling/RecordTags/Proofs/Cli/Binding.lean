import RecordTags.Cli.Answer
import RecordTags.Proofs.Tag.Fill

/-!
Contract: the three ways to fill a record from a tag agree.

Owns:
- what the mode changes about binding: nothing for steps, and after a failure
  only the record;
- the form of the diagnostics of `Cli.bindTag`: notes, and then the failure of
  filling if there is one;
- `Cli.ReportsFill`, a record with diagnostics that match the outcome of
  filling.

Does not own: which steps of binding fail, and what they leave behind.
-/

namespace RecordTags

/-! ## Modes -/

namespace Record

variable {F : Type} [Field F]

/-- Steps do not look at the mode. -/
theorem bindSteps_of_mode (mode : BindMode) (options : BindOptions) (steps : List BindStep)
    (record : Record F) :
    record.bindSteps { options with mode } steps = record.bindSteps options steps := by
  induction steps generalizing record with
  | nil => rfl
  | cons step rest inductionHypothesis =>
      have sameStep :
          record.bindStep { options with mode } step = record.bindStep options step := by
        cases step <;> rfl
      rw [bindSteps, bindSteps, sameStep]
      simp only [inductionHypothesis]

theorem bindInMode_bestEffort (record : Record F) (options : BindOptions) (resolved : Resolved) :
    record.bindInMode { options with mode := .bestEffort } resolved =
      record.bindSteps options resolved.steps :=
  bindSteps_of_mode .bestEffort options resolved.steps record

/-- Atomic binding that fails leaves the record as it was. -/
theorem record_bindInMode_of_atomic {record : Record F} {options : BindOptions}
    {resolved : Resolved} (atomic : options.mode = .atomic)
    (fails : (record.bindInMode options resolved).error ≠ none) :
    (record.bindInMode options resolved).record = record := by
  rw [error_bindInMode] at fails
  obtain ⟨error, failed⟩ := Option.ne_none_iff_exists'.1 fails
  unfold bindInMode bindAtomic Record.bind
  rw [atomic]
  simp only [failed]

omit [Field F] in
/-- Binding passes over the keys that no name answers to, if it may. -/
theorem mem_ignoredKeys {record : Record F} {options : BindOptions} {resolved : Resolved}
    {key : String} {argument : Argument} :
    (key, argument) ∈ record.ignoredKeys options resolved ↔
      options.unknownKeys = .ignore ∧ (key, argument) ∈ resolved.keyword ∧
        ∀ name ∈ record.names, options.naming.normalize name ≠ options.naming.normalize key := by
  unfold ignoredKeys
  cases options.unknownKeys with
  | error => simp
  | ignore =>
      rw [List.mem_filter, Option.isNone_iff_eq_none, indexOf?, List.findIdx?_eq_none_iff]
      simp

omit [Field F] in
theorem ascending_ignoredKeys (record : Record F) (options : BindOptions) (resolved : Resolved) :
    (record.ignoredKeys options resolved).Ascending := by
  unfold ignoredKeys
  cases options.unknownKeys with
  | error => exact Keyed.ascending_nil
  | ignore => exact resolved.ascending.filter _

end Record

/-- A tag that is passed over has no arguments. -/
theorem Tag.not_isIgnored_of_resolve {tag : Tag} {resolved : Resolved}
    (resolves : tag.resolve = .ok resolved) : ¬ tag.isIgnored = true := by
  intro ignored
  rw [resolve, Resolved.ofText] at resolves
  cases parsed : Tree.parse tag.value with
  | error error =>
      rw [parsed] at resolves
      contradiction
  | ok tree => exact parse_ne_ok_of_isIgnored ignored tree parsed

/-- The mode decides about the record after a failure, and about nothing else. -/
theorem Tag.fillWith_of_atomic {F : Type} [Field F] (tag : Tag) {options : BindOptions}
    (atomic : options.mode = .atomic) (record : Record F) :
    ((tag.fillWith options record).error ≠ none →
      (tag.fillWith options record).record = record) ∧
    ((tag.fillWith options record).error = none →
      tag.fillWith options record = tag.fillWith { options with mode := .bestEffort } record) := by
  rcases tag.fillWith_cases (F := F) with ⟨-, fills⟩ | ⟨error, fills⟩ |
    ⟨tree, resolved, -, -, fills⟩
  · rw [fills, fills]
    exact ⟨fun _ => rfl, fun _ => rfl⟩
  · rw [fills, fills]
    exact ⟨fun _ => rfl, fun _ => rfl⟩
  · rw [fills, fills]
    refine ⟨Record.record_bindInMode_of_atomic atomic, fun succeeds => ?_⟩
    rw [Record.bindInMode_of_none succeeds, Record.bindInMode_bestEffort]

/-! ## Reports -/

namespace Cli

variable {F : Type} [Field F]

def isWarning (diagnostic : Diagnostic) : Bool := diagnostic.severity == .warn

/-- The warnings about named arguments that are passed over. -/
def ignoredWarnings (skipped : Keyed Argument) : List Diagnostic :=
  skipped.map fun (key, argument) => ignoredWarning key argument

theorem severity_of_mem_ignoredWarnings {skipped : Keyed Argument} {diagnostic : Diagnostic}
    (member : diagnostic ∈ ignoredWarnings skipped) : diagnostic.severity = .warn := by
  obtain ⟨⟨key, argument⟩, -, rfl⟩ := List.mem_map.1 member
  rfl

/-- The tag is reported as filling does it: notes that are no errors, and then the failure. -/
theorem exists_notes_bindTag (tag : Tag) (options : BindOptions) (record : Record F) :
    ∃ notes : List Diagnostic,
      bindTag tag options record = ((tag.fillWith options record).record,
        notes ++ (tag.fillWith options record).error.toList.map TagError.toDiagnostic) ∧
      (∀ note ∈ notes, note.isError = false) ∧
      ∀ resolved, tag.resolve = .ok resolved →
        notes = ignoredWarnings (record.ignoredKeys options resolved) := by
  by_cases ignored : tag.isIgnored = true
  · refine ⟨[skippedNote], ?_, by simp [skippedNote, Diagnostic.ofCode, Diagnostic.isError], ?_⟩
    · rw [bindTag, Tag.fillWith, if_pos ignored, if_pos ignored]
      rfl
    · intro resolved resolves
      exact absurd ignored (Tag.not_isIgnored_of_resolve resolves)
  · cases resolves : tag.resolve with
    | error error =>
        refine ⟨[], ?_, by simp, fun resolved other => by contradiction⟩
        rw [bindTag, Tag.fillWith, if_neg ignored, if_neg ignored, resolves]
        rfl
    | ok resolved =>
        refine ⟨ignoredWarnings (record.ignoredKeys options resolved), ?_, ?_, ?_⟩
        · rw [bindTag, Tag.fillWith, if_neg ignored, if_neg ignored, resolves]
          rfl
        · intro note member
          rw [Diagnostic.isError, severity_of_mem_ignoredWarnings member]
          rfl
        · intro other same
          rw [Except.ok.inj same]

/-- A record and diagnostics that match the outcome of filling a record from a tag. -/
structure ReportsFill (tag : Tag) (options : BindOptions) (old record : Record F)
    (diagnostics : List Diagnostic) : Prop where
  record : record = (tag.fillWith options old).record
  hasError : hasError diagnostics = true ↔ ∃ error, (tag.fillWith options old).error = some error
  /-- The failure is reported last, and it is the only error. -/
  error : ∀ error, (tag.fillWith options old).error = some error →
    diagnostics.getLast? = some error.toDiagnostic ∧
      diagnostics.filter Diagnostic.isError = [error.toDiagnostic]
  /-- There is one warning for each key that is passed over, in the order of the keys. -/
  warnings : ∀ resolved, tag.resolve = .ok resolved →
    ∃ skipped : Keyed Argument, skipped.Ascending ∧
      (∀ key argument, (key, argument) ∈ skipped ↔
        options.unknownKeys = .ignore ∧ (key, argument) ∈ resolved.keyword ∧
          ∀ name ∈ old.names, options.naming.normalize name ≠ options.naming.normalize key) ∧
      diagnostics.filter isWarning = ignoredWarnings skipped

theorem isError_toDiagnostic (error : TagError) : error.toDiagnostic.isError = true := rfl

/-- What is reported about a tag matches the outcome of filling. -/
theorem reportsFill_bindTag (tag : Tag) (options : BindOptions) (record : Record F) :
    ReportsFill tag options record (bindTag tag options record).1
      (bindTag tag options record).2 := by
  obtain ⟨notes, reported, noErrors, warned⟩ := exists_notes_bindTag tag options record
  rw [reported]
  have noneOfNotes : notes.filter Diagnostic.isError = [] := by
    simpa [List.filter_eq_nil_iff] using noErrors
  refine ⟨rfl, ?_, ?_, ?_⟩
  · rw [hasError, List.any_append, List.any_eq_false.2 (by simpa using noErrors), Bool.false_or]
    cases (tag.fillWith options record).error with
    | none => simp
    | some error => simp [isError_toDiagnostic]
  · intro error fails
    rw [fails]
    refine ⟨List.getLast?_concat, ?_⟩
    rw [List.filter_append, noneOfNotes]
    rfl
  · intro resolved resolves
    refine ⟨record.ignoredKeys options resolved, record.ascending_ignoredKeys options resolved,
      fun _ _ => Record.mem_ignoredKeys, ?_⟩
    have allOfWarnings : (ignoredWarnings (record.ignoredKeys options resolved)).filter
        isWarning = ignoredWarnings (record.ignoredKeys options resolved) := by
      refine List.filter_eq_self.2 fun diagnostic member => ?_
      rw [isWarning, severity_of_mem_ignoredWarnings member]
      rfl
    rw [warned resolved resolves, List.filter_append, allOfWarnings]
    cases (tag.fillWith options record).error with
    | none => exact List.append_nil _
    | some error => exact List.append_nil _

/-- The three ways to fill a record agree. Filling is filling with default options; binding a tag
from the command line leaves the same record and reports the same failure; and the atomic mode
keeps the record on failure and makes no difference otherwise. -/
theorem fill_agrees (tag : Tag) (options : BindOptions) (record : Record F) :
    tag.fill record = tag.fillWith {} record ∧
      ReportsFill tag options record (bindTag tag options record).1
        (bindTag tag options record).2 ∧
      (options.mode = .atomic →
        ((tag.fillWith options record).error ≠ none →
          (tag.fillWith options record).record = record) ∧
        ((tag.fillWith options record).error = none →
          tag.fillWith options record =
            tag.fillWith { options with mode := .bestEffort } record)) :=
  ⟨rfl, reportsFill_bindTag tag options record,
    fun atomic => tag.fillWith_of_atomic atomic record⟩

/-- A tag that writes the first field, gives the second a text and names a third. -/
def countThenText : Tag := { name := "tag", value := "5,level='high',zone=1" }

def countAndLevel : Record Cell :=
  { fields := [("count", .mk .int (.int 1)), ("level", .mk .int (.int 2))] }

/-- Bound at once or not at all, with names that may be unknown, the tag leaves the record as it
is. -/
theorem fill_agrees_countAndLevel :
    let options : BindOptions := { unknownKeys := .ignore, mode := .atomic }
    (bindTag countThenText options countAndLevel).1 = countAndLevel ∧
      hasError (bindTag countThenText options countAndLevel).2 = true := by
  intro options
  obtain ⟨-, reports, kept⟩ := fill_agrees countThenText options countAndLevel
  have fails : (countThenText.fillWith options countAndLevel).error ≠ none := by
    rw [← Option.isSome_iff_ne_none]
    decide +kernel
  refine ⟨reports.record.trans ((kept rfl).1 fails), reports.hasError.2 ?_⟩
  exact Option.ne_none_iff_exists'.1 fails

end Cli

end RecordTags
