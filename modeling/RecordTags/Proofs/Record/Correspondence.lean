import Mathlib.Data.List.Forall2
import RecordTags.Proofs.Bind.OldContents

/-!
Contract: records of slots and records of cells do the same.

Owns:
- `Operation`, what can be asked of a record: to bind arguments in either way, to
  name the keys that binding passes over, and to make a call on a field that is
  found by its index or by its name;
- `Record.Corresponds`: the same names in the same order, and fields that
  correspond;
- that a sequence of operations gets the same answers from records that
  correspond, and that they correspond after every operation.

A step lemma for each operation says that it commutes with `Record.toCells`, and
the run lemma follows by induction, since no operation changes a shape.
-/

namespace RecordTags

/-! ## Operations -/

inductive Operation where
  | bind (options : BindOptions) (resolved : Resolved)
  | bindAtomic (options : BindOptions) (resolved : Resolved)
  | ignoredKeys (options : BindOptions) (resolved : Resolved)
  | callAt (index : Nat) (call : Call)
  | callNamed (style : NameStyle) (key : String) (call : Call)

inductive Answer where
  | bound (error : Option TagError)
  | ignored (arguments : Keyed Argument)
  /-- The reply of the field, if there is one. -/
  | reply (reply : Option Reply)

section

variable {F : Type} [Field F]

/-- Makes a call on the field at an index. -/
def Record.callAt (record : Record F) (index : Nat) (call : Call) : Answer × Record F :=
  match record.field? index with
  | none => (.reply none, record)
  | some field => (.reply (some (call.run field).1), record.setField index (call.run field).2)

/-- The answer to an operation, and the record after it. -/
def Operation.run (record : Record F) : Operation → Answer × Record F
  | bind options resolved =>
      let bound := record.bind options resolved
      (.bound bound.error, bound.record)
  | bindAtomic options resolved =>
      let bound := record.bindAtomic options resolved
      (.bound bound.error, bound.record)
  | ignoredKeys options resolved => (.ignored (record.ignoredKeys options resolved), record)
  | callAt index call => record.callAt index call
  | callNamed style key call =>
      match record.indexOf? style key with
      | none => (.reply none, record)
      | some index => record.callAt index call

/-- The answers to operations made one after the other, each with the record after it. -/
def Record.trace (record : Record F) : List Operation → List (Answer × Record F)
  | [] => []
  | operation :: rest => operation.run record :: (operation.run record).2.trace rest

end

/-! ## Correspondence -/

namespace Record

/-- The same names in the same order, and fields that correspond. -/
def Corresponds (slots : Record Slot) (cells : Record Cell) : Prop :=
  List.Forall₂ (fun slot cell => slot.1 = cell.1 ∧ RecordTags.Corresponds slot.2 cell.2)
    slots.fields cells.fields

def toCells (slots : Record Slot) : Record Cell :=
  { fields := slots.fields.map fun (name, slot) => (name, slot.toCell) }

/-- All shapes belong to types. -/
def IsWide (slots : Record Slot) : Prop := ∀ shape ∈ slots.types, shape.IsWide

theorem isWide_iff {slots : Record Slot} :
    slots.IsWide ↔ ∀ entry ∈ slots.fields, entry.2.shape.IsWide := by
  unfold IsWide types
  rw [List.forall_mem_map]
  rfl

theorem IsWide.slot {slots : Record Slot} (wide : slots.IsWide) {index : Nat} {name : String}
    {slot : Slot} (found : slots.fields[index]? = some (name, slot)) : slot.shape.IsWide :=
  isWide_iff.1 wide (name, slot) (List.mem_of_getElem? found)

/-- Records correspond when the cells are those of the slots. -/
theorem corresponds_iff {slots : Record Slot} {cells : Record Cell} :
    slots.Corresponds cells ↔ slots.IsWide ∧ cells = slots.toCells := by
  obtain ⟨slots⟩ := slots
  obtain ⟨cells⟩ := cells
  simp only [Corresponds, toCells, isWide_iff, Record.mk.injEq]
  induction slots generalizing cells with
  | nil => simp [List.forall₂_nil_left_iff]
  | cons entry rest inductionHypothesis =>
      obtain ⟨name, slot⟩ := entry
      cases cells with
      | nil => simp
      | cons other others =>
          obtain ⟨otherName, cell⟩ := other
          rw [List.forall₂_cons, inductionHypothesis, RecordTags.corresponds_iff,
            List.forall_mem_cons, List.map_cons, List.cons.injEq, Prod.mk.injEq]
          constructor
          · rintro ⟨⟨rfl, wide, rfl⟩, wideRest, rfl⟩
            exact ⟨⟨wide, wideRest⟩, ⟨rfl, rfl⟩, rfl⟩
          · rintro ⟨⟨wide, wideRest⟩, ⟨rfl, rfl⟩, rfl⟩
            exact ⟨⟨rfl, wide, rfl⟩, wideRest, rfl⟩

theorem conforms_toCells (slots : Record Slot) : slots.toCells.Conforms := by
  intro entry member
  obtain ⟨slot, -, rfl⟩ := List.mem_map.1 member
  exact Shape.conforms_cell slot.2.shape slot.2.value

/-! ## Binding -/

theorem names_toCells (slots : Record Slot) : slots.toCells.names = slots.names := by
  simp [names, toCells]

theorem indexOf?_toCells (slots : Record Slot) (style : NameStyle) (key : String) :
    slots.toCells.indexOf? style key = slots.indexOf? style key := by
  rw [indexOf?, names_toCells, indexOf?]

theorem count_toCells (slots : Record Slot) : slots.toCells.count = slots.count := by
  simp [count, toCells]

theorem fields_toCells (slots : Record Slot) (index : Nat) :
    slots.toCells.fields[index]? =
      (slots.fields[index]?).map fun (name, slot) => (name, slot.toCell) := by
  simp [toCells]

theorem setField_toCells (slots : Record Slot) (index : Nat) (slot : Slot) :
    slots.toCells.setField index slot.toCell = (slots.setField index slot).toCells := by
  unfold setField toCells
  congr 1
  apply List.ext_getElem?
  intro position
  simp only [List.getElem?_map, List.getElem?_modify]
  by_cases same : index = position
  · cases slots.fields[position]? <;> simp [same]
  · simp [same]

end Record

def Bound.toCells (bound : Bound Slot) : Bound Cell :=
  { record := bound.record.toCells, error := bound.error }

theorem BindStep.target_toCells (options : BindOptions) (slots : Record Slot) (step : BindStep) :
    step.target options slots.toCells = step.target options slots := by
  cases step with
  | positional index value => rw [target, target, Record.count_toCells]
  | keyword key argument => rw [target, target, Record.indexOf?_toCells]

namespace Record

/-- An assignment to a slot and one to its cell correspond. -/
theorem assignAt_toCells {slots : Record Slot} (wide : slots.IsWide) (index : Nat)
    (value : Value) :
    slots.toCells.assignAt index value = (slots.assignAt index value).toCells := by
  unfold assignAt
  rw [fields_toCells]
  cases found : slots.fields[index]? with
  | none => rfl
  | some entry =>
      obtain ⟨name, slot⟩ := entry
      have assigned := Slot.assign_toCell value (wide.slot found)
      simp only [Option.map_some, assigned, Written.map, setField_toCells, Bound.toCells]

theorem bindStep_toCells {slots : Record Slot} (wide : slots.IsWide) (options : BindOptions)
    (step : BindStep) :
    slots.toCells.bindStep options step = (slots.bindStep options step).toCells := by
  unfold bindStep
  rw [BindStep.target_toCells]
  cases step.target options slots with
  | field index => exact assignAt_toCells wide index step.value
  | nothing | missing error => rfl

theorem types_bindStep {F : Type} [TypedField F] (record : Record F) (options : BindOptions)
    (step : BindStep) : (record.bindStep options step).record.types = record.types := by
  rw [record_bindStep]
  exact map_fields_performed (fun value _ field => typeOf_assign value field) options record
    record [step]

/-- Binding cells is binding slots. -/
theorem bindSteps_toCells {slots : Record Slot} (wide : slots.IsWide) (options : BindOptions)
    (steps : List BindStep) :
    slots.toCells.bindSteps options steps = (slots.bindSteps options steps).toCells := by
  induction steps generalizing slots with
  | nil => rfl
  | cons step rest inductionHypothesis =>
      have sameStep := bindStep_toCells wide options step
      have wideAfter : (slots.bindStep options step).record.IsWide := by
        rwa [IsWide, types_bindStep]
      cases outcome : (slots.bindStep options step).error with
      | none =>
          have outcomeCells : (slots.toCells.bindStep options step).error = none := by
            rw [sameStep]
            exact outcome
          rw [bindSteps_cons_of_none outcome, bindSteps_cons_of_none outcomeCells, sameStep]
          exact inductionHypothesis wideAfter
      | some error =>
          have outcomeCells : (slots.toCells.bindStep options step).error = some error := by
            rw [sameStep]
            exact outcome
          rw [bindSteps_cons_of_some outcome, bindSteps_cons_of_some outcomeCells, sameStep]

theorem types_bindSteps {F : Type} [TypedField F] (record : Record F) (options : BindOptions)
    (steps : List BindStep) : (record.bindSteps options steps).record.types = record.types := by
  induction steps generalizing record with
  | nil => rfl
  | cons step rest inductionHypothesis =>
      have kept := types_bindStep record options step
      cases outcome : (record.bindStep options step).error with
      | none => rw [bindSteps_cons_of_none outcome, inductionHypothesis, kept]
      | some error => rw [bindSteps_cons_of_some outcome, kept]

theorem bindAtomic_toCells {slots : Record Slot} (wide : slots.IsWide) (options : BindOptions)
    (resolved : Resolved) :
    slots.toCells.bindAtomic options resolved = (slots.bindAtomic options resolved).toCells := by
  unfold bindAtomic Record.bind
  rw [bindSteps_toCells wide]
  cases outcome : (slots.bindSteps options resolved.steps).error with
  | none => simp only [Bound.toCells, outcome]
  | some error => simp only [Bound.toCells, outcome]

theorem types_bindAtomic {F : Type} [TypedField F] (record : Record F) (options : BindOptions)
    (resolved : Resolved) : (record.bindAtomic options resolved).record.types = record.types := by
  simp only [bindAtomic]
  split
  next => rfl
  next => exact types_bindSteps record options resolved.steps

theorem ignoredKeys_toCells (slots : Record Slot) (options : BindOptions) (resolved : Resolved) :
    slots.toCells.ignoredKeys options resolved = slots.ignoredKeys options resolved := by
  simp only [ignoredKeys, indexOf?_toCells]

/-! ## Calls -/

/-- A call on a slot and one on its cell correspond. -/
theorem callAt_toCells {slots : Record Slot} (wide : slots.IsWide) (index : Nat) (call : Call) :
    slots.toCells.callAt index call =
      ((slots.callAt index call).1, (slots.callAt index call).2.toCells) := by
  unfold callAt field?
  rw [fields_toCells]
  cases found : slots.fields[index]? with
  | none => rfl
  | some entry =>
      obtain ⟨name, slot⟩ := entry
      have ran := Slot.run_toCell call (wide.slot found)
      simp only [Option.map_some, ran, setField_toCells]

/-- No call changes the types of a record. -/
theorem types_callAt {F : Type} [TypedField F] (record : Record F) (index : Nat) (call : Call) :
    (record.callAt index call).2.types = record.types := by
  unfold callAt field?
  cases found : record.fields[index]? with
  | none => rfl
  | some entry =>
      obtain ⟨name, field⟩ := entry
      apply List.ext_getElem?
      intro position
      simp only [Option.map_some, setField, types, List.getElem?_map, List.getElem?_modify]
      by_cases same : index = position
      · rw [← same, found]
        simp [call.typeOf_run]
      · simp [same]

end Record

/-! ## Runs -/

/-- An operation on cells is the operation on their slots. -/
theorem Operation.run_toCells {slots : Record Slot} (wide : slots.IsWide)
    (operation : Operation) :
    operation.run slots.toCells =
      ((operation.run slots).1, (operation.run slots).2.toCells) := by
  cases operation with
  | bind options resolved =>
      simp only [run, Record.bind, Record.bindSteps_toCells wide, Bound.toCells]
  | bindAtomic options resolved =>
      simp only [run, Record.bindAtomic_toCells wide, Bound.toCells]
  | ignoredKeys options resolved => simp only [run, Record.ignoredKeys_toCells]
  | callAt index call => simp only [run, Record.callAt_toCells wide]
  | callNamed style key call =>
      simp only [run, Record.indexOf?_toCells]
      cases slots.indexOf? style key with
      | none => rfl
      | some index => exact Record.callAt_toCells wide index call

/-- No operation changes the types of a record. -/
theorem Operation.types_run {F : Type} [TypedField F] (record : Record F)
    (operation : Operation) : (operation.run record).2.types = record.types := by
  cases operation with
  | bind options resolved => exact Record.types_bindSteps record options resolved.steps
  | bindAtomic options resolved => exact Record.types_bindAtomic record options resolved
  | ignoredKeys options resolved => rfl
  | callAt index call => exact Record.types_callAt record index call
  | callNamed style key call =>
      simp only [run]
      cases record.indexOf? style key with
      | none => rfl
      | some index => exact Record.types_callAt record index call

theorem Operation.isWide_run {slots : Record Slot} (wide : slots.IsWide)
    (operation : Operation) : (operation.run slots).2.IsWide := by
  rwa [Record.IsWide, operation.types_run]

namespace Record

/-- Slots and their cells give the same answers to any operations, and correspond after each. -/
theorem trace_toCells {slots : Record Slot} (wide : slots.IsWide) (operations : List Operation) :
    slots.toCells.trace operations =
      (slots.trace operations).map fun (answer, after) => (answer, after.toCells) := by
  induction operations generalizing slots with
  | nil => rfl
  | cons operation rest inductionHypothesis =>
      have wideAfter := operation.isWide_run wide
      rw [trace, trace, operation.run_toCells wide, inductionHypothesis wideAfter, List.map_cons]

theorem isWide_of_mem_trace {slots : Record Slot} (wide : slots.IsWide)
    {operations : List Operation} {after : Answer × Record Slot}
    (member : after ∈ slots.trace operations) : after.2.IsWide := by
  induction operations generalizing slots with
  | nil => contradiction
  | cons operation rest inductionHypothesis =>
      have wideAfter := operation.isWide_run wide
      rcases List.mem_cons.1 member with rfl | inRest
      · exact wideAfter
      · exact inductionHypothesis wideAfter inRest

/-- Records that correspond give the same answers, and correspond after every operation; so the
cells conform to their types all the time. -/
theorem trace_of_corresponds {slots : Record Slot} {cells : Record Cell}
    (corresponds : slots.Corresponds cells) (operations : List Operation) :
    List.Forall₂ (fun left right => left.1 = right.1 ∧ left.2.Corresponds right.2)
        (slots.trace operations) (cells.trace operations) ∧
      ∀ after ∈ cells.trace operations, after.2.Conforms := by
  obtain ⟨wide, rfl⟩ := corresponds_iff.1 corresponds
  rw [trace_toCells wide]
  refine ⟨?_, ?_⟩
  · rw [List.forall₂_map_right_iff, List.forall₂_same]
    intro after member
    exact ⟨rfl, corresponds_iff.2 ⟨isWide_of_mem_trace wide member, rfl⟩⟩
  · intro after member
    obtain ⟨before, -, rfl⟩ := List.mem_map.1 member
    exact conforms_toCells before.2

/-- A count and an optional flag, with shapes that are fixed. -/
def fixedCountAndFlag : Record Slot :=
  { fields := [("count", .zero (.int .w64)), ("flag", .zero (.optional .bool))] }

/-- Binding that the flag refuses, calls on what it has become, and binding that changes
nothing. -/
def refusedThenCalled : List Operation :=
  [ .bind {} textForFlag, .callNamed .snake "Flag" (.optional [.text "on", .bool true]),
    .callAt 0 (.int (-5)), .callAt 2 .zero, .bindAtomic {} textForFlag ]

def presentFlag (value : Bool) : Cell :=
  .mk (.optional .bool) (.optional (some (.mk .bool (.bool value))))

theorem trace_of_corresponds_countAndFlag :
    fixedCountAndFlag.Corresponds countAndFlag ∧
      List.Forall₂ (fun left right => left.1 = right.1 ∧ left.2.Corresponds right.2)
        (fixedCountAndFlag.trace refusedThenCalled) (countAndFlag.trace refusedThenCalled) ∧
      (∀ after ∈ countAndFlag.trace refusedThenCalled, after.2.Conforms) ∧
      (countAndFlag.trace refusedThenCalled).map (fun after => after.2.fields.map Prod.snd) =
        [ [.zero .int, presentFlag false], [.zero .int, presentFlag true],
          [.mk .int (.int (-5)), presentFlag true], [.mk .int (.int (-5)), presentFlag true],
          [.mk .int (.int (-5)), presentFlag true] ] := by
  have wide : fixedCountAndFlag.IsWide := by
    intro shape member
    rcases List.mem_cons.1 member with rfl | member
    · rfl
    · rw [List.mem_singleton.1 member]
      rfl
  have corresponds : fixedCountAndFlag.Corresponds countAndFlag :=
    corresponds_iff.2 ⟨wide, rfl⟩
  obtain ⟨agree, conform⟩ := trace_of_corresponds corresponds refusedThenCalled
  exact ⟨corresponds, agree, conform, rfl⟩

end Record

end RecordTags
