import RecordTags.Field.Assign
import RecordTags.Options
import RecordTags.Record
import RecordTags.Resolved

/-!
Contract: writing the arguments of a tag into a record.

Owns: the steps of binding, what each addresses and writes, and the two modes.
Positional values go to the fields of the same index, in order; then named
arguments go to the fields that their keys address, in key order. The first
step that fails ends the binding. Best-effort binding keeps what was written up
to there, atomic binding keeps the record as it was.
-/

namespace RecordTags

variable {F : Type} [Field F]

/-- One assignment that a tag asks for. -/
inductive BindStep where
  | positional (index : Nat) (value : Value)
  | keyword (key : String) (argument : Argument)

namespace BindStep

/-- What a step addresses. -/
inductive Target where
  | field (index : Nat)
  /-- Nothing, and that is no error. -/
  | nothing
  | missing (error : TagError)

def target (options : BindOptions) (record : Record F) : BindStep → Target
  | positional index value =>
    if index < record.count then .field index
    else .missing (.indexOutOfRange index record.count value.span)
  | keyword key argument =>
    match record.indexOf? options.naming key with
    | some index => .field index
    | none =>
      match options.unknownKeys with
      | .ignore => .nothing
      | .error => .missing (.unknownField key argument.span)

def value : BindStep → Value
  | positional _ value => value
  | keyword _ argument => argument.value

end BindStep

/-- A record after binding, and what went wrong. -/
structure Bound (F : Type) where
  record : Record F
  error : Option TagError

def Mismatch.toError (mismatch : Mismatch) (field : String) : TagError :=
  .refused mismatch.refusal mismatch.value mismatch.kind field

namespace Record

/-- Writes a value into the field at an index, if there is one. -/
def assignAt (record : Record F) (index : Nat) (value : Value) : Bound F :=
  match record.fields[index]? with
  | none => { record, error := none }
  | some (name, field) =>
    let written := assign value field
    { record := record.setField index written.field
      error := written.mismatch.map (·.toError name) }

def bindStep (record : Record F) (options : BindOptions) (step : BindStep) : Bound F :=
  match step.target options record with
  | .field index => record.assignAt index step.value
  | .nothing => { record, error := none }
  | .missing error => { record, error := some error }

/-- Does steps in order, up to the first that fails. -/
def bindSteps (record : Record F) (options : BindOptions) : List BindStep → Bound F
  | [] => { record, error := none }
  | step :: rest =>
    let bound := record.bindStep options step
    match bound.error with
    | some error => { bound with error := some error }
    | none => bound.record.bindSteps options rest

end Record

/-- The steps that the arguments of a tag ask for. -/
def Resolved.steps (resolved : Resolved) : List BindStep :=
  (resolved.positional.zipIdx.map fun (value, index) => .positional index value) ++
    resolved.keyword.map fun (key, argument) => .keyword key argument

namespace Record

/-- Binds arguments; what is written before a failure stays. -/
def bind (record : Record F) (options : BindOptions) (resolved : Resolved) : Bound F :=
  record.bindSteps options resolved.steps

/-- Binds arguments; a failure leaves the record as it was. -/
def bindAtomic (record : Record F) (options : BindOptions) (resolved : Resolved) : Bound F :=
  let bound := record.bind options resolved
  match bound.error with
  | some error => { record, error := some error }
  | none => bound

/-- Binds arguments in the mode that the options give. -/
def bindInMode (record : Record F) (options : BindOptions) (resolved : Resolved) : Bound F :=
  match options.mode with
  | .bestEffort => record.bind options resolved
  | .atomic => record.bindAtomic options resolved

omit [Field F] in
/-- The named arguments that binding passes over. -/
def ignoredKeys (record : Record F) (options : BindOptions) (resolved : Resolved) :
    Keyed Argument :=
  match options.unknownKeys with
  | .error => []
  | .ignore =>
    resolved.keyword.filter fun (key, _) => (record.indexOf? options.naming key).isNone

end Record

end RecordTags
