import RecordTags.Proofs.Field.Conforming
import RecordTags.Proofs.Number.Magnitude

/-!
Contract: the type of a field decides what an assignment does.

Owns:
- `Shape.Fits`, the values that a field of a shape takes, with one rule for each
  kind of shape, and `Shape.denote`, what the field then holds;
- `Shape.Refuses`, what is refused of any other value: the first part of it that
  does not fit, from left to right, and why;
- that every value either fits or is refused, and that assignments to slots and
  to conforming cells do what these rules say, whatever the field held.

Does not own: what an assignment that fails leaves behind.
-/

namespace RecordTags

/-! ## Values that fit -/

/-- A double that is finite, but greater in magnitude than every single float. -/
def Binary.IsBeyondSingle (x : Binary64) : Prop :=
  x.isFinite = true ∧ (Binary.greatest : Binary32).magnitude < x.magnitude

/-- The values that a field of a shape takes. -/
inductive Shape.Fits : Shape → Value → Prop where
  | nil {shape : Shape} {span : Span} : Fits shape (.nil span)
  | present {inner : Shape} {value : Value} (fits : Fits inner value) :
      Fits (.optional inner) value
  | bool {flag : Bool} {span : Span} : Fits .bool (.bool flag span)
  | switch {name : Identifier} {enabled : Bool} {span : Span} :
      Fits .bool (.switch name enabled span)
  | identifier {name : Identifier} : Fits .text (.identifier name)
  | string {literal : QuotedString} : Fits .text (.string literal)
  | int {width : Width} {literal : NumberLiteral} {n : Int64} (reading : literal.int = some n)
      (inRange : width.Signed n.toInt) : Fits (.int width) (.number literal)
  | uint {width : Width} {literal : NumberLiteral} {n : UInt64} (reading : literal.uint = some n)
      (inRange : width.Unsigned n.toNat) : Fits (.uint width) (.number literal)
  | single {literal : NumberLiteral} {x : Binary64} (reading : literal.float = some x)
      (inRange : ¬ x.IsBeyondSingle) : Fits .single (.number literal)
  | double {literal : NumberLiteral} {x : Binary64} (reading : literal.float = some x) :
      Fits .double (.number literal)
  | sequence {element : Shape} {values : List Value} {span : Span}
      (fit : ∀ value ∈ values, Fits element value) : Fits (.sequence element) (.slice values span)

/-- What a field of a shape holds for a value that fits: zero for nil, and otherwise the value
inside all optional layers, a slice element by element. -/
def Shape.denote : (shape : Shape) → Value → Option shape.Carrier
  | .bool => fun
    | .nil _ => some false
    | .bool flag _ => some flag
    | .switch _ enabled _ => some enabled
    | _ => none
  | .int width => fun
    | .nil _ => some (Shape.int width).zero
    | .number literal => literal.int.bind fun n =>
      if inRange : width.Signed n.toInt then some ⟨n.toInt, inRange⟩ else none
    | _ => none
  | .uint width => fun
    | .nil _ => some (Shape.uint width).zero
    | .number literal => literal.uint.bind fun n =>
      if inRange : width.Unsigned n.toNat then some ⟨n.toNat, inRange⟩ else none
    | _ => none
  | .single => fun
    | .nil _ => some (.zero false)
    | .number literal => literal.float.map Binary.convert
    | _ => none
  | .double => fun
    | .nil _ => some (.zero false)
    | .number literal => literal.float
    | _ => none
  | .text => fun
    | .nil _ => some ""
    | .identifier name => some name.name
    | .string literal => some literal.text
    | _ => none
  | .optional inner => fun
    | .nil _ => some none
    | value => (inner.denote value).map some
  | .sequence element => fun
    | .nil _ => some []
    | .slice values _ => values.mapM element.denote
    | _ => none

theorem Shape.denote_nil (shape : Shape) (span : Span) :
    shape.denote (.nil span) = some shape.zero := by
  cases shape <;> rfl

/-! ## Values that are refused -/

/-- A number with a reading of the storage class. -/
def Value.HasReading (kind : FieldKind) (value : Value) : Prop :=
  value.kind = .number ∧ (value.scalar? kind).isSome = true

/-- What a field of a shape refuses of a value that does not fit. -/
inductive Shape.Refuses : Shape → Value → Mismatch → Prop where
  | optional {inner : Shape} {value : Value} {mismatch : Mismatch}
      (refuses : Refuses inner value mismatch) : Refuses (.optional inner) value mismatch
  /-- The first element that does not fit decides. -/
  | element {element : Shape} {before after : List Value} {value : Value} {span : Span}
      {mismatch : Mismatch} (fit : ∀ earlier ∈ before, element.Fits earlier)
      (refuses : Refuses element value mismatch) :
      Refuses (.sequence element) (.slice (before ++ value :: after) span) mismatch
  /-- The value as a whole, for its size exactly if it has a reading of the storage class. -/
  | whole {shape : Shape} {value : Value} {refusal : Refusal}
      (notOptional : shape.kind ≠ .optional)
      (noElements : shape.kind = .sequence → value.kind ≠ .slice)
      (misfit : ¬ shape.Fits value)
      (why : refusal = .outOfRange ↔ value.HasReading shape.kind) :
      Refuses shape value { value, kind := shape.kind, refusal }

/-- No field refuses nil. -/
theorem Shape.Refuses.kind_ne_nil {shape : Shape} {value : Value} {mismatch : Mismatch}
    (refuses : shape.Refuses value mismatch) : value.kind ≠ .nil := by
  induction refuses with
  | optional _ inductionHypothesis => exact inductionHypothesis
  | element =>
      intro isNil
      contradiction
  | @whole shape value refusal notOptional noElements misfit why =>
      intro isNil
      cases value with
      | nil => exact misfit .nil
      | bool | number | string | identifier | slice | switch => contradiction

namespace Shape

/-- A value that is not taken element by element fits or is refused as a whole. -/
theorem fits_or_refuses_whole {shape : Shape} {value : Value}
    (notOptional : shape.kind ≠ .optional)
    (noElements : shape.kind = .sequence → value.kind ≠ .slice) :
    shape.Fits value ∨ ∃ mismatch, shape.Refuses value mismatch := by
  by_cases misfit : shape.Fits value
  · exact .inl misfit
  · right
    by_cases reading : value.HasReading shape.kind
    · exact ⟨{ value, kind := shape.kind, refusal := .outOfRange },
        .whole notOptional noElements misfit (iff_of_true rfl reading)⟩
    · exact ⟨{ value, kind := shape.kind, refusal := .unsupported },
        .whole notOptional noElements misfit (iff_of_false (by decide) reading)⟩

/-- All values of a list fit, or there is a first one that is refused. -/
theorem fit_or_exists_first {element : Shape}
    (each : ∀ value, element.Fits value ∨ ∃ mismatch, element.Refuses value mismatch)
    (values : List Value) :
    (∀ value ∈ values, element.Fits value) ∨
      ∃ before value after mismatch, values = before ++ value :: after ∧
        (∀ earlier ∈ before, element.Fits earlier) ∧ element.Refuses value mismatch := by
  induction values with
  | nil => exact .inl (by simp)
  | cons first rest inductionHypothesis =>
      rcases each first with fits | ⟨mismatch, refuses⟩
      · rcases inductionHypothesis with
          restFits | ⟨before, value, after, mismatch, rfl, fit, refuses⟩
        · exact .inl (List.forall_mem_cons.2 ⟨fits, restFits⟩)
        · exact .inr ⟨first :: before, value, after, mismatch, rfl,
            List.forall_mem_cons.2 ⟨fits, fit⟩, refuses⟩
      · exact .inr ⟨[], first, rest, mismatch, rfl, by simp, refuses⟩

/-- Every value fits or is refused. -/
theorem fits_or_refuses (shape : Shape) (value : Value) :
    shape.Fits value ∨ ∃ mismatch, shape.Refuses value mismatch := by
  induction shape generalizing value with
  | bool | int | uint | single | double | text =>
      exact fits_or_refuses_whole (by rintro ⟨⟩) (by rintro ⟨⟩)
  | optional inner inductionHypothesis =>
      rcases inductionHypothesis value with fits | ⟨mismatch, refuses⟩
      · exact .inl (.present fits)
      · exact .inr ⟨mismatch, .optional refuses⟩
  | sequence element inductionHypothesis =>
      cases value with
      | slice values span =>
          rcases fit_or_exists_first inductionHypothesis values with
            fit | ⟨before, value, after, mismatch, rfl, fit, refuses⟩
          · exact .inl (.sequence fit)
          · exact .inr ⟨mismatch, .element fit refuses⟩
      | nil | bool | number | string | identifier | switch =>
          exact fits_or_refuses_whole (by rintro ⟨⟩) fun _ => by rintro ⟨⟩

end Shape

/-! ## Single floats -/

/-- The check before storing a single float compares exact magnitudes. -/
theorem Slot.exceedsSingle_iff (x : Binary64) :
    Slot.exceedsSingle x = true ↔ x.IsBeyondSingle := by
  have sameFraction : Slot.greatestSingle.numerator * (Binary.greatest : Binary32).denominator =
      (Binary.greatest : Binary32).numerator * Slot.greatestSingle.denominator := by
    decide +kernel
  have sameMagnitude : (Binary.greatest : Binary32).magnitude = Slot.greatestSingle.magnitude := by
    have nonzero (format : Format) (y : Binary format) : (y.denominator : ℚ) ≠ 0 :=
      Nat.cast_ne_zero.2 (Nat.two_pow_pos _).ne'
    unfold Binary.magnitude
    rw [div_eq_div_iff (nonzero _ _) (nonzero _ _)]
    exact_mod_cast sameFraction.symm
  rw [Slot.exceedsSingle, Binary.IsBeyondSingle, sameMagnitude, Binary.magnitude_lt_iff,
    Bool.and_eq_true, decide_eq_true_iff]

/-! ## Optional slots and sequences -/

namespace Slot

theorem offer_eq_store {slot : Slot} {value : Value} {scalar : Scalar}
    (offers : value.scalar? slot.shape.kind = some scalar) :
    Field.offer slot value = Field.store slot scalar := by
  have offersField : value.scalar? (Field.kind slot) = some scalar := offers
  rw [Field.offer, offersField]

theorem offer_eq_error {slot : Slot} {value : Value}
    (offersNothing : value.scalar? slot.shape.kind = none) :
    Field.offer slot value = .error .unsupported := by
  have offersField : value.scalar? (Field.kind slot) = none := offersNothing
  rw [Field.offer, offersField]

theorem assign_of_layers_eq_zero {value : Value} (isScalar : value.IsScalar) {slot : Slot}
    (noLayers : slot.shape.layers = 0) :
    assign value slot = .ofResult value slot (Field.offer slot value) := by
  have noFieldLayers : Field.layers slot = 0 := noLayers
  rw [assign_of_isScalar isScalar, noFieldLayers, writeInside]

/-- A value other than nil goes to the content of an optional field. -/
theorem assign_optional {value : Value} (notNil : value.kind ≠ .nil) (inner : Shape)
    (old : (Shape.optional inner).Carrier) :
    assign value (⟨.optional inner, old⟩ : Slot) =
      { field := withContent ⟨.optional inner, old⟩
          (assign value (⟨inner, Option.getD old inner.zero⟩ : Slot)).field
        mismatch := (assign value (⟨inner, Option.getD old inner.zero⟩ : Slot)).mismatch } := by
  cases value using Value.induct with
  | nil => exact absurd rfl notNil
  | scalar value isScalar =>
      rw [assign_of_isScalar isScalar, assign_of_isScalar isScalar]
      rfl
  | slice values span =>
      rw [assign_slice, assign_slice]
      rfl

theorem assign_sequence (values : List Value) (span : Span) (element : Shape)
    (old : (Shape.sequence element).Carrier) :
    assign (.slice values span) (⟨.sequence element, old⟩ : Slot) =
      { field := withElements ⟨.sequence element, old⟩
          (assignEach values (List.replicate values.length (zero element))).1
        mismatch := (assignEach values (List.replicate values.length (zero element))).2 } := by
  rw [assign_slice]
  rfl

end Slot

/-- Written into any slot of the shape, the value leaves what it denotes. -/
def Shape.Takes (shape : Shape) (value : Value) (held : shape.Carrier) : Prop :=
  shape.denote value = some held ∧
    ∀ old, assign value (⟨shape, old⟩ : Slot) = { field := ⟨shape, held⟩, mismatch := none }

/-- A scalar is taken when the setter that it is offered to accepts it. -/
theorem Shape.takes_of_store {shape : Shape} {value : Value} {scalar : Scalar}
    {held : shape.Carrier} (isScalar : value.IsScalar) (noLayers : shape.layers = 0)
    (denotes : shape.denote value = some held) (offers : value.scalar? shape.kind = some scalar)
    (stored : ∀ old, Field.store (⟨shape, old⟩ : Slot) scalar = .ok ⟨shape, held⟩) :
    shape.Takes value held := by
  refine ⟨denotes, fun old => ?_⟩
  have offered : Field.offer (⟨shape, old⟩ : Slot) value = .ok ⟨shape, held⟩ :=
    (Slot.offer_eq_store offers).trans (stored old)
  rw [Slot.assign_of_layers_eq_zero isScalar noLayers, offered]
  rfl

/-- An optional field takes what its content takes. -/
theorem Shape.Takes.present {inner : Shape} {value : Value} {held : inner.Carrier}
    (notNil : value.kind ≠ .nil) (takes : inner.Takes value held) :
    (Shape.optional inner).Takes value (some held) := by
  have denotes : (Shape.optional inner).denote value = (inner.denote value).map some := by
    cases value with
    | nil => exact absurd rfl notNil
    | bool | number | string | identifier | slice | switch => rfl
  refine ⟨denotes.trans (congrArg (Option.map some) takes.1), fun old => ?_⟩
  rw [Slot.assign_optional notNil, takes.2]
  show Written.mk (⟨.optional inner, Slot.as? inner ⟨inner, held⟩⟩ : Slot) none = _
  rw [Slot.as?_mk]

/-- Elements that are taken are written one by one, and what follows goes on behind them. -/
theorem assignEach_of_takes {element : Shape} {values : List Value}
    (takes : ∀ value ∈ values, ∃ held, element.Takes value held) :
    ∃ held, values.mapM element.denote = some held ∧
      ∀ (rest : List Value) (slots : List Slot),
        assignEach (values ++ rest) (List.replicate values.length (Slot.zero element) ++ slots) =
          (held.map (Slot.mk element) ++ (assignEach rest slots).1, (assignEach rest slots).2) := by
  induction values with
  | nil => exact ⟨[], rfl, fun _ _ => rfl⟩
  | cons value values inductionHypothesis =>
      obtain ⟨⟨first, denotes, assigned⟩, takesRest⟩ := List.forall_mem_cons.1 takes
      obtain ⟨held, denotesRest, assignedRest⟩ := inductionHypothesis takesRest
      refine ⟨first :: held, ?_, fun rest slots => ?_⟩
      · rw [List.mapM_cons, denotes, denotesRest]
        rfl
      · have assignedFirst : assign value (Slot.zero element) =
            { field := ⟨element, first⟩, mismatch := none } := assigned element.zero
        rw [List.cons_append, List.length_cons, List.replicate_succ, List.cons_append,
          assignEach_cons, assignedFirst, assignedRest]
        rfl

theorem Slot.withElements_map_mk {element : Shape} (old : (Shape.sequence element).Carrier)
    (held : List element.Carrier) :
    withElements ⟨.sequence element, old⟩ (held.map (Slot.mk element)) =
      ⟨.sequence element, held⟩ := by
  have kept : (held.map (Slot.mk element)).filterMap (as? element) = held := by
    rw [List.filterMap_map]
    have same : as? element ∘ Slot.mk element = some := funext (as?_mk element)
    rw [same, List.filterMap_some]
  show (⟨.sequence element, (held.map (Slot.mk element)).filterMap (as? element)⟩ : Slot) = _
  rw [kept]

/-! ## Assignments to slots -/

/-- A value that fits is stored. -/
theorem Shape.Fits.exists_takes {shape : Shape} {value : Value} (fits : shape.Fits value) :
    ∃ held, shape.Takes value held := by
  induction fits with
  | @nil shape span =>
      refine ⟨shape.zero, shape.denote_nil span, fun old => ?_⟩
      rw [assign_nil]
      rfl
  | @present inner value _ inductionHypothesis =>
      by_cases isNil : value.kind = .nil
      · cases value with
        | nil span =>
            refine ⟨none, rfl, fun old => ?_⟩
            rw [assign_nil]
            rfl
        | bool | number | string | identifier | slice | switch => contradiction
      · obtain ⟨held, takes⟩ := inductionHypothesis
        exact ⟨some held, takes.present isNil⟩
  | bool | switch | identifier | string =>
      exact ⟨_, takes_of_store trivial rfl rfl rfl fun _ => rfl⟩
  | @int width literal n reading inRange =>
      have denotes : (Shape.int width).denote (.number literal) = some ⟨n.toInt, inRange⟩ :=
        (congrArg (Option.bind · _) reading).trans (dif_pos inRange)
      have offers : Value.scalar? .int (.number literal) = some (.int n) :=
        congrArg (Option.map Scalar.int) reading
      exact ⟨_, takes_of_store trivial rfl denotes offers fun _ => dif_pos inRange⟩
  | @uint width literal n reading inRange =>
      have denotes : (Shape.uint width).denote (.number literal) = some ⟨n.toNat, inRange⟩ :=
        (congrArg (Option.bind · _) reading).trans (dif_pos inRange)
      have offers : Value.scalar? .uint (.number literal) = some (.uint n) :=
        congrArg (Option.map Scalar.uint) reading
      exact ⟨_, takes_of_store trivial rfl denotes offers fun _ => dif_pos inRange⟩
  | @single literal x reading inRange =>
      have denotes : Shape.single.denote (.number literal) = some x.convert :=
        congrArg (Option.map Binary.convert) reading
      have offers : Value.scalar? .float (.number literal) = some (.float x) :=
        congrArg (Option.map Scalar.float) reading
      have inside : ¬ Slot.exceedsSingle x = true := mt (Slot.exceedsSingle_iff x).1 inRange
      exact ⟨_, takes_of_store trivial rfl denotes offers fun _ => if_neg inside⟩
  | @double literal x reading =>
      have offers : Value.scalar? .float (.number literal) = some (.float x) :=
        congrArg (Option.map Scalar.float) reading
      exact ⟨x, takes_of_store trivial rfl reading offers fun _ => rfl⟩
  | @sequence element values span _ inductionHypothesis =>
      obtain ⟨held, denotes, assigned⟩ := assignEach_of_takes inductionHypothesis
      have assignedAll := assigned [] []
      rw [List.append_nil, List.append_nil, assignEach_nil, List.append_nil] at assignedAll
      refine ⟨held, denotes, fun old => ?_⟩
      rw [Slot.assign_sequence, assignedAll, Slot.withElements_map_mk]

theorem Refusal.eq_unsupported {refusal : Refusal} (notRange : refusal ≠ .outOfRange) :
    refusal = .unsupported := by
  cases refusal with
  | unsupported => rfl
  | outOfRange => exact absurd rfl notRange

theorem Refusal.eq_unsupported_of_kind {value : Value} {kind : FieldKind} {refusal : Refusal}
    (why : refusal = .outOfRange ↔ value.HasReading kind) (noNumber : value.kind ≠ .number) :
    refusal = .unsupported :=
  eq_unsupported fun isRange => noNumber (why.1 isRange).1

/-- A number with a reading of the storage class fits unless the width has no room for it. -/
theorem Slot.store_of_misfit {shape : Shape} {old : shape.Carrier} {literal : NumberLiteral}
    {scalar : Scalar} (misfit : ¬ shape.Fits (.number literal))
    (offers : (Value.number literal).scalar? shape.kind = some scalar) :
    Field.store (⟨shape, old⟩ : Slot) scalar = .error .outOfRange := by
  cases shape with
  | bool | text | optional | sequence => contradiction
  | int width =>
      obtain ⟨n, reading, rfl⟩ := Option.map_eq_some_iff.1 offers
      exact dif_neg fun inRange => misfit (.int reading inRange)
  | uint width =>
      obtain ⟨n, reading, rfl⟩ := Option.map_eq_some_iff.1 offers
      exact dif_neg fun inRange => misfit (.uint reading inRange)
  | single =>
      obtain ⟨x, reading, rfl⟩ := Option.map_eq_some_iff.1 offers
      have outside : Slot.exceedsSingle x = true := by
        by_contra inRange
        exact misfit (.single reading (mt (Slot.exceedsSingle_iff x).2 inRange))
      exact if_pos outside
  | double =>
      obtain ⟨x, reading, rfl⟩ := Option.map_eq_some_iff.1 offers
      exact absurd (.double reading) misfit

/-- A scalar that does not fit is refused, for its size if it has a reading. -/
theorem Slot.offer_of_misfit {slot : Slot} {value : Value} (isScalar : value.IsScalar)
    (misfit : ¬ slot.shape.Fits value) {refusal : Refusal}
    (why : refusal = .outOfRange ↔ value.HasReading slot.shape.kind) :
    Field.offer slot value = .error refusal := by
  cases offers : value.scalar? slot.shape.kind with
  | none =>
      have noRange : refusal = .unsupported := by
        refine Refusal.eq_unsupported fun isRange => ?_
        have reading := (why.1 isRange).2
        rw [offers] at reading
        contradiction
      rw [offer_eq_error offers, noRange]
  | some scalar =>
      rw [offer_eq_store offers]
      obtain ⟨shape, old⟩ := slot
      cases value with
      | nil | slice => contradiction
      | bool flag span =>
          cases offers
          rw [Refusal.eq_unsupported_of_kind why (by rintro ⟨⟩)]
          cases shape with
          | bool => exact absurd .bool misfit
          | _ => rfl
      | switch name enabled span =>
          cases offers
          rw [Refusal.eq_unsupported_of_kind why (by rintro ⟨⟩)]
          cases shape with
          | bool => exact absurd .switch misfit
          | _ => rfl
      | identifier name =>
          cases offers
          rw [Refusal.eq_unsupported_of_kind why (by rintro ⟨⟩)]
          cases shape with
          | text => exact absurd .identifier misfit
          | _ => rfl
      | string literal =>
          cases offers
          rw [Refusal.eq_unsupported_of_kind why (by rintro ⟨⟩)]
          cases shape with
          | text => exact absurd .string misfit
          | _ => rfl
      | number literal =>
          have isRange : refusal = .outOfRange := why.2 ⟨rfl, Option.isSome_of_mem offers⟩
          rw [isRange]
          exact store_of_misfit misfit offers

/-- A value that does not fit is refused in the part that the rules name. -/
theorem Shape.Refuses.mismatch_assign {shape : Shape} {value : Value} {mismatch : Mismatch}
    (refuses : shape.Refuses value mismatch) (old : shape.Carrier) :
    (assign value (⟨shape, old⟩ : Slot)).mismatch = some mismatch := by
  induction refuses with
  | optional refuses inductionHypothesis =>
      rw [Slot.assign_optional refuses.kind_ne_nil]
      exact inductionHypothesis _
  | @element element before after value span mismatch fit refuses inductionHypothesis =>
      obtain ⟨held, -, assigned⟩ :=
        assignEach_of_takes fun earlier member => (fit earlier member).exists_takes
      have refused : (assign value (Slot.zero element)).mismatch = some mismatch :=
        inductionHypothesis element.zero
      rw [Slot.assign_sequence, List.length_append, List.replicate_add, assigned,
        List.length_cons, List.replicate_succ, assignEach_cons, refused]
  | @whole shape value refusal notOptional noElements misfit why =>
      have noLayers : shape.layers = 0 := Shape.layers_eq_zero notOptional
      cases value using Value.induct with
      | nil => exact absurd .nil misfit
      | scalar value isScalar =>
          rw [Slot.assign_of_layers_eq_zero isScalar noLayers,
            Slot.offer_of_misfit isScalar misfit why]
          rfl
      | slice values span =>
          have noNew : Field.newElements (⟨shape, old⟩ : Slot) values.length =
              .error .unsupported := by
            cases shape with
            | sequence => exact absurd rfl (noElements rfl)
            | _ => rfl
          have noRange : refusal = .unsupported :=
            Refusal.eq_unsupported_of_kind why (by rintro ⟨⟩)
          have noFieldLayers : Field.layers (⟨shape, old⟩ : Slot) = 0 := noLayers
          rw [assign_slice, noFieldLayers, writeInside, writeElements, noNew, noRange]
          rfl

/-! ## All fields -/

/-- An assignment that the shape of the field decides: it succeeds with the values that fit, and
leaves what they denote; otherwise it names the part that is refused. -/
structure Written.DirectedBy {F : Type} (shape : Shape) (value : Value)
    (ofHeld : shape.Carrier → F) (written : Written F) : Prop where
  accepted : written.mismatch = none ↔ shape.Fits value
  stored : shape.Fits value → ∃ held, shape.denote value = some held ∧ written.field = ofHeld held
  refused : ∀ mismatch, written.mismatch = some mismatch ↔ shape.Refuses value mismatch

/-- The shape of a slot decides what becomes of an assignment, whatever the slot held. -/
theorem Slot.directedBy_assign (value : Value) (slot : Slot) :
    (assign value slot).DirectedBy slot.shape value (Slot.mk slot.shape) := by
  obtain ⟨shape, old⟩ := slot
  rcases shape.fits_or_refuses value with fits | ⟨mismatch, refuses⟩
  · obtain ⟨held, denotes, assigned⟩ := fits.exists_takes
    rw [assigned old]
    refine ⟨iff_of_true rfl fits, fun _ => ⟨held, denotes, rfl⟩, fun mismatch => ?_⟩
    refine iff_of_false (by rintro ⟨⟩) fun refuses => ?_
    have refused := refuses.mismatch_assign old
    rw [assigned old] at refused
    contradiction
  · have refused := refuses.mismatch_assign old
    have misfit : ¬ shape.Fits value := by
      intro fits
      obtain ⟨held, -, assigned⟩ := fits.exists_takes
      rw [assigned old] at refused
      contradiction
    refine ⟨iff_of_false ?_ misfit, fun fits => absurd fits misfit, fun other => ⟨?_, ?_⟩⟩
    · rw [refused]
      exact Option.some_ne_none _
    · intro isOther
      rw [refused, Option.some.injEq] at isOther
      rwa [← isOther]
    · intro otherRefuses
      exact otherRefuses.mismatch_assign old

theorem Written.DirectedBy.map {A B : Type} {shape : Shape} {value : Value}
    {ofHeld : shape.Carrier → A} {written : Written A}
    (directed : written.DirectedBy shape value ofHeld) (form : A → B) :
    (written.map form).DirectedBy shape value (form ∘ ofHeld) where
  accepted := directed.accepted
  stored fits := by
    obtain ⟨held, denotes, same⟩ := directed.stored fits
    exact ⟨held, denotes, congrArg form same⟩
  refused := directed.refused

/-- The type of a field decides what becomes of an assignment, for fields of every shape and for
conforming cells of every type, whatever they held. -/
theorem assign_directed (value : Value) :
    (∀ slot : Slot, (assign value slot).DirectedBy slot.shape value (Slot.mk slot.shape)) ∧
      ∀ cell : Cell, cell.Conforms →
        (assign value cell).DirectedBy cell.type.shape value cell.type.shape.cell := by
  refine ⟨Slot.directedBy_assign value, fun cell conforms => ?_⟩
  obtain ⟨held, same⟩ := conforms.exists_value
  let slot : Slot := ⟨cell.type.shape, held⟩
  have isCell : slot.toCell = cell := same
  have asSlot : assign value slot.toCell = (assign value slot).map Slot.toCell :=
    slot.assign_toCell value cell.type.isWide_shape
  rw [isCell] at asSlot
  rw [asSlot]
  exact (Slot.directedBy_assign value slot).map Slot.toCell

/-- Of `nil;7;256;7` a sequence of optional bytes refuses `256`, and a sequence of optional
integers takes `nil;7`. -/
theorem assign_directed_optionalCounts :
    let seven : Value := .number
      { int := some 7, uint := some 7, float := none, text := "7", span := ⟨4, 5⟩ }
    let large : Value := .number
      { int := some 256, uint := some 256, float := none, text := "256", span := ⟨6, 9⟩ }
    let bytes : Slot := ⟨.sequence (.optional (.uint .w8)), [some ⟨3, by decide⟩]⟩
    let counts : Cell := .mk (.sequence (.optional .uint)) (.sequence [])
    (assign (.slice [.nil ⟨0, 3⟩, seven, large, seven] ⟨0, 11⟩) bytes).mismatch =
        some { value := large, kind := .uint, refusal := .outOfRange } ∧
      (assign (.slice [.nil ⟨0, 3⟩, seven] ⟨0, 5⟩) counts).field =
        .mk (.sequence (.optional .uint)) (.sequence [
          .mk (.optional .uint) (.optional none),
          .mk (.optional .uint) (.optional (some (.mk .uint (.uint 7))))]) := by
  intro seven large bytes counts
  constructor
  · refine (((assign_directed _).1 bytes).refused _).2 ?_
    have tooLarge : ¬ (Shape.uint .w8).Fits large := by
      intro fits
      dsimp only [large] at fits
      cases fits with
      | uint reading inRange =>
          cases reading
          exact absurd inRange (by decide)
    refine @Shape.Refuses.element _ [.nil ⟨0, 3⟩, seven] [seven] large _ _ ?_
      (.optional (.whole (by rintro ⟨⟩) (by rintro ⟨⟩) tooLarge (iff_of_true rfl ⟨rfl, rfl⟩)))
    simp only [List.forall_mem_cons, List.not_mem_nil, false_imp_iff, implies_true, and_true]
    exact ⟨.nil, .present (.uint rfl (by decide))⟩
  · have conforms : counts.Conforms := .sequence (by simp) (by simp)
    have fits : counts.type.shape.Fits (.slice [.nil ⟨0, 3⟩, seven] ⟨0, 5⟩) := by
      refine .sequence ?_
      simp only [List.forall_mem_cons, List.not_mem_nil, false_imp_iff, implies_true, and_true]
      exact ⟨.nil, .present (.uint rfl (by decide))⟩
    obtain ⟨held, denotes, stored⟩ := ((assign_directed _).2 counts conforms).stored fits
    rw [stored]
    cases denotes
    rfl

end RecordTags
