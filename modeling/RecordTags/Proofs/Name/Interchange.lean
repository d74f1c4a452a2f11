import RecordTags.Proofs.Bind.Meaning
import RecordTags.Proofs.Name.Words
import RecordTags.Schema

/-!
Contract: it makes no difference by what words are joined.

Owns:
- `NameStyle.Agrees`, two styles that take the same names for equal;
- that such styles find the same fields, bind alike, pass over the same keys and
  accept the same schemas.

Forms are compared and never shown to a record, so all that matters about a
style is which names it takes for equal.
-/

namespace RecordTags

/-- Two styles take the same names for equal. -/
def NameStyle.Agrees (style other : NameStyle) : Prop :=
  ∀ left right, style.normalize left = style.normalize right ↔
    other.normalize left = other.normalize right

theorem NameStyle.agrees_of_ne_exact {style other : NameStyle} (notExact : style ≠ .exact)
    (otherNotExact : other ≠ .exact) : style.Agrees other := by
  intro left right
  rw [normalize_eq_iff notExact, normalize_eq_iff otherNotExact]

namespace Record

variable {F : Type} {style other : NameStyle}

/-! ## Records -/

theorem indexOf?_of_agrees (agrees : style.Agrees other) (record : Record F) (key : String) :
    record.indexOf? style key = record.indexOf? other key := by
  unfold indexOf?
  congr 1
  funext name
  rw [Bool.eq_iff_iff, beq_iff_eq, beq_iff_eq]
  exact agrees name key

theorem ignoredKeys_of_agrees (agrees : style.Agrees other) (options : BindOptions)
    (record : Record F) (resolved : Resolved) :
    record.ignoredKeys { options with naming := style } resolved =
      record.ignoredKeys { options with naming := other } resolved := by
  unfold ignoredKeys
  simp only [indexOf?_of_agrees agrees record]

variable [Field F]

theorem bindStep_of_agrees (agrees : style.Agrees other) (options : BindOptions)
    (record : Record F) (step : BindStep) :
    record.bindStep { options with naming := style } step =
      record.bindStep { options with naming := other } step := by
  cases step with
  | positional index value => rfl
  | keyword key argument =>
      simp only [bindStep, BindStep.target, indexOf?_of_agrees agrees record]

theorem bindSteps_of_agrees (agrees : style.Agrees other) (options : BindOptions)
    (record : Record F) (steps : List BindStep) :
    record.bindSteps { options with naming := style } steps =
      record.bindSteps { options with naming := other } steps := by
  induction steps generalizing record with
  | nil => rfl
  | cons step rest inductionHypothesis =>
      rw [bindSteps, bindSteps, bindStep_of_agrees agrees]
      simp only [inductionHypothesis]

end Record

/-! ## Schemas -/

/-- A name collides with the same earlier names, so the first fault is of the same kind. -/
theorem firstNameFault_of_agrees {style other : NameStyle} (agrees : style.Agrees other)
    (earlier names : List String) :
    firstNameFault style earlier names = none ↔ firstNameFault other earlier names = none := by
  induction names generalizing earlier with
  | nil => rfl
  | cons name rest inductionHypothesis =>
      have sameCollision : (earlier.map style.normalize).contains (style.normalize name) =
          (earlier.map other.normalize).contains (other.normalize name) := by
        rw [Bool.eq_iff_iff, List.contains_iff_mem, List.contains_iff_mem]
        simp only [List.mem_map, agrees _ name]
      simp only [firstNameFault, sameCollision]
      split
      · simp
      · split
        · simp
        · split
          · simp
          · exact inductionHypothesis (earlier ++ [name])

namespace Schema

/-- The schema with another way to compare names. -/
def withNaming (schema : Schema) (naming : NameStyle) : Schema :=
  { schema with options := { schema.options with naming } }

theorem fault?_of_agrees {style other : NameStyle} (agrees : style.Agrees other)
    (schema : Schema) :
    (schema.withNaming style).fault? = none ↔ (schema.withNaming other).fault? = none := by
  have sameNames := firstNameFault_of_agrees agrees [] schema.names
  show (if schema.fields.isEmpty then some .noFields else firstNameFault style [] schema.names) =
      none ↔
    (if schema.fields.isEmpty then some .noFields else firstNameFault other [] schema.names) = none
  by_cases noFields : schema.fields.isEmpty = true
  · simp [noFields]
  · simpa [noFields] using sameNames

end Schema

/-! ## Joining by either character -/

/-- Names with the same words are the names that are equal in either style. So both styles find
the same fields, bind with the same outcome, pass over the same keys and accept the same
schemas. -/
theorem NameStyle.kebab_snake_interchangeable :
    (∀ left right : String,
        (kebab.normalize left = kebab.normalize right ↔
            snake.normalize left = snake.normalize right) ∧
          (snake.normalize left = snake.normalize right ↔ Name.words left = Name.words right)) ∧
      (∀ {F : Type} [Field F] (record : Record F) (options : BindOptions) (resolved : Resolved),
        (∀ key, record.indexOf? kebab key = record.indexOf? snake key) ∧
          record.bind { options with naming := kebab } resolved =
            record.bind { options with naming := snake } resolved ∧
          record.ignoredKeys { options with naming := kebab } resolved =
            record.ignoredKeys { options with naming := snake } resolved) ∧
      ∀ schema : Schema,
        (schema.withNaming kebab).fault? = none ↔ (schema.withNaming snake).fault? = none := by
  have agrees : kebab.Agrees snake := agrees_of_ne_exact (by decide) (by decide)
  refine ⟨fun left right => ⟨agrees left right, normalize_eq_iff (by decide)⟩, ?_,
    Schema.fault?_of_agrees agrees⟩
  intro F _ record options resolved
  refine ⟨Record.indexOf?_of_agrees agrees record, ?_, ?_⟩
  · exact Record.bindSteps_of_agrees agrees options record resolved.steps
  · exact Record.ignoredKeys_of_agrees agrees options record resolved

end RecordTags
