import RecordTags.Proofs.Tree.WellFormed

/-!
Contract: trees whose spans are changed.

Owns: `mapSpans`, which changes every span of a tree and nothing else, and
`withoutSpans`, the special case that forgets them. Two trees are equal apart
from spans when they are equal without them. Whether a tree is well-formed does
not depend on spans.
-/

namespace RecordTags

def Identifier.mapSpans (f : Span → Span) (identifier : Identifier) : Identifier :=
  { identifier with span := f identifier.span }

mutual

/-- The value with all its spans changed. -/
def Value.mapSpans (f : Span → Span) : Value → Value
  | .nil span => .nil (f span)
  | .bool value span => .bool value (f span)
  | .number literal => .number { literal with span := f literal.span }
  | .string literal => .string { literal with span := f literal.span }
  | .identifier identifier => .identifier (identifier.mapSpans f)
  | .slice values span => .slice (mapElementSpans f values) (f span)
  | .switch name enabled span => .switch (name.mapSpans f) enabled (f span)

def mapElementSpans (f : Span → Span) : List Value → List Value
  | [] => []
  | value :: rest => value.mapSpans f :: mapElementSpans f rest

end

def Argument.mapSpans (f : Span → Span) (argument : Argument) : Argument :=
  { name := argument.name.map (·.mapSpans f)
    value := argument.value.mapSpans f
    span := f argument.span }

def Tree.mapSpans (f : Span → Span) (tree : Tree) : Tree :=
  { args := tree.args.map (·.mapSpans f), span := f tree.span }

/-- The value with every span replaced by the empty one. -/
def Value.withoutSpans (value : Value) : Value := value.mapSpans fun _ => .empty 0

def Argument.withoutSpans (argument : Argument) : Argument := argument.mapSpans fun _ => .empty 0

def Tree.withoutSpans (tree : Tree) : Tree := tree.mapSpans fun _ => .empty 0

theorem mapElementSpans_eq_map (f : Span → Span) (values : List Value) :
    mapElementSpans f values = values.map (·.mapSpans f) := by
  induction values with
  | nil => rw [mapElementSpans, List.map_nil]
  | cons value rest inductionHypothesis =>
      rw [mapElementSpans, inductionHypothesis, List.map_cons]

theorem Value.withoutSpans_slice (values : List Value) (span : Span) :
    (Value.slice values span).withoutSpans =
      .slice (values.map Value.withoutSpans) (.empty 0) := by
  rw [Value.withoutSpans, Value.mapSpans, mapElementSpans_eq_map]
  rfl

theorem Identifier.mapSpans_const {left right : Identifier} (same : left.name = right.name)
    (span : Span) : (left.mapSpans fun _ => span) = right.mapSpans fun _ => span := by
  simp only [Identifier.mapSpans, same]

theorem Argument.withoutSpans_ofValue (name : Option Identifier) (value : Value) :
    (Argument.ofValue name value).withoutSpans =
      ⟨name.map (·.mapSpans fun _ => .empty 0), value.withoutSpans, .empty 0⟩ := by
  cases name <;> rfl

/-! ## Well-formedness -/

theorem Value.isSimple_mapSpans {f : Span → Span} {value : Value} :
    (value.mapSpans f).IsSimple ↔ value.IsSimple := by
  cases value <;> rw [Value.mapSpans] <;> exact Iff.rfl

theorem Value.isPlain_mapSpans {f : Span → Span} {value : Value} :
    (value.mapSpans f).IsPlain ↔ value.IsPlain := by
  cases value with
  | slice values span =>
      rw [Value.mapSpans, mapElementSpans_eq_map]
      simp only [Value.IsPlain, List.length_map, List.forall_mem_map, Value.isSimple_mapSpans]
  | nil | bool | number | string | identifier | switch =>
      rw [Value.mapSpans]
      exact Iff.rfl

theorem Argument.key?_mapSpans (f : Span → Span) (argument : Argument) :
    (argument.mapSpans f).key? = argument.key? := by
  unfold Argument.key? Argument.mapSpans
  rw [Option.map_map]
  rfl

/-- Whether an argument is well-formed does not depend on spans. -/
theorem Argument.wellFormed_mapSpans {f : Span → Span} {argument : Argument} :
    (argument.mapSpans f).WellFormed ↔ argument.WellFormed := by
  have value : (argument.mapSpans f).value = argument.value.mapSpans f := rfl
  have named : (∀ name ∈ (argument.mapSpans f).name, name.IsValid) ↔
      ∀ name ∈ argument.name, name.IsValid := by
    simp [Argument.mapSpans, Identifier.mapSpans, Identifier.IsValid]
  unfold Argument.WellFormed
  rw [Argument.key?_mapSpans, value, named]
  cases argument.value with
  | switch name enabled span =>
      rw [Value.mapSpans]
      exact Iff.rfl
  | slice values span =>
      have plain : ((Value.slice values span).mapSpans f).IsPlain ↔
          (Value.slice values span).IsPlain :=
        Value.isPlain_mapSpans
      rw [Value.mapSpans] at plain ⊢
      simp only [plain]
  | nil | bool | number | string | identifier =>
      rw [Value.mapSpans]
      exact Iff.rfl

theorem Tree.wellFormed_mapSpans {f : Span → Span} {tree : Tree} :
    (tree.mapSpans f).WellFormed ↔ tree.WellFormed := by
  simp only [Tree.WellFormed, Tree.mapSpans, List.forall_mem_map, Argument.wellFormed_mapSpans]

/-- Trees that are equal apart from spans are both well-formed or neither is. -/
theorem Tree.wellFormed_iff_of_withoutSpans {left right : Tree}
    (same : left.withoutSpans = right.withoutSpans) : left.WellFormed ↔ right.WellFormed := by
  have mapped : left.withoutSpans.WellFormed ↔ right.withoutSpans.WellFormed := by rw [same]
  exact wellFormed_mapSpans.symm.trans (mapped.trans wellFormed_mapSpans)

end RecordTags
