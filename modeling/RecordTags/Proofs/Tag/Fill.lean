import RecordTags.Proofs.Bind.OldContents
import RecordTags.Proofs.Resolved.Split
import RecordTags.Tag

/-!
Contract: filling a record from a tag does not depend on what the record held.

Owns:
- the fields that the arguments of a tag address, and the steps of binding that
  address them;
- the three things that filling can be: nothing for a tag that is passed over,
  the error of a tag that has no arguments, or a run of steps;
- that filling fails alike on records that are alike, that it makes every field
  that the tag addresses the same in both, and that filling again changes
  nothing.
-/

namespace RecordTags

/-! ## Addressed fields -/

/-- The field that an argument addresses: the one that answers to its key, or without a key the
one of the same position. -/
def Argument.index? {F : Type} (options : BindOptions) (record : Record F) (position : Nat)
    (argument : Argument) : Option Nat :=
  match argument.key? with
  | some key => record.indexOf? options.naming key
  | none => if position < record.count then some position else none

theorem Argument.index?_of_key {F : Type} {options : BindOptions} {record : Record F}
    {position : Nat} {argument : Argument} {key : String} (named : argument.key? = some key) :
    argument.index? options record position = record.indexOf? options.naming key := by
  rw [Argument.index?, named]

/-- An argument of the tag addresses the field. -/
def Tag.Addresses {F : Type} (tag : Tag) (options : BindOptions) (record : Record F)
    (index : Nat) : Prop :=
  ∃ (tree : Tree) (position : Nat) (argument : Argument), tag.parse = .ok tree ∧
    tree.args[position]? = some argument ∧ argument.index? options record position = some index

namespace Resolved

/-- The steps are the positional values and the named arguments. -/
theorem mem_steps {resolved : Resolved} {step : BindStep} :
    step ∈ resolved.steps ↔
      (∃ index value, resolved.positional[index]? = some value ∧
        step = .positional index value) ∨
      ∃ key argument, (key, argument) ∈ resolved.keyword ∧ step = .keyword key argument := by
  rw [steps, List.mem_append, List.mem_map, List.mem_map]
  constructor
  · rintro (⟨⟨value, index⟩, member, rfl⟩ | ⟨⟨key, argument⟩, member, rfl⟩)
    · exact .inl ⟨index, value, List.mk_mem_zipIdx_iff_getElem?.1 member, rfl⟩
    · exact .inr ⟨key, argument, member, rfl⟩
  · rintro (⟨index, value, found, rfl⟩ | ⟨key, argument, member, rfl⟩)
    · exact .inl ⟨(value, index), List.mk_mem_zipIdx_iff_getElem?.2 found, rfl⟩
    · exact .inr ⟨(key, argument), member, rfl⟩

/-- What an argument addresses, a step addresses. -/
theorem IsSplit.exists_step {F : Type} {args : List Argument} {resolved : Resolved}
    (split : resolved.IsSplit args) {options : BindOptions} {record : Record F}
    {position index : Nat} {argument : Argument} (found : args[position]? = some argument)
    (addresses : argument.index? options record position = some index) :
    ∃ step ∈ resolved.steps, step.index? options record = some index := by
  have member := List.mem_of_getElem? found
  cases named : argument.key? with
  | some key =>
      obtain ⟨last, isLast⟩ := exists_isLast member named
      have lastFound := (split.keyword key last).2 isLast
      have lastMember := resolved.ascending.mem_iff.2 lastFound
      rw [Argument.index?_of_key named] at addresses
      exact ⟨.keyword key last, mem_steps.2 (.inr ⟨key, last, lastMember, rfl⟩), addresses⟩
  | none =>
      obtain ⟨front, back, rfl, -, allNamed, values⟩ := split.positional
      have inFront : position < front.length := by
        by_contra beyond
        rw [List.getElem?_append_right (Nat.le_of_not_lt beyond)] at found
        exact allNamed argument (List.mem_of_getElem? found) named
      rw [List.getElem?_append_left inFront] at found
      have isPositional : resolved.positional[position]? = some argument.value := by
        rw [values, List.getElem?_map, found, Option.map_some]
      rw [Argument.index?, named] at addresses
      exact ⟨_, mem_steps.2 (.inl ⟨position, argument.value, isPositional, rfl⟩), addresses⟩

end Resolved

/-! ## Modes -/

namespace Record

section

variable {F : Type} [Field F]

theorem error_bindInMode (record : Record F) (options : BindOptions) (resolved : Resolved) :
    (record.bindInMode options resolved).error =
      (record.bindSteps options resolved.steps).error := by
  unfold bindInMode bindAtomic Record.bind
  cases options.mode with
  | bestEffort => rfl
  | atomic =>
      cases outcome : (record.bindSteps options resolved.steps).error with
      | none => simp only [outcome]
      | some error => simp only [outcome]

/-- The mode makes no difference to binding that succeeds. -/
theorem bindInMode_of_none {record : Record F} {options : BindOptions} {resolved : Resolved}
    (succeeds : (record.bindInMode options resolved).error = none) :
    record.bindInMode options resolved = record.bindSteps options resolved.steps := by
  rw [error_bindInMode] at succeeds
  unfold bindInMode bindAtomic Record.bind
  cases options.mode with
  | bestEffort => rfl
  | atomic => simp only [succeeds]

end

end Record

/-! ## Filling -/

namespace Tag

theorem parse_ne_ok_of_isIgnored {tag : Tag} (ignored : tag.isIgnored = true) (tree : Tree) :
    tag.parse ≠ .ok tree := by
  have isSkip : tag.value = skipText := eq_of_beq ignored
  have refused : (Tree.parse skipText).isOk = false := by decide +kernel
  intro parsed
  rw [parse, isSkip] at parsed
  rw [parsed] at refused
  contradiction

/-- A tag is passed over, or it has no arguments, or it gives a run of steps. -/
theorem fillWith_cases {F : Type} [Field F] (tag : Tag) :
    (tag.isIgnored = true ∧ ∀ options (record : Record F),
      tag.fillWith options record = { record, error := none }) ∨
    (∃ error, ∀ options (record : Record F),
      tag.fillWith options record = { record, error := some error }) ∨
    ∃ tree resolved, tag.parse = .ok tree ∧ resolved.IsSplit tree.args ∧
      ∀ options (record : Record F),
        tag.fillWith options record = record.bindInMode options resolved := by
  by_cases ignored : tag.isIgnored = true
  · refine .inl ⟨ignored, fun options record => ?_⟩
    rw [fillWith, if_pos ignored]
  · right
    cases resolves : tag.resolve with
    | error error =>
        refine .inl ⟨error, fun options record => ?_⟩
        rw [fillWith, if_neg ignored, resolves]
    | ok resolved =>
        right
        have ofText := resolves
        rw [resolve, Resolved.ofText] at ofText
        cases parsed : Tree.parse tag.value with
        | error error =>
            rw [parsed] at ofText
            contradiction
        | ok tree =>
            rw [parsed] at ofText
            refine ⟨tree, resolved, parsed, Resolved.isSplit_of_foldlM ofText, ?_⟩
            intro options record
            rw [fillWith, if_neg ignored, resolves]

variable {F : Type} [ConformingField F]

/-- Filling fails alike on records that are alike. -/
theorem error_fillWith_of_alike {left right : Record F} (alike : left.Alike right) (tag : Tag)
    (options : BindOptions) :
    (tag.fillWith options left).error = (tag.fillWith options right).error := by
  rcases tag.fillWith_cases (F := F) with ⟨-, fills⟩ | ⟨error, fills⟩ |
    ⟨tree, resolved, -, -, fills⟩
  · rw [fills, fills]
  · rw [fills, fills]
  · rw [fills, fills, Record.error_bindInMode, Record.error_bindInMode]
    exact alike.error_bindSteps options resolved.steps

/-- Filling that succeeds makes the fields that the tag addresses the same. -/
theorem fields_fillWith_of_alike {left right : Record F} (alike : left.Alike right) {tag : Tag}
    {options : BindOptions} (succeeds : (tag.fillWith options right).error = none) {index : Nat}
    (addressed : tag.Addresses options left index) :
    (tag.fillWith options left).record.fields[index]? =
      (tag.fillWith options right).record.fields[index]? := by
  have succeedsLeft := (error_fillWith_of_alike alike tag options).trans succeeds
  obtain ⟨tree, position, argument, parsed, found, addresses⟩ := addressed
  rcases tag.fillWith_cases (F := F) with ⟨ignored, -⟩ | ⟨error, fills⟩ |
    ⟨sameTree, resolved, sameParsed, split, fills⟩
  · exact absurd parsed (parse_ne_ok_of_isIgnored ignored tree)
  · rw [fills] at succeeds
    contradiction
  · obtain rfl : tree = sameTree := Except.ok.inj (parsed.symm.trans sameParsed)
    have addressedByStep := split.exists_step found addresses
    rw [fills] at succeeds succeedsLeft
    rw [fills, fills, Record.bindInMode_of_none succeeds, Record.bindInMode_of_none succeedsLeft]
    rw [Record.error_bindInMode] at succeeds
    exact alike.fields_bindSteps succeeds (.inl addressedByStep)

/-- Filling again after filling that succeeds changes nothing. -/
theorem fillWith_fillWith {record : Record F} (conforms : record.Conforms) {tag : Tag}
    {options : BindOptions} (succeeds : (tag.fillWith options record).error = none) :
    tag.fillWith options (tag.fillWith options record).record = tag.fillWith options record := by
  rcases tag.fillWith_cases (F := F) with ⟨-, fills⟩ | ⟨error, fills⟩ |
    ⟨tree, resolved, -, -, fills⟩
  · rw [fills, fills]
  · rw [fills] at succeeds
    contradiction
  · rw [fills] at succeeds
    rw [fills, fills, Record.bindInMode_of_none succeeds]
    rw [Record.error_bindInMode] at succeeds
    have repeated := Record.bindSteps_bindSteps conforms succeeds
    have succeedsAgain : ((record.bindSteps options resolved.steps).record.bindInMode options
        resolved).error = none := by
      rw [Record.error_bindInMode, repeated, succeeds]
    rw [Record.bindInMode_of_none succeedsAgain, repeated]

/-- Filling forgets. On records with the same names and types it has the same outcome; when it
succeeds, all fields that the tag addresses are the same in both, and filling again succeeds and
leaves the record as it is. -/
theorem fillWith_forgets {left right : Record F} (alike : left.Alike right) (tag : Tag)
    (options : BindOptions) :
    (tag.fillWith options left).error = (tag.fillWith options right).error ∧
      ((tag.fillWith options right).error = none →
        (∀ index, tag.Addresses options left index →
          (tag.fillWith options left).record.fields[index]? =
            (tag.fillWith options right).record.fields[index]?) ∧
        tag.fillWith options (tag.fillWith options left).record = tag.fillWith options left) := by
  have sameError := error_fillWith_of_alike alike tag options
  refine ⟨sameError, fun succeeds => ⟨fun index addressed => ?_, ?_⟩⟩
  · exact fields_fillWith_of_alike alike succeeds addressed
  · exact fillWith_fillWith alike.conforms (sameError.trans succeeds)

/-- What is seen of the arguments of a tag is seen of a tree. -/
theorem exists_tree_of_args {α : Type} {tag : Tag} {view : Argument → α} {seen : List α}
    (read : tag.parse.toOption.map (·.args.map view) = some seen) :
    ∃ tree, tag.parse = .ok tree ∧ tree.args.map view = seen := by
  cases parsed : tag.parse with
  | error error =>
      rw [parsed] at read
      contradiction
  | ok tree =>
      rw [parsed] at read
      exact ⟨tree, rfl, Option.some.inj read⟩

/-- Limits and an optional note. -/
def limitsAndNote (limits : List Int64) (note : Option String) : Record Cell :=
  { fields :=
      [ ("limits", .mk (.sequence .int)
          (.sequence (limits.map fun limit => .mk .int (.int limit)))),
        ("note", .mk (.optional .string)
          (.optional (note.map fun text => .mk .string (.text text)))) ] }

theorem conforms_limitsAndNote (limits : List Int64) (note : Option String) :
    (limitsAndNote limits note).Conforms := by
  have conformsLimits : ∀ cell ∈ limits.map fun limit => Cell.mk .int (.int limit),
      cell.type = .int ∧ cell.Conforms := by
    intro cell member
    obtain ⟨limit, -, rfl⟩ := List.mem_map.1 member
    exact ⟨rfl, .int limit⟩
  have conformsNote : (Cell.mk (.optional .string)
      (.optional (note.map fun text => .mk .string (.text text)))).Conforms := by
    cases note with
    | none => exact .absent .string
    | some text => exact .present (.text text)
  unfold limitsAndNote Record.Conforms
  simp only [List.forall_mem_cons]
  exact ⟨.sequence (fun cell member => (conformsLimits cell member).1)
    (fun cell member => (conformsLimits cell member).2), conformsNote, by simp⟩

/-- A tag that writes the note twice. -/
def limitsThenNotes : Tag := { name := "tag", value := "1;-2,note='new',NOTE=latest" }

theorem fillWith_forgets_limitsAndNote :
    (limitsThenNotes.fillWith {} (limitsAndNote [7, 8, 9] (some "old"))).error = none ∧
      (limitsThenNotes.fillWith {} (limitsAndNote [7, 8, 9] (some "old"))).record.fields[1]? =
        (limitsThenNotes.fillWith {} (limitsAndNote [] none)).record.fields[1]? ∧
      limitsThenNotes.fillWith {}
          (limitsThenNotes.fillWith {} (limitsAndNote [7, 8, 9] (some "old"))).record =
        limitsThenNotes.fillWith {} (limitsAndNote [7, 8, 9] (some "old")) := by
  have alike : (limitsAndNote [7, 8, 9] (some "old")).Alike (limitsAndNote [] none) :=
    ⟨rfl, rfl, conforms_limitsAndNote _ _, conforms_limitsAndNote _ _⟩
  have succeeds : (limitsThenNotes.fillWith {} (limitsAndNote [] none)).error = none := by
    decide +kernel
  have addressed : limitsThenNotes.Addresses {} (limitsAndNote [7, 8, 9] (some "old")) 1 := by
    have read : limitsThenNotes.parse.toOption.map (·.args.map Argument.key?) =
        some [none, some "note", some "NOTE"] := by
      decide +kernel
    obtain ⟨tree, parsed, keys⟩ := exists_tree_of_args read
    have second : (tree.args.map Argument.key?)[1]? = some (some "note") := by
      rw [keys]
      rfl
    rw [List.getElem?_map] at second
    obtain ⟨argument, found, named⟩ := Option.map_eq_some_iff.1 second
    refine ⟨tree, 1, argument, parsed, found, ?_⟩
    rw [Argument.index?_of_key named]
    decide +kernel
  obtain ⟨sameError, settled⟩ := fillWith_forgets alike limitsThenNotes {}
  obtain ⟨sameFields, repeated⟩ := settled succeeds
  exact ⟨sameError.trans succeeds, sameFields 1 addressed, repeated⟩

end Tag

end RecordTags
