import Mathlib.Data.List.Forall2
import RecordTags.Proofs.Field.Literal
import RecordTags.Proofs.Name.Words
import RecordTags.Proofs.Tag.Fill

/-!
Contract: values are written into a tag and read back from it.

Owns:
- `Choice`, a value chosen for a field, with a literal of the value, and the text
  of choices as positional or as keyword arguments;
- that this text is read as arguments that carry the choices, in order;
- that filling a record from it leaves exactly the chosen values, whatever the
  record held, and for keywords in whatever order they are written.

The chosen record is a fixed point of the steps that the text asks for, and the
steps address every field; a record that is alike ends as the chosen one.
-/

namespace RecordTags

open RecordTags.Text

/-! ## Choices -/

/-- A field by its name, the value that is chosen for it, and a literal of the value. -/
structure Choice where
  name : String
  cell : Cell
  literal : List Char
  isLiteral : cell.IsLiteral literal

namespace Choice

/-- The argument as written, behind its name or alone. -/
def text (named : Bool) (choice : Choice) : List Char :=
  if named then choice.name.toList ++ '=' :: choice.literal else choice.literal

/-- The text of a tag with the arguments. -/
def tagText (named : Bool) (choices : List Choice) : String :=
  String.ofList (joinWith argumentSeparator (choices.map (text named)))

/-- The record that holds the choices. -/
def record (choices : List Choice) : Record Cell :=
  { fields := choices.map fun choice => (choice.name, choice.cell) }

theorem names_record (choices : List Choice) : (record choices).names = choices.map name := by
  simp [record, Record.names]

theorem conforms_record (choices : List Choice) : (record choices).Conforms := by
  intro entry member
  obtain ⟨choice, -, rfl⟩ := List.mem_map.1 member
  exact choice.isLiteral.conforms

theorem fields_record (choices : List Choice) (index : Nat) :
    (record choices).fields[index]? =
      (choices[index]?).map fun choice => (choice.name, choice.cell) := by
  simp [record]

/-! ## Reading -/

/-- The argument has the name of the choice, or none, and its value writes the chosen one. -/
structure IsCarriedBy (named : Bool) (argument : Argument) (choice : Choice) : Prop where
  key : argument.key? = if named then some choice.name else none
  writes : argument.value.Writes choice.cell

theorem isCarriedBy_withoutSpans {named : Bool} {argument : Argument} {choice : Choice} :
    IsCarriedBy named argument.withoutSpans choice ↔ IsCarriedBy named argument choice := by
  have sameKey : argument.withoutSpans.key? = argument.key? := argument.key?_mapSpans _
  have sameWrites : argument.withoutSpans.value.Writes choice.cell ↔
      argument.value.Writes choice.cell := Value.writes_mapSpans
  constructor
  · rintro ⟨key, writes⟩
    exact ⟨sameKey.symm.trans key, sameWrites.1 writes⟩
  · rintro ⟨key, writes⟩
    exact ⟨sameKey.trans key, sameWrites.2 writes⟩

/-- The text of a choice is that of an argument which carries it. -/
theorem exists_argument {named : Bool} {choice : Choice}
    (valid : named = true → IsName choice.name.toList) :
    ∃ argument : Argument, argument.WellFormed ∧ argument.chars = choice.text named ∧
      IsCarriedBy named argument choice := by
  obtain ⟨value, plain, chars, writes⟩ := choice.isLiteral.exists_value
  cases named with
  | false =>
      refine ⟨.ofValue none value, Argument.wellFormed_ofValue plain (by simp), ?_, rfl, writes⟩
      rw [Argument.chars_ofValue plain, chars]
      rfl
  | true =>
      have isValid : ∀ identifier ∈ some (Identifier.mk choice.name (.empty 0)),
          identifier.IsValid := by
        rintro identifier ⟨⟩
        exact valid rfl
      refine ⟨.ofValue (some ⟨choice.name, .empty 0⟩) value,
        Argument.wellFormed_ofValue plain isValid, ?_, rfl, writes⟩
      rw [Argument.chars_ofValue plain, chars, nameText, List.append_assoc]
      rfl

/-- The texts of choices are those of arguments, one for each. -/
theorem exists_arguments {named : Bool} {choices : List Choice}
    (valid : ∀ choice ∈ choices, named = true → IsName choice.name.toList) :
    ∃ args : List Argument, (∀ argument ∈ args, argument.WellFormed) ∧
      args.map Argument.chars = choices.map (text named) ∧
      List.Forall₂ (IsCarriedBy named) args choices := by
  induction choices with
  | nil => exact ⟨[], by simp, rfl, .nil⟩
  | cons choice rest inductionHypothesis =>
      obtain ⟨validChoice, validRest⟩ := List.forall_mem_cons.1 valid
      obtain ⟨argument, wellFormed, chars, carries⟩ := exists_argument validChoice
      obtain ⟨args, allWellFormed, texts, carryRest⟩ := inductionHypothesis validRest
      refine ⟨argument :: args, List.forall_mem_cons.2 ⟨wellFormed, allWellFormed⟩, ?_,
        .cons carries carryRest⟩
      rw [List.map_cons, List.map_cons, chars, texts]

/-- The text of choices is read as arguments that carry them. -/
theorem exists_parse_tagText {named : Bool} {choices : List Choice}
    (valid : ∀ choice ∈ choices, named = true → IsName choice.name.toList) :
    ∃ tree, Tree.parse (tagText named choices) = .ok tree ∧
      List.Forall₂ (IsCarriedBy named) tree.args choices := by
  obtain ⟨args, wellFormed, texts, carry⟩ := exists_arguments valid
  let written : Tree := { args, span := .empty 0 }
  have isText : written.render = tagText named choices := by
    rw [Tree.render, Tree.chars, texts]
    rfl
  have writtenWellFormed : written.WellFormed := wellFormed
  obtain ⟨tree, parsed, same⟩ := Tree.parse_render_of_wellFormed writtenWellFormed
  rw [isText] at parsed
  have sameArgs : tree.args.map Argument.withoutSpans = args.map Argument.withoutSpans :=
    congrArg Tree.args same
  -- carrying a choice does not depend on spans, so it passes to what is read
  have carryWithout : List.Forall₂ (IsCarriedBy named) (args.map Argument.withoutSpans) choices :=
    List.forall₂_map_left_iff.2 (carry.imp fun _ _ => isCarriedBy_withoutSpans.2)
  rw [← sameArgs, List.forall₂_map_left_iff] at carryWithout
  exact ⟨tree, parsed, carryWithout.imp fun _ _ => isCarriedBy_withoutSpans.1⟩

end Choice

/-! ## Binding -/

/-- The arguments address all fields of a record, and each writes what its field holds. -/
structure Restates (options : BindOptions) (record : Record Cell) (args : List Argument) :
    Prop where
  writes : ∀ (position : Nat) (argument : Argument), args[position]? = some argument →
    ∃ index name cell, argument.index? options record position = some index ∧
      record.fields[index]? = some (name, cell) ∧ argument.value.Writes cell
  covers : ∀ index < record.count, ∃ (position : Nat) (argument : Argument),
    args[position]? = some argument ∧ argument.index? options record position = some index

namespace Record

theorem assigned_eq_self {record : Record Cell} {index : Nat} {name : String} {cell : Cell}
    (found : record.fields[index]? = some (name, cell)) {value : Value}
    (same : (assign value cell).field = cell) : record.assigned index value = record := by
  have sameFields : (record.assigned index value).fields = record.fields := by
    apply List.ext_getElem?
    intro position
    by_cases isIndex : index = position
    · rw [← isIndex, fields_assigned_self found, same, found]
    · exact fields_assigned_of_ne isIndex value
  exact congrArg Record.mk sameFields

/-- Steps that write what their fields hold leave the record as it is. -/
theorem bindSteps_of_writes {record : Record Cell} (conforms : record.Conforms)
    {options : BindOptions} {steps : List BindStep}
    (writes : ∀ step ∈ steps, ∃ index name cell, step.index? options record = some index ∧
      record.fields[index]? = some (name, cell) ∧ step.value.Writes cell) :
    record.bindSteps options steps = { record, error := none } := by
  induction steps with
  | nil => rfl
  | cons step rest inductionHypothesis =>
      obtain ⟨⟨index, name, cell, addresses, found, writesCell⟩, writesRest⟩ :=
        List.forall_mem_cons.1 writes
      have written := writesCell cell (conforms.field found) rfl
      have rests : record.bindStep options step = { record, error := none } := by
        rw [bindStep_of_addresses addresses found, written, assigned_eq_self found]
        · rfl
        · rw [written]
      have succeeds : (record.bindStep options step).error = none := by rw [rests]
      rw [bindSteps_cons_of_none succeeds, rests]
      exact inductionHypothesis writesRest

end Record

/-- The steps of arguments write what the arguments write. -/
theorem Resolved.IsSplit.writes {args : List Argument} {resolved : Resolved}
    (split : resolved.IsSplit args) {options : BindOptions} {record : Record Cell}
    (restates : Restates options record args) :
    ∀ step ∈ resolved.steps, ∃ index name cell, step.index? options record = some index ∧
      record.fields[index]? = some (name, cell) ∧ step.value.Writes cell := by
  intro step member
  rcases mem_steps.1 member with ⟨position, value, found, rfl⟩ | ⟨key, argument, inKeywords, rfl⟩
  · obtain ⟨front, back, rfl, unnamed, -, values⟩ := split.positional
    rw [values, List.getElem?_map] at found
    obtain ⟨argument, foundArgument, rfl⟩ := Option.map_eq_some_iff.1 found
    have foundAll : (front ++ back)[position]? = some argument := by
      rw [List.getElem?_append_left (List.getElem?_eq_some_iff.1 foundArgument).1, foundArgument]
    have isUnnamed := unnamed argument (List.mem_of_getElem? foundArgument)
    obtain ⟨index, name, cell, addresses, atIndex, writes⟩ :=
      restates.writes position argument foundAll
    rw [Argument.index?, isUnnamed] at addresses
    exact ⟨index, name, cell, addresses, atIndex, writes⟩
  · have isLast := (split.keyword key argument).1 (resolved.ascending.mem_iff.1 inKeywords)
    obtain ⟨position, foundArgument⟩ := List.getElem?_of_mem isLast.mem.1
    obtain ⟨index, name, cell, addresses, atIndex, writes⟩ :=
      restates.writes position argument foundArgument
    rw [Argument.index?_of_key isLast.mem.2] at addresses
    exact ⟨index, name, cell, addresses, atIndex, writes⟩

/-- Arguments that restate a record turn every record that is alike into it. -/
theorem Restates.bindSteps {options : BindOptions} {chosen record : Record Cell}
    {args : List Argument} (restates : Restates options chosen args)
    (alike : record.Alike chosen) {resolved : Resolved} (split : resolved.IsSplit args) :
    record.bindSteps options resolved.steps = { record := chosen, error := none } := by
  apply alike.bindSteps_eq
  · exact Record.bindSteps_of_writes alike.conformsRight (split.writes restates)
  · intro index inRange
    rw [alike.count] at inRange
    obtain ⟨position, argument, found, addresses⟩ := restates.covers index inRange
    obtain ⟨step, member, stepAddresses⟩ := split.exists_step found addresses
    exact ⟨step, member, (Record.index?_of_names alike.names options step).trans stepAddresses⟩

/-! ## Filling -/

/-- Filling from a tag that can be split is doing its steps. -/
theorem Tag.fill_of_parse {F : Type} [Field F] {tag : Tag} {tree : Tree} {resolved : Resolved}
    (parsed : tag.parse = .ok tree) (resolves : tree.resolve = .ok resolved) (record : Record F) :
    tag.fill record = record.bindSteps {} resolved.steps := by
  have notIgnored : ¬ tag.isIgnored = true := fun ignored =>
    parse_ne_ok_of_isIgnored ignored tree parsed
  have resolvesTag : tag.resolve = .ok resolved := by
    rw [Tag.parse] at parsed
    rw [Tag.resolve, Resolved.ofText, parsed]
    exact resolves
  rw [Tag.fill, if_neg notIgnored, resolvesTag]
  rfl

theorem exists_of_forall₂ {α β : Type} {related : α → β → Prop} {left : List α} {right : List β}
    (all : List.Forall₂ related left right) {index : Nat} {a : α} (found : left[index]? = some a) :
    ∃ b, right[index]? = some b ∧ related a b := by
  obtain ⟨sameLength, pairwise⟩ := List.forall₂_iff_get.1 all
  obtain ⟨inLeft, rfl⟩ := List.getElem?_eq_some_iff.1 found
  have inRight : index < right.length := by omega
  exact ⟨_, List.getElem?_eq_getElem inRight, pairwise index inLeft inRight⟩

namespace Choice

theorem index?_of_isCarriedBy {argument : Argument} {choice : Choice}
    (carries : IsCarriedBy true argument choice) (options : BindOptions) (declared : Record Cell)
    (position : Nat) :
    argument.index? options declared position = declared.indexOf? options.naming choice.name :=
  Argument.index?_of_key carries.key

/-- Positional arguments restate the record of their choices. -/
theorem restates_of_positional {choices : List Choice} {args : List Argument}
    (carry : List.Forall₂ (IsCarriedBy false) args choices) :
    Restates {} (record choices) args := by
  have atPosition : ∀ {position : Nat} {argument : Argument} {choice : Choice},
      choices[position]? = some choice → IsCarriedBy false argument choice →
        argument.index? {} (record choices) position = some position := by
    intro position argument choice found carries
    have inRange : position < (record choices).count := by
      have below := (List.getElem?_eq_some_iff.1 found).1
      simpa [Record.count, record] using below
    rw [Argument.index?, carries.key]
    exact if_pos inRange
  refine ⟨?_, ?_⟩
  · intro position argument found
    obtain ⟨choice, foundChoice, carries⟩ := exists_of_forall₂ carry found
    refine ⟨position, choice.name, choice.cell, atPosition foundChoice carries, ?_, carries.writes⟩
    rw [fields_record, foundChoice, Option.map_some]
  · intro index inRange
    have below : index < choices.length := by simpa [Record.count, record] using inRange
    obtain ⟨argument, found, carries⟩ :=
      exists_of_forall₂ carry.flip (List.getElem?_eq_getElem below)
    exact ⟨index, argument, found, atPosition (List.getElem?_eq_getElem below) carries⟩

/-- Keyword arguments in any order restate the record of their choices. -/
theorem restates_of_keyword {choices order : List Choice} {args : List Argument}
    (carry : List.Forall₂ (IsCarriedBy true) args order) (permuted : order.Perm choices)
    (distinct : ((record choices).names.map NameStyle.kebab.normalize).Nodup) :
    Restates {} (record choices) args := by
  have ownField : ∀ {index : Nat} {choice : Choice}, choices[index]? = some choice →
      (record choices).indexOf? .kebab choice.name = some index := by
    intro index choice found
    apply Record.indexOf?_of_nodup distinct
    rw [names_record, List.getElem?_map, found, Option.map_some]
  refine ⟨?_, ?_⟩
  -- the argument's position is one in the order; its field is where the choice stands in the record
  · intro position argument found
    obtain ⟨choice, foundChoice, carries⟩ := exists_of_forall₂ carry found
    have member := permuted.mem_iff.1 (List.mem_of_getElem? foundChoice)
    obtain ⟨index, atIndex⟩ := List.getElem?_of_mem member
    refine ⟨index, choice.name, choice.cell, ?_, ?_, carries.writes⟩
    · exact (index?_of_isCarriedBy carries {} _ position).trans (ownField atIndex)
    · rw [fields_record, atIndex, Option.map_some]
  · intro index inRange
    have below : index < choices.length := by simpa [Record.count, record] using inRange
    have atIndex := List.getElem?_eq_getElem below
    have member := permuted.mem_iff.2 (List.mem_of_getElem? atIndex)
    obtain ⟨position, foundChoice⟩ := List.getElem?_of_mem member
    obtain ⟨argument, found, carries⟩ := exists_of_forall₂ carry.flip foundChoice
    refine ⟨position, argument, found, ?_⟩
    exact (index?_of_isCarriedBy carries {} _ position).trans (ownField atIndex)

end Choice

/-- Arguments that are all named, or all unnamed, resolve. -/
theorem Tree.exists_resolve {tree : Tree} {named : Bool} {choices : List Choice}
    (carry : List.Forall₂ (Choice.IsCarriedBy named) tree.args choices) :
    ∃ resolved, tree.resolve = .ok resolved := by
  have keys : ∀ argument ∈ tree.args, argument.key?.isSome = named := by
    intro argument member
    obtain ⟨position, found⟩ := List.getElem?_of_mem member
    obtain ⟨choice, -, carries⟩ := exists_of_forall₂ carry found
    rw [carries.key]
    cases named <;> rfl
  cases named with
  | false =>
      have unnamed : ∀ argument ∈ tree.args, argument.key? = none := by
        intro argument member
        simpa using keys argument member
      have noneNamed : ∀ argument ∈ ([] : List Argument), argument.key? ≠ none := by simp
      have resolves := Resolved.exists_foldlM unnamed noneNamed
      rwa [List.append_nil] at resolves
  | true =>
      have allNamed : ∀ argument ∈ tree.args, argument.key? ≠ none := by
        intro argument member
        exact Option.isSome_iff_ne_none.1 (keys argument member)
      have noneUnnamed : ∀ argument ∈ ([] : List Argument), argument.key? = none := by simp
      exact Resolved.exists_foldlM noneUnnamed allNamed

/-- A tag that restates a choice of values fills every record of their types with them. -/
theorem Tag.fill_tagText {named : Bool} {choices order : List Choice}
    (valid : ∀ choice ∈ order, named = true → IsName choice.name.toList)
    (restates : ∀ args, List.Forall₂ (Choice.IsCarriedBy named) args order →
      Restates {} (Choice.record choices) args)
    {record : Record Cell} (alike : record.Alike (Choice.record choices)) (tagName : String) :
    (Tag.mk tagName (Choice.tagText named order)).fill record =
      { record := Choice.record choices, error := none } := by
  obtain ⟨tree, parsed, carry⟩ := Choice.exists_parse_tagText valid
  obtain ⟨resolved, resolves⟩ := tree.exists_resolve carry
  have parsedTag : (Tag.mk tagName (Choice.tagText named order)).parse = .ok tree := parsed
  rw [Tag.fill_of_parse parsedTag resolves]
  exact (restates tree.args carry).bindSteps alike (Resolved.isSplit_of_foldlM resolves)

/-- Every choice of values can be written into a tag and read back: as positional arguments in
the order of the fields, and as keyword arguments in any order where names are names and are
told apart. What the record held before does not matter. -/
theorem Tag.fill_choices {record : Record Cell} (conforms : record.Conforms)
    {choices : List Choice} (sameNames : choices.map Choice.name = record.names)
    (sameTypes : choices.map (·.cell.type) = record.types) (tagName : String) :
    (Tag.mk tagName (Choice.tagText false choices)).fill record =
        { record := Choice.record choices, error := none } ∧
      ((∀ name ∈ record.names, IsName name.toList) →
        (record.names.map NameStyle.kebab.normalize).Nodup →
        ∀ order : List Choice, order.Perm choices →
          (Tag.mk tagName (Choice.tagText true order)).fill record =
            { record := Choice.record choices, error := none }) := by
  have chosenNames : (Choice.record choices).names = record.names := by
    rw [Choice.names_record, sameNames]
  have chosenTypes : (Choice.record choices).types = record.types := by
    rw [← sameTypes]
    simp only [Record.types, Choice.record, List.map_map]
    rfl
  have alike : record.Alike (Choice.record choices) :=
    ⟨chosenNames.symm, chosenTypes.symm, conforms, Choice.conforms_record choices⟩
  refine ⟨?_, ?_⟩
  · exact Tag.fill_tagText (by simp) (fun _ => Choice.restates_of_positional) alike tagName
  · intro validNames distinct order permuted
    rw [← chosenNames] at distinct
    refine Tag.fill_tagText ?_ (fun _ carry => Choice.restates_of_keyword carry permuted distinct)
      alike tagName
    intro choice member _
    apply validNames
    rw [← sameNames]
    exact List.mem_map_of_mem (permuted.mem_iff.1 member)

/-- Texts and their literals between double quotes. -/
def quotedParts (texts : List String) : List (Cell × List Char) :=
  texts.map fun text => (.mk .string (.text text), quotedWith '\x22' text)

theorem isLiteral_quotedParts (texts : List String) (several : 2 ≤ (quotedParts texts).length) :
    (Cell.mk (.sequence .string) (.sequence ((quotedParts texts).map Prod.fst))).IsLiteral
      (joinWith listSeparator ((quotedParts texts).map Prod.snd)) := by
  refine .sequence several ?_ ?_
  · exact List.forall_mem_map.2 fun _ _ => rfl
  · exact List.forall_mem_map.2 fun text _ => .text text (.inl rfl)

/-- The limits of both kinds of integers, a present text with quotes and a backslash, and a
sequence of texts that are empty or hold separators. -/
def extremes : List Choice :=
  [ ⟨"lowest", _, _, .scalar (.int Int64.minValue)⟩,
    ⟨"greatest", _, _, .scalar (.uint (UInt64.ofNat (Nat.pow 2 64 - 1)))⟩,
    ⟨"re_mark", _, _, .present (.text "it's \\ \"é\"" (.inr rfl))⟩,
    ⟨"words", _, _, isLiteral_quotedParts ["", ";,"] (by decide)⟩ ]

/-- A record of the same types with other contents. -/
def extremesBefore : Record Cell :=
  { fields :=
      [ ("lowest", .mk .int (.int 7)), ("greatest", .zero .uint),
        ("re_mark", .mk (.optional .string) (.optional (some (.mk .string (.text "old"))))),
        ("words", .zero (.sequence .string)) ] }

theorem Tag.fill_choices_extremes :
    (Tag.mk "tag" "-9223372036854775808,18446744073709551615,'it\\'s \\\\ \"é\"',\"\";\";,\"").fill
        extremesBefore = { record := Choice.record extremes, error := none } ∧
      (Tag.mk "tag" ("words=\"\";\";,\",re_mark='it\\'s \\\\ \"é\"'," ++
        "greatest=18446744073709551615,lowest=-9223372036854775808")).fill
        extremesBefore = { record := Choice.record extremes, error := none } := by
  have conforms : extremesBefore.Conforms := by
    simp only [Record.Conforms, extremesBefore, List.forall_mem_cons]
    exact ⟨.int 7, Cell.conforms_zero _, .present (.text "old"), Cell.conforms_zero _, by simp⟩
  have positional : Choice.tagText false extremes =
      "-9223372036854775808,18446744073709551615,'it\\'s \\\\ \"é\"',\"\";\";,\"" := by
    decide +kernel
  have keyword : Choice.tagText true extremes.reverse =
      "words=\"\";\";,\",re_mark='it\\'s \\\\ \"é\"'," ++
        "greatest=18446744073709551615,lowest=-9223372036854775808" := by
    decide +kernel
  have sameNames : extremes.map Choice.name = extremesBefore.names := rfl
  have sameTypes : extremes.map (·.cell.type) = extremesBefore.types := rfl
  have filled := Tag.fill_choices conforms sameNames sameTypes "tag"
  rw [positional] at filled
  refine ⟨filled.1, ?_⟩
  rw [← keyword]
  exact filled.2 (by decide +kernel) (by decide +kernel) extremes.reverse
    (List.reverse_perm extremes)

end RecordTags
