import RecordTags.Proofs.Tag.Fill

/-!
Contract: which of several named arguments for one field counts.

Arguments are told apart by their keys as written, and binding takes the keys in
ascending order. So of the arguments with one key the last one written counts,
and of different keys for one field the greatest one, wherever it is written.

Owns: `Prevails`, the argument that counts for a field; that a field that named
arguments address has one, and that filling leaves its value there.
-/

namespace RecordTags

/-! ## The argument that counts -/

/-- The argument has the key, and the key addresses the field. -/
def Argument.Names {F : Type} (argument : Argument) (options : BindOptions) (record : Record F)
    (index : Nat) (key : String) : Prop :=
  argument.key? = some key ∧ record.indexOf? options.naming key = some index

/-- Of the named arguments for a field, the last one with the greatest key. -/
structure Prevails {F : Type} (options : BindOptions) (record : Record F) (args : List Argument)
    (index : Nat) (key : String) (argument : Argument) : Prop where
  isLast : IsLast args key argument
  names : argument.Names options record index key
  greatest : ∀ other ∈ args, ∀ otherKey, other.Names options record index otherKey →
    otherKey ≤ key

/-- Of the named arguments for a field, the last one written. -/
def WrittenLast {F : Type} (options : BindOptions) (record : Record F) (args : List Argument)
    (index : Nat) (key : String) (argument : Argument) : Prop :=
  ∃ before after, args = before ++ argument :: after ∧ argument.Names options record index key ∧
    ∀ later ∈ after, ∀ laterKey, ¬ later.Names options record index laterKey

/-- The last argument counts where all are written with one key. -/
theorem WrittenLast.prevails {F : Type} {options : BindOptions} {record : Record F}
    {args : List Argument} {index : Nat} {key : String} {argument : Argument}
    (isLast : WrittenLast options record args index key argument)
    (oneKey : ∀ other ∈ args, ∀ otherKey, other.Names options record index otherKey →
      otherKey = key) :
    Prevails options record args index key argument := by
  obtain ⟨before, after, split, names, noLater⟩ := isLast
  refine ⟨⟨before, after, split, names.1, ?_⟩, names, ?_⟩
  · intro later member isKey
    exact noLater later member key ⟨isKey, names.2⟩
  · intro other member otherKey otherNames
    obtain rfl := oneKey other member otherKey otherNames
    exact Std.le_refl otherKey

/-- Entries in key order have a greatest one among those with a property. -/
theorem Keyed.Ascending.exists_greatest {α : Type} {keyed : Keyed α} (ascending : keyed.Ascending)
    (property : String → Prop) (nonempty : ∃ entry ∈ keyed, property entry.1) :
    ∃ greatest ∈ keyed, property greatest.1 ∧
      ∀ other ∈ keyed, property other.1 → other.1 ≤ greatest.1 := by
  induction keyed with
  | nil =>
      obtain ⟨entry, member, -⟩ := nonempty
      contradiction
  | cons first rest inductionHypothesis =>
      obtain ⟨firstBelow, restAscending⟩ := List.pairwise_cons.1 ascending
      by_cases inRest : ∃ entry ∈ rest, property entry.1
      · obtain ⟨greatest, member, holds, above⟩ := inductionHypothesis restAscending inRest
        refine ⟨greatest, List.mem_cons_of_mem first member, holds, ?_⟩
        intro other otherMember otherHolds
        rcases List.mem_cons.1 otherMember with rfl | otherInRest
        · exact Std.le_of_lt (firstBelow greatest member)
        · exact above other otherInRest otherHolds
      · have onlyFirst : ∀ other ∈ first :: rest, property other.1 → other = first := by
          intro other otherMember otherHolds
          rcases List.mem_cons.1 otherMember with isFirst | otherInRest
          · exact isFirst
          · exact absurd ⟨other, otherInRest, otherHolds⟩ inRest
        obtain ⟨entry, member, holds⟩ := nonempty
        obtain rfl := onlyFirst entry member holds
        refine ⟨entry, member, holds, ?_⟩
        intro other otherMember otherHolds
        obtain rfl := onlyFirst other otherMember otherHolds
        exact Std.le_refl other.1

namespace Resolved

variable {F : Type} {args : List Argument} {resolved : Resolved} {options : BindOptions}
  {record : Record F} {index : Nat}

/-- A field that named arguments address has one that counts. -/
theorem IsSplit.exists_prevails (split : resolved.IsSplit args)
    (addressed : ∃ argument ∈ args, ∃ key, argument.Names options record index key) :
    ∃ key argument, Prevails options record args index key argument := by
  have lastFor : ∀ {named : Argument}, named ∈ args → ∀ {key : String},
      named.key? = some key → ∃ last, IsLast args key last ∧ (key, last) ∈ resolved.keyword := by
    intro named member key isKey
    obtain ⟨last, isLast⟩ := exists_isLast member isKey
    exact ⟨last, isLast, resolved.ascending.mem_iff.2 ((split.keyword key last).2 isLast)⟩
  -- the greatest key is taken among the keys that are kept, each with its last argument
  obtain ⟨named, member, key, isKey, answers⟩ := addressed
  obtain ⟨last, -, lastMember⟩ := lastFor member isKey
  obtain ⟨⟨greatestKey, argument⟩, greatestMember, greatestAnswers, above⟩ :=
    resolved.ascending.exists_greatest
      (fun key => record.indexOf? options.naming key = some index) ⟨_, lastMember, answers⟩
  have isLast := (split.keyword greatestKey argument).1
    (resolved.ascending.mem_iff.1 greatestMember)
  refine ⟨greatestKey, argument, isLast, ⟨isLast.mem.2, greatestAnswers⟩, ?_⟩
  intro other otherMember otherKey ⟨otherIsKey, otherAnswers⟩
  obtain ⟨otherLast, -, otherLastMember⟩ := lastFor otherMember otherIsKey
  exact above _ otherLastMember otherAnswers

/-- The argument that counts is bound by a step, and no later step addresses its field. -/
theorem IsSplit.steps_of_prevails (split : resolved.IsSplit args) {key : String}
    {argument : Argument} (prevails : Prevails options record args index key argument) :
    ∃ before after, resolved.steps = before ++ .keyword key argument :: after ∧
      ∀ later ∈ after, later.index? options record ≠ some index := by
  have member : (key, argument) ∈ resolved.keyword :=
    resolved.ascending.mem_iff.2 ((split.keyword key argument).2 prevails.isLast)
  obtain ⟨below, above, keywords⟩ := List.append_of_mem member
  have sorted := resolved.ascending
  rw [Keyed.Ascending, keywords] at sorted
  have keyBelow := (List.pairwise_cons.1 (List.pairwise_append.1 sorted).2.1).1
  unfold steps
  rw [keywords, List.map_append, List.map_cons, ← List.append_assoc]
  refine ⟨_, _, rfl, ?_⟩
  intro later laterMember addresses
  obtain ⟨⟨laterKey, laterArgument⟩, inAbove, rfl⟩ := List.mem_map.1 laterMember
  have inKeywords : (laterKey, laterArgument) ∈ resolved.keyword := by
    rw [keywords]
    simp [inAbove]
  have written := ((split.keyword laterKey laterArgument).1
    (resolved.ascending.mem_iff.1 inKeywords)).mem
  have atMost := prevails.greatest laterArgument written.1 laterKey ⟨written.2, addresses⟩
  exact Std.not_lt.2 atMost (keyBelow _ inAbove)

end Resolved

/-! ## What filling leaves -/

namespace Tag

variable {F : Type} [ConformingField F]

/-- Filling leaves the value of the argument that counts: of the named arguments for a field the
last one with the greatest key, which is the last one of all where they have one key. Every field
that a named argument addresses has one. -/
theorem fillWith_prevailing {record : Record F} (conforms : record.Conforms) {tag : Tag}
    {options : BindOptions} (succeeds : (tag.fillWith options record).error = none) {tree : Tree}
    (parsed : tag.parse = .ok tree) {index : Nat}
    (addressed : ∃ argument ∈ tree.args, ∃ key, argument.Names options record index key) :
    (∃ key argument, Prevails options record tree.args index key argument) ∧
      (∀ key argument, WrittenLast options record tree.args index key argument →
        (∀ other ∈ tree.args, ∀ otherKey, other.Names options record index otherKey →
          otherKey = key) → Prevails options record tree.args index key argument) ∧
      ∀ key argument, Prevails options record tree.args index key argument →
        ∃ name field, record.fields[index]? = some (name, field) ∧
          (assign argument.value field).mismatch = none ∧
          (tag.fillWith options record).record.fields[index]? =
            some (name, (assign argument.value field).field) := by
  rcases tag.fillWith_cases (F := F) with ⟨ignored, -⟩ | ⟨error, fills⟩ |
    ⟨sameTree, resolved, sameParsed, split, fills⟩
  · exact absurd parsed (parse_ne_ok_of_isIgnored ignored tree)
  · rw [fills] at succeeds
    contradiction
  · obtain rfl : tree = sameTree := Except.ok.inj (parsed.symm.trans sameParsed)
    refine ⟨split.exists_prevails addressed, fun _ _ => WrittenLast.prevails, ?_⟩
    intro key argument prevails
    obtain ⟨before, after, steps, untouched⟩ := split.steps_of_prevails prevails
    have addresses : (BindStep.keyword key argument).index? options record = some index :=
      prevails.names.2
    obtain ⟨name, field, found⟩ := Record.exists_field_of_index? addresses
    rw [fills] at succeeds
    rw [fills, Record.bindInMode_of_none succeeds]
    rw [Record.error_bindInMode] at succeeds
    rw [steps] at succeeds ⊢
    exact ⟨name, field, found,
      Record.fields_bindSteps_of_last conforms succeeds addresses untouched found⟩

/-- The integer that a cell holds. -/
def heldInt? : Cell → Option Int64
  | .mk _ (.int value) => some value
  | _ => none

/-- The integer that an argument writes. -/
def writtenInt? (argument : Argument) : Option Int64 :=
  heldInt? (assign argument.value (Cell.zero .int)).field

def numField : Record Cell := { fields := [("num_field", .zero .int)] }

/-- A tag with two spellings of one name, of which the smaller one is written last. -/
def twoSpellings : Tag := { name := "tag", value := "numField=3,numField=1,num-field=2" }

theorem exists_args_twoSpellings :
    ∃ tree first second third, twoSpellings.parse = .ok tree ∧
      tree.args = [first, second, third] ∧ first.key? = some "numField" ∧
      second.key? = some "numField" ∧ writtenInt? second = some 1 ∧
      third.key? = some "num-field" ∧ writtenInt? third = some 2 := by
  have read : twoSpellings.parse.toOption.map
      (·.args.map fun argument => (argument.key?, writtenInt? argument)) =
      some [(some "numField", some 3), (some "numField", some 1), (some "num-field", some 2)] := by
    decide +kernel
  obtain ⟨⟨args, span⟩, parsed, seen⟩ := exists_tree_of_args read
  obtain ⟨first, others, rfl, isFirst, seen⟩ := List.map_eq_cons_iff.1 seen
  obtain ⟨second, others, rfl, isSecond, seen⟩ := List.map_eq_cons_iff.1 seen
  obtain ⟨third, others, rfl, isThird, seen⟩ := List.map_eq_cons_iff.1 seen
  obtain rfl := List.map_eq_nil_iff.1 seen
  rw [Prod.mk.injEq] at isFirst isSecond isThird
  exact ⟨_, first, second, third, parsed, rfl, isFirst.1, isSecond.1, isSecond.2, isThird.1,
    isThird.2⟩

theorem fillWith_twoSpellings :
    (twoSpellings.fillWith {} numField).error = none ∧
      (twoSpellings.fillWith {} numField).record.fields.map
        (fun (name, cell) => (name, heldInt? cell)) = [("num_field", some 1)] := by
  decide +kernel

/-- The argument that is written last is overruled by one with a greater key. -/
theorem writtenLast_overruled :
    (twoSpellings.fillWith {} numField).error = none ∧
      ∃ tree last, twoSpellings.parse = .ok tree ∧
        WrittenLast {} numField tree.args 0 "num-field" last ∧ writtenInt? last = some 2 ∧
        (twoSpellings.fillWith {} numField).record.fields.map
          (fun (name, cell) => (name, heldInt? cell)) = [("num_field", some 1)] := by
  obtain ⟨tree, first, second, third, parsed, args, -, -, -, isKey, writes⟩ :=
    exists_args_twoSpellings
  have isLast : WrittenLast {} numField tree.args 0 "num-field" third :=
    ⟨[first, second], [], args, ⟨isKey, by decide +kernel⟩, by simp⟩
  obtain ⟨succeeds, final⟩ := fillWith_twoSpellings
  exact ⟨succeeds, tree, third, parsed, isLast, writes, final⟩

theorem fillWith_prevailing_twoSpellings :
    ∃ tree argument, twoSpellings.parse = .ok tree ∧
      Prevails {} numField tree.args 0 "numField" argument ∧ writtenInt? argument = some 1 ∧
      ∃ field, numField.fields[0]? = some ("num_field", field) ∧
        (twoSpellings.fillWith {} numField).record.fields[0]? =
          some ("num_field", (assign argument.value field).field) := by
  obtain ⟨tree, first, second, third, parsed, args, firstKey, secondKey, writes, thirdKey, -⟩ :=
    exists_args_twoSpellings
  have conforms : numField.Conforms := by
    intro entry member
    rw [List.mem_singleton.1 member]
    exact Cell.conforms_zero .int
  have names : second.Names {} numField 0 "numField" := ⟨secondKey, by decide +kernel⟩
  have prevails : Prevails {} numField tree.args 0 "numField" second := by
    refine ⟨⟨[first], [third], args, secondKey, ?_⟩, names, ?_⟩
    · simp [thirdKey]
    · intro other member otherKey ⟨isKey, _⟩
      rw [args] at member
      simp only [List.mem_cons, List.not_mem_nil, or_false] at member
      rcases member with rfl | rfl | rfl
      · rw [firstKey] at isKey
        cases isKey
        decide
      · rw [secondKey] at isKey
        cases isKey
        decide
      · rw [thirdKey] at isKey
        cases isKey
        decide
  have addressed : ∃ argument ∈ tree.args, ∃ key, argument.Names {} numField 0 key :=
    ⟨second, prevails.isLast.mem.1, "numField", names⟩
  obtain ⟨name, field, found, -, final⟩ :=
    (fillWith_prevailing conforms fillWith_twoSpellings.1 parsed addressed).2.2 _ second prevails
  cases found
  exact ⟨tree, second, parsed, prevails, writes, _, rfl, final⟩

end Tag

end RecordTags
