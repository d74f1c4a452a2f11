import Mathlib.Data.List.Sort
import RecordTags.Proofs.Resolved.Split

/-!
Contract: the split of a tree loses nothing that counts.

Owns:
- which trees are refused, and at which argument: the first unnamed one behind
  a named one;
- that the unnamed arguments, followed by the kept named ones in any order,
  are split in the same way as the tree they were taken from.

Does not own: what the split holds, which is `RecordTags.Proofs.Resolved.Split`.

The split looks back only through its keywords: an unnamed argument is refused
if there are any. `UnnamedFirst` says the same of the arguments alone.
-/

namespace RecordTags

/-! ## Association lists in key order -/

/-- Lists in key order that find the same values are equal. -/
theorem Keyed.Ascending.eq_of_get? {α : Type} {left right : Keyed α}
    (leftAscending : left.Ascending) (rightAscending : right.Ascending)
    (same : ∀ key value, left.get? key = some value ↔ right.get? key = some value) :
    left = right := by
  have irreflexive : Std.Irrefl fun entry later : String × α => entry.1 < later.1 :=
    ⟨fun entry => String.lt_irrefl entry.1⟩
  have antisymmetric : Std.Antisymm fun entry later : String × α => entry.1 < later.1 :=
    ⟨fun _ _ before behind => absurd behind (String.lt_asymm before)⟩
  apply List.Pairwise.eq_of_mem_iff leftAscending rightAscending
  rintro ⟨key, value⟩
  rw [leftAscending.mem_iff, rightAscending.mem_iff]
  exact same key value

namespace Resolved

theorem eq_of_parts {left right : Resolved} (positional : left.positional = right.positional)
    (keyword : left.keyword = right.keyword) : left = right := by
  cases left
  cases right
  cases positional
  cases keyword
  rfl

/-! ## Misplaced arguments -/

/-- The argument is unnamed, and a named one stands before it. -/
def Misplaced (before : List Argument) (argument : Argument) : Prop :=
  argument.key? = none ∧ ∃ named ∈ before, named.key? ≠ none

def IsFirstMisplaced (args : List Argument) (argument : Argument) : Prop :=
  ∃ before after, args = before ++ argument :: after ∧ Misplaced before argument ∧
    ∀ earlier other later, before = earlier ++ other :: later → ¬ Misplaced earlier other

def UnnamedFirst (args : List Argument) : Prop :=
  ∃ front back, args = front ++ back ∧ (∀ argument ∈ front, argument.key? = none) ∧
    ∀ argument ∈ back, argument.key? ≠ none

theorem UnnamedFirst.not_misplaced {args before after : List Argument} {argument : Argument}
    (isOrdered : UnnamedFirst args) (split : args = before ++ argument :: after) :
    ¬ Misplaced before argument := by
  rintro ⟨unnamed, named, member, isNamed⟩
  obtain ⟨front, back, rfl, allUnnamed, allNamed⟩ := isOrdered
  rcases List.append_eq_append_iff.1 split with ⟨middle, rfl, inBack⟩ | ⟨middle, rfl, -⟩
  · exact allNamed argument (by simp [inBack]) unnamed
  · exact isNamed (allUnnamed named (List.mem_append_left middle member))

/-- Arguments are in order, or one of them is the first that is not. -/
theorem unnamedFirst_or_exists_first (args : List Argument) :
    UnnamedFirst args ∨ ∃ argument, IsFirstMisplaced args argument := by
  induction args using List.reverseRecOn with
  | nil => exact .inl ⟨[], [], rfl, by simp, by simp⟩
  | append_singleton args added inductionHypothesis =>
      rcases inductionHypothesis with isOrdered | ⟨argument, before, after, rfl, misplaced, first⟩
      · by_cases misplaced : Misplaced args added
        · refine .inr ⟨added, args, [], rfl, misplaced, ?_⟩
          intro earlier other later
          exact isOrdered.not_misplaced
        · left
          obtain ⟨front, back, rfl, unnamed, named⟩ := isOrdered
          cases isKey : added.key? with
          | some key =>
              refine ⟨front, back ++ [added], List.append_assoc .., unnamed, ?_⟩
              simpa [or_imp, forall_and, isKey] using named
          | none =>
              -- nothing before an unnamed argument is named, so the back is empty
              obtain rfl : back = [] := by
                apply List.eq_nil_iff_forall_not_mem.2
                intro argument member
                exact misplaced ⟨isKey, argument, List.mem_append_right front member,
                  named argument member⟩
              refine ⟨front ++ [added], [], by simp, ?_, by simp⟩
              simpa [or_imp, forall_and, isKey] using unnamed
      · exact .inr ⟨argument, before, after ++ [added], by simp, misplaced, first⟩

theorem UnnamedFirst.exists_foldlM {args : List Argument} (isOrdered : UnnamedFirst args) :
    ∃ resolved, args.foldlM Resolved.add empty = .ok resolved := by
  obtain ⟨front, back, rfl, unnamed, named⟩ := isOrdered
  exact Resolved.exists_foldlM unnamed named

/-- The arguments before the first misplaced one resolve, and it is refused. -/
theorem IsFirstMisplaced.foldlM {args : List Argument} {argument : Argument}
    (isFirst : IsFirstMisplaced args argument) :
    args.foldlM Resolved.add empty = .error (.argumentOrder argument.span) := by
  obtain ⟨before, after, rfl, ⟨unnamed, named, member, isNamed⟩, first⟩ := isFirst
  have isOrdered : UnnamedFirst before := by
    rcases unnamedFirst_or_exists_first before with
      isOrdered | ⟨other, earlier, later, split, misplaced, -⟩
    · exact isOrdered
    · exact absurd misplaced (first earlier other later split)
  obtain ⟨resolved, resolves⟩ := isOrdered.exists_foldlM
  have hasKeyword : resolved.keyword.isEmpty = false := by
    rw [List.isEmpty_eq_false_iff]
    intro isEmpty
    exact isNamed ((isSplit_of_foldlM resolves).keyword_eq_nil_iff.1 isEmpty named member)
  have refused : resolved.add argument = .error (.argumentOrder argument.span) := by
    rw [add_of_none unnamed, hasKeyword]
    rfl
  rw [List.foldlM_append, resolves]
  show (argument :: after).foldlM Resolved.add resolved = _
  rw [List.foldlM_cons, refused]
  rfl

/-- The split fails at the first misplaced argument, and only there. -/
theorem foldlM_eq_error_iff {args : List Argument} {error : TagError} :
    args.foldlM Resolved.add empty = .error error ↔
      ∃ argument, IsFirstMisplaced args argument ∧ error = .argumentOrder argument.span := by
  constructor
  · intro refused
    rcases unnamedFirst_or_exists_first args with isOrdered | ⟨argument, isFirst⟩
    · obtain ⟨resolved, resolves⟩ := isOrdered.exists_foldlM
      rw [resolves] at refused
      contradiction
    · refine ⟨argument, isFirst, ?_⟩
      exact Except.error.inj (refused.symm.trans isFirst.foldlM)
  · rintro ⟨argument, isFirst, rfl⟩
    exact isFirst.foldlM

/-! ## What is kept -/

def unnamed (args : List Argument) : List Argument := args.filter (·.key?.isNone)

theorem key?_of_mem_unnamed {args : List Argument} {argument : Argument}
    (member : argument ∈ unnamed args) : argument.key? = none := by
  simpa using (List.mem_filter.1 member).2

/-- Unnamed arguments in front of named ones are all of them. -/
theorem unnamed_append {front back : List Argument}
    (allUnnamed : ∀ argument ∈ front, argument.key? = none)
    (allNamed : ∀ argument ∈ back, argument.key? ≠ none) : unnamed (front ++ back) = front := by
  have keepsFront : unnamed front = front := by
    rw [unnamed, List.filter_eq_self]
    intro argument member
    simp [allUnnamed argument member]
  have dropsBack : unnamed back = [] := by
    rw [unnamed, List.filter_eq_nil_iff]
    intro argument member
    simpa using allNamed argument member
  rw [unnamed, List.filter_append]
  show unnamed front ++ unnamed back = front
  rw [keepsFront, dropsBack, List.append_nil]

section Split

variable {args : List Argument} {resolved : Resolved} (split : resolved.IsSplit args)
include split

theorem IsSplit.positional_eq : resolved.positional = (unnamed args).map Argument.value := by
  obtain ⟨front, back, rfl, allUnnamed, allNamed, values⟩ := split.positional
  rw [values, unnamed_append allUnnamed allNamed]

theorem IsSplit.mem_keyword {key : String} {argument : Argument} :
    (key, argument) ∈ resolved.keyword ↔ IsLast args key argument := by
  rw [resolved.ascending.mem_iff, split.keyword]

theorem IsSplit.mem_keys {key : String} :
    key ∈ resolved.keyword.map Prod.fst ↔ ∃ argument ∈ args, argument.key? = some key := by
  constructor
  · intro member
    obtain ⟨⟨_, argument⟩, isEntry, rfl⟩ := List.mem_map.1 member
    exact ⟨argument, (split.mem_keyword.1 isEntry).mem⟩
  · rintro ⟨named, member, isKey⟩
    obtain ⟨argument, isLast⟩ := exists_isLast member isKey
    exact List.mem_map.2 ⟨(key, argument), split.mem_keyword.2 isLast, rfl⟩

/-- A kept argument stands under its own key. -/
theorem IsSplit.mem_kept {argument : Argument} :
    argument ∈ resolved.keyword.map Prod.snd ↔
      ∃ key, argument.key? = some key ∧ (key, argument) ∈ resolved.keyword := by
  constructor
  · intro member
    obtain ⟨⟨key, _⟩, isEntry, rfl⟩ := List.mem_map.1 member
    exact ⟨key, (split.mem_keyword.1 isEntry).mem.2, isEntry⟩
  · rintro ⟨key, -, isEntry⟩
    exact List.mem_map.2 ⟨(key, argument), isEntry, rfl⟩

/-- The kept arguments have one key each, so each is the last with its key, in any order. -/
theorem IsSplit.isLast_rejoined {front kept : List Argument}
    (allUnnamed : ∀ argument ∈ front, argument.key? = none)
    (isKept : ∀ argument, argument ∈ kept ↔ argument ∈ resolved.keyword.map Prod.snd)
    {key : String} {argument : Argument} :
    IsLast (front ++ kept) key argument ↔ resolved.keyword.get? key = some argument := by
  have isEntry : ∀ {last}, IsLast (front ++ kept) key last →
      resolved.keyword.get? key = some last := by
    intro last isLast
    obtain ⟨member, named⟩ := isLast.mem
    rcases List.mem_append.1 member with inFront | inKept
    · rw [allUnnamed last inFront] at named
      contradiction
    · obtain ⟨own, isOwn, entry⟩ := split.mem_kept.1 ((isKept last).1 inKept)
      obtain rfl : own = key := Option.some.inj (isOwn.symm.trans named)
      exact resolved.ascending.mem_iff.1 entry
  constructor
  · exact isEntry
  · intro found
    have entry := resolved.ascending.mem_iff.2 found
    have inKept : argument ∈ kept := (isKept argument).2 (List.mem_map.2 ⟨_, entry, rfl⟩)
    have named : argument.key? = some key := (split.mem_keyword.1 entry).mem.2
    obtain ⟨last, isLast⟩ := exists_isLast (List.mem_append_right front inKept) named
    obtain rfl : last = argument := Option.some.inj ((isEntry isLast).symm.trans found)
    exact isLast

/-- The unnamed arguments and the kept ones are split as the whole was. -/
theorem IsSplit.foldlM_rejoined {kept : List Argument}
    (isKept : kept.Perm (resolved.keyword.map Prod.snd)) :
    (unnamed args ++ kept).foldlM Resolved.add empty = .ok resolved := by
  have allUnnamed : ∀ argument ∈ unnamed args, argument.key? = none :=
    fun argument => key?_of_mem_unnamed
  have allNamed : ∀ argument ∈ kept, argument.key? ≠ none := by
    intro argument member
    obtain ⟨key, isKey, -⟩ := split.mem_kept.1 (isKept.mem_iff.1 member)
    rw [isKey]
    exact Option.some_ne_none key
  obtain ⟨again, resolves⟩ := Resolved.exists_foldlM allUnnamed allNamed
  have splitAgain := isSplit_of_foldlM resolves
  have samePositional : again.positional = resolved.positional := by
    rw [splitAgain.positional_eq, unnamed_append allUnnamed allNamed, split.positional_eq]
  have sameKeyword : again.keyword = resolved.keyword := by
    apply again.ascending.eq_of_get? resolved.ascending
    intro key argument
    rw [splitAgain.keyword]
    exact split.isLast_rejoined allUnnamed fun _ => isKept.mem_iff
  rw [resolves, eq_of_parts samePositional sameKeyword]

end Split

/-- Everything that counts in the arguments is in the split: the values of the unnamed ones in
order, every key that occurs, and for each key the last argument with it. Put together again, the
unnamed arguments in front of the kept ones, they are split in the same way. -/
structure HoldsAll (args : List Argument) (resolved : Resolved) : Prop where
  positional : resolved.positional = (unnamed args).map Argument.value
  keys : ∀ key, key ∈ resolved.keyword.map Prod.fst ↔ ∃ argument ∈ args, argument.key? = some key
  last : ∀ key argument, resolved.keyword.get? key = some argument ↔ IsLast args key argument
  rejoined : ∀ kept span, kept.Perm (resolved.keyword.map Prod.snd) →
    Tree.resolve ⟨unnamed args ++ kept, span⟩ = .ok resolved

end Resolved

namespace Tree

open Resolved

/-- A tree is refused exactly if an unnamed argument stands behind a named one, and at the first
such argument; otherwise its split holds everything that counts. -/
theorem resolve_splits (tree : Tree) :
    ((∃ error, tree.resolve = .error error) ↔
      ∃ before argument after, tree.args = before ++ argument :: after ∧
        Misplaced before argument) ∧
    (∀ error, tree.resolve = .error error ↔
      ∃ argument, IsFirstMisplaced tree.args argument ∧ error = .argumentOrder argument.span) ∧
    ∀ resolved, tree.resolve = .ok resolved → resolved.HoldsAll tree.args := by
  refine ⟨⟨?_, ?_⟩, ?_, ?_⟩
  · rintro ⟨error, refused⟩
    obtain ⟨argument, ⟨before, after, split, misplaced, -⟩, -⟩ := foldlM_eq_error_iff.1 refused
    exact ⟨before, argument, after, split, misplaced⟩
  · rintro ⟨before, argument, after, split, misplaced⟩
    rcases unnamedFirst_or_exists_first tree.args with isOrdered | ⟨first, isFirst⟩
    · exact absurd misplaced (isOrdered.not_misplaced split)
    · exact ⟨_, isFirst.foldlM⟩
  · intro error
    exact foldlM_eq_error_iff
  · intro resolved resolves
    have split := isSplit_of_foldlM resolves
    refine ⟨split.positional_eq, fun key => split.mem_keys, split.keyword, ?_⟩
    intro kept span isKept
    exact split.foldlM_rejoined isKept

/-- An argument whose value is `nil`, for examples. -/
def nilArgument (name : Option String) (start : Nat) : Argument :=
  { name := name.map (⟨·, .empty start⟩), value := .nil (.empty start), span := .empty start }

/-- A key that is given twice, and written in front of a lesser key. -/
def repeatedKey : Tree :=
  { args :=
      [nilArgument none 0, nilArgument (some "b") 1, nilArgument (some "a") 2,
        nilArgument (some "b") 3]
    span := .empty 0 }

/-- An unnamed argument behind a named one, with another one behind it. -/
def lateArguments : Tree :=
  { args := [nilArgument none 0, nilArgument (some "a") 1, nilArgument none 2, nilArgument none 3]
    span := .empty 0 }

theorem resolve_splits_repeatedKey :
    (∃ resolved, repeatedKey.resolve = .ok resolved ∧ resolved.HoldsAll repeatedKey.args) ∧
      lateArguments.resolve = .error (.argumentOrder (.empty 2)) := by
  refine ⟨⟨_, rfl, (resolve_splits repeatedKey).2.2 _ rfl⟩, ?_⟩
  refine ((resolve_splits lateArguments).2.1 _).2 ⟨nilArgument none 2, ?_, rfl⟩
  refine ⟨[nilArgument none 0, nilArgument (some "a") 1], [nilArgument none 3], rfl, ?_, ?_⟩
  · exact ⟨rfl, nilArgument (some "a") 1, by simp, by decide⟩
  · intro earlier other later
    exact UnnamedFirst.not_misplaced
      ⟨[nilArgument none 0], [nilArgument (some "a") 1], rfl, by simp [nilArgument, Argument.key?],
        by simp [nilArgument, Argument.key?]⟩

end Tree

end RecordTags
