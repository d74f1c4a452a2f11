import Mathlib.Data.List.Induction
import RecordTags.Resolved

/-!
Contract: what the split of a tree holds.

Owns:
- lookup in association lists after an insertion, and membership as lookup;
- `IsLast`, the argument that counts for a key: the last one that is written
  with it;
- the split: a tree resolves when its unnamed arguments come first. The
  positional values are theirs, in order, and each key has its last argument.
-/

namespace RecordTags

/-! ## Association lists -/

namespace Keyed

variable {α : Type}

theorem get?_cons (key other : String) (value : α) (rest : Keyed α) :
    get? ((key, value) :: rest) other = if other = key then some value else rest.get? other := by
  unfold get?
  rw [List.lookup_cons]
  by_cases same : other = key
  · simp [same]
  · have different : (other == key) = false := beq_eq_false_iff_ne.2 same
    simp [different, same]

/-- An insertion changes what is under its key only. -/
theorem get?_insert (key other : String) (value : α) (keyed : Keyed α) :
    (keyed.insert key value).get? other = if other = key then some value else keyed.get? other := by
  induction keyed with
  | nil => rw [insert, get?_cons]
  | cons entry rest inductionHypothesis =>
      obtain ⟨first, firstValue⟩ := entry
      rw [insert]
      split
      next => rw [get?_cons]
      next =>
        split
        next same =>
          obtain rfl : key = first := eq_of_beq same
          rw [get?_cons, get?_cons]
          by_cases sameKey : other = key
          · rw [if_pos sameKey, if_pos sameKey]
          · rw [if_neg sameKey, if_neg sameKey, if_neg sameKey]
        next different =>
          rw [get?_cons, get?_cons, inductionHypothesis]
          by_cases isFirst : other = first
          · have notKey : other ≠ key := by
              rintro rfl
              exact different (beq_iff_eq.2 isFirst)
            rw [if_pos isFirst, if_neg notKey, if_pos isFirst]
          · rw [if_neg isFirst, if_neg isFirst]

/-- An entry of a list in key order is the one that its key finds. -/
theorem Ascending.mem_iff {keyed : Keyed α} (ascending : keyed.Ascending) {key : String}
    {value : α} : (key, value) ∈ keyed ↔ keyed.get? key = some value := by
  induction keyed with
  | nil => simp [get?]
  | cons entry rest inductionHypothesis =>
      obtain ⟨first, firstValue⟩ := entry
      obtain ⟨firstBelow, restAscending⟩ := List.pairwise_cons.1 ascending
      have inRest := inductionHypothesis restAscending
      rw [get?_cons, List.mem_cons, Prod.mk.injEq]
      by_cases same : key = first
      · have notInRest : (key, value) ∉ rest := by
          intro member
          have below : first < key := firstBelow _ member
          rw [same] at below
          exact String.lt_irrefl _ below
        rw [if_pos same, Option.some.injEq]
        constructor
        · rintro (⟨-, sameValue⟩ | member)
          · exact sameValue.symm
          · exact absurd member notInRest
        · intro sameValue
          exact .inl ⟨same, sameValue.symm⟩
      · rw [if_neg same, ← inRest]
        constructor
        · rintro (⟨isFirst, -⟩ | member)
          · exact absurd isFirst same
          · exact member
        · exact .inr

end Keyed

/-! ## The last argument with a key -/

/-- The argument is written with the key, and no later one is. -/
def IsLast (args : List Argument) (key : String) (argument : Argument) : Prop :=
  ∃ before after, args = before ++ argument :: after ∧ argument.key? = some key ∧
    ∀ later ∈ after, later.key? ≠ some key

theorem IsLast.mem {args : List Argument} {key : String} {argument : Argument}
    (isLast : IsLast args key argument) : argument ∈ args ∧ argument.key? = some key := by
  obtain ⟨before, after, rfl, named, -⟩ := isLast
  exact ⟨by simp, named⟩

/-- An argument behind all others is the last one with its key. -/
theorem isLast_concat_of_key {args : List Argument} {added : Argument} {key : String}
    (named : added.key? = some key) {argument : Argument} :
    IsLast (args ++ [added]) key argument ↔ argument = added := by
  constructor
  · rintro ⟨before, after, split, -, noLater⟩
    cases after using List.reverseRecOn with
    | nil =>
        have lasts := congrArg List.getLast? split
        rw [List.getLast?_concat, List.getLast?_concat] at lasts
        exact (Option.some.inj lasts).symm
    | append_singleton after last =>
        have lasts := congrArg List.getLast? split
        rw [← List.cons_append, ← List.append_assoc, List.getLast?_concat, List.getLast?_concat]
          at lasts
        obtain rfl := Option.some.inj lasts
        exact absurd named (noLater added (by simp))
  · rintro rfl
    exact ⟨args, [], rfl, named, by simp⟩

/-- An argument without the key does not change which one is the last with it. -/
theorem isLast_concat_of_ne {args : List Argument} {added : Argument} {key : String}
    (other : added.key? ≠ some key) {argument : Argument} :
    IsLast (args ++ [added]) key argument ↔ IsLast args key argument := by
  constructor
  · rintro ⟨before, after, split, named, noLater⟩
    cases after using List.reverseRecOn with
    | nil =>
        have lasts := congrArg List.getLast? split
        rw [List.getLast?_concat, List.getLast?_concat] at lasts
        rw [Option.some.inj lasts] at other
        exact absurd named other
    | append_singleton after last =>
        rw [← List.cons_append, ← List.append_assoc] at split
        obtain ⟨rfl, -⟩ := List.append_inj' split rfl
        refine ⟨before, after, rfl, named, ?_⟩
        intro later member
        exact noLater later (by simp [member])
  · rintro ⟨before, after, rfl, named, noLater⟩
    refine ⟨before, after ++ [added], by simp, named, ?_⟩
    intro later member
    rcases List.mem_append.1 member with inAfter | isAdded
    · exact noLater later inAfter
    · rw [List.mem_singleton.1 isAdded]
      exact other

/-- A key that is written has a last argument. -/
theorem exists_isLast {args : List Argument} {named : Argument} (member : named ∈ args)
    {key : String} (isNamed : named.key? = some key) : ∃ argument, IsLast args key argument := by
  induction args using List.reverseRecOn with
  | nil => contradiction
  | append_singleton args added inductionHypothesis =>
      by_cases same : added.key? = some key
      · exact ⟨added, (isLast_concat_of_key same).2 rfl⟩
      · have inArgs : named ∈ args := by
          rcases List.mem_append.1 member with inArgs | isAdded
          · exact inArgs
          · rw [List.mem_singleton.1 isAdded] at isNamed
            exact absurd isNamed same
        obtain ⟨argument, isLast⟩ := inductionHypothesis inArgs
        exact ⟨argument, (isLast_concat_of_ne same).2 isLast⟩

/-! ## The split -/

namespace Resolved

/-- Unnamed arguments come first and give the positional values, and every key finds the last
argument with it. -/
structure IsSplit (args : List Argument) (resolved : Resolved) : Prop where
  positional : ∃ front back, args = front ++ back ∧ (∀ argument ∈ front, argument.key? = none) ∧
    (∀ argument ∈ back, argument.key? ≠ none) ∧ resolved.positional = front.map Argument.value
  keyword : ∀ key argument,
    resolved.keyword.get? key = some argument ↔ IsLast args key argument

theorem foldlM_concat {args : List Argument} {added : Argument} {resolved : Resolved} :
    (args ++ [added]).foldlM add empty = .ok resolved ↔
      ∃ before, args.foldlM add empty = .ok before ∧ before.add added = .ok resolved := by
  rw [List.foldlM_append]
  simp only [List.foldlM_cons, List.foldlM_nil, bind_pure]
  cases args.foldlM add empty with
  | error error => simp [bind, Except.bind]
  | ok before => simp [bind, Except.bind]

theorem add_of_key (before : Resolved) {added : Argument} {key : String}
    (named : added.key? = some key) :
    ∃ resolved, before.add added = .ok resolved ∧ resolved.positional = before.positional ∧
      resolved.keyword = before.keyword.insert key added := by
  unfold add
  rw [named]
  exact ⟨_, rfl, rfl, rfl⟩

theorem add_of_none {before : Resolved} {added : Argument} (unnamed : added.key? = none) :
    before.add added =
      if before.keyword.isEmpty then
        .ok { before with positional := before.positional ++ [added.value] }
      else .error (.argumentOrder added.span) := by
  unfold add
  rw [unnamed]

/-- There are keywords as soon as an argument is named. -/
theorem IsSplit.keyword_eq_nil_iff {args : List Argument} {resolved : Resolved}
    (split : resolved.IsSplit args) :
    resolved.keyword = [] ↔ ∀ argument ∈ args, argument.key? = none := by
  constructor
  · intro isEmpty argument member
    by_contra named
    obtain ⟨key, isKey⟩ := Option.ne_none_iff_exists'.1 named
    obtain ⟨last, isLast⟩ := exists_isLast member isKey
    have found := (split.keyword key last).2 isLast
    rw [isEmpty] at found
    contradiction
  · intro unnamed
    cases keyword : resolved.keyword with
    | nil => rfl
    | cons entry rest =>
        have found : resolved.keyword.get? entry.1 = some entry.2 := by
          rw [keyword, Keyed.get?_cons, if_pos rfl]
        obtain ⟨member, named⟩ := ((split.keyword entry.1 entry.2).1 found).mem
        rw [unnamed entry.2 member] at named
        contradiction

/-- A split stays one when an argument is added. -/
theorem IsSplit.add {args : List Argument} {before resolved : Resolved}
    (split : before.IsSplit args) {added : Argument} (adds : before.add added = .ok resolved) :
    resolved.IsSplit (args ++ [added]) := by
  have noKeywords := split.keyword_eq_nil_iff
  obtain ⟨front, back, rfl, unnamed, named, values⟩ := split.positional
  cases isKey : added.key? with
  | some key =>
      obtain ⟨next, addsNext, samePositional, inserted⟩ := before.add_of_key isKey
      obtain rfl : next = resolved := Except.ok.inj (addsNext.symm.trans adds)
      refine ⟨⟨front, back ++ [added], List.append_assoc front back _, unnamed, ?_, ?_⟩, ?_⟩
      · intro argument member
        rcases List.mem_append.1 member with inBack | isAdded
        · exact named argument inBack
        · rw [List.mem_singleton.1 isAdded, isKey]
          exact Option.some_ne_none key
      · rw [samePositional, values]
      · intro other argument
        rw [inserted, Keyed.get?_insert]
        by_cases same : other = key
        · rw [if_pos same, same, isLast_concat_of_key isKey, Option.some.injEq, eq_comm]
        · have different : added.key? ≠ some other := by
            rw [isKey]
            intro sameKey
            exact same (Option.some.inj sameKey).symm
          rw [if_neg same, isLast_concat_of_ne different]
          exact split.keyword other argument
  | none =>
      rw [add_of_none isKey] at adds
      split at adds
      next isEmpty =>
        cases adds
        have allUnnamed := noKeywords.1 (List.isEmpty_iff.1 isEmpty)
        -- nothing named has been seen, so the back is empty
        obtain rfl : back = [] := by
          apply List.eq_nil_iff_forall_not_mem.2
          intro argument member
          exact named argument member (allUnnamed argument (List.mem_append_right front member))
        refine ⟨⟨front ++ [added], [], by simp, ?_, by simp, ?_⟩, ?_⟩
        · intro argument member
          rcases List.mem_append.1 member with inFront | isAdded
          · exact unnamed argument inFront
          · rw [List.mem_singleton.1 isAdded, isKey]
        · simp [values]
        · intro other argument
          have different : added.key? ≠ some other := by
            rw [isKey]
            exact (Option.some_ne_none other).symm
          rw [isLast_concat_of_ne different]
          exact split.keyword other argument
      next => contradiction

/-- Arguments that are added one by one are split. -/
theorem isSplit_of_foldlM {args : List Argument} {resolved : Resolved}
    (resolves : args.foldlM Resolved.add empty = .ok resolved) : resolved.IsSplit args := by
  induction args using List.reverseRecOn generalizing resolved with
  | nil =>
      cases resolves
      refine ⟨⟨[], [], rfl, by simp, by simp, rfl⟩, ?_⟩
      intro key argument
      constructor
      · intro found
        contradiction
      · rintro ⟨before, after, split, -⟩
        simp at split
  | append_singleton args added inductionHypothesis =>
      obtain ⟨before, resolvesBefore, adds⟩ := foldlM_concat.1 resolves
      exact (inductionHypothesis resolvesBefore).add adds

/-- Unnamed arguments in front of named ones resolve. -/
theorem exists_foldlM {front back : List Argument}
    (unnamed : ∀ argument ∈ front, argument.key? = none)
    (named : ∀ argument ∈ back, argument.key? ≠ none) :
    ∃ resolved, (front ++ back).foldlM Resolved.add empty = .ok resolved := by
  induction back using List.reverseRecOn with
  | nil =>
      rw [List.append_nil]
      induction front using List.reverseRecOn with
      | nil => exact ⟨empty, rfl⟩
      | append_singleton front added inductionHypothesis =>
          simp only [List.forall_mem_append, List.forall_mem_singleton] at unnamed
          obtain ⟨before, resolves⟩ := inductionHypothesis unnamed.1
          have noKeywords := (isSplit_of_foldlM resolves).keyword_eq_nil_iff.2 unnamed.1
          have adds : before.add added = .ok _ :=
            (add_of_none unnamed.2).trans (if_pos (List.isEmpty_iff.2 noKeywords))
          exact ⟨_, foldlM_concat.2 ⟨before, resolves, adds⟩⟩
  | append_singleton back added inductionHypothesis =>
      simp only [List.forall_mem_append, List.forall_mem_singleton] at named
      obtain ⟨before, resolves⟩ := inductionHypothesis named.1
      obtain ⟨key, isKey⟩ := Option.ne_none_iff_exists'.1 named.2
      obtain ⟨resolved, adds, -⟩ := before.add_of_key isKey
      rw [← List.append_assoc]
      exact ⟨resolved, foldlM_concat.2 ⟨before, resolves, adds⟩⟩

end Resolved

end RecordTags
