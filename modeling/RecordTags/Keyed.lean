/-!
Contract: association lists in strictly ascending key order.

Owns: insertion, which replaces an entry with the same key and keeps the order,
and the list made of entries in any order.
-/

namespace RecordTags

/-- Entries in strictly ascending order of their keys. -/
abbrev Keyed (α : Type) := List (String × α)

namespace Keyed

variable {α : Type}

/-- The keys are in strictly ascending order. -/
def Ascending (keyed : Keyed α) : Prop :=
  keyed.Pairwise fun entry later => entry.1 < later.1

theorem ascending_nil : Ascending ([] : Keyed α) := List.Pairwise.nil

/-- Inserts an entry at its place. An entry with the same key is replaced. -/
def insert (key : String) (value : α) : Keyed α → Keyed α
  | [] => [(key, value)]
  | (other, otherValue) :: rest =>
    if key < other then (key, value) :: (other, otherValue) :: rest
    else if key == other then (key, value) :: rest
    else (other, otherValue) :: insert key value rest

/-- An insertion brings in no entry but its own. -/
theorem eq_or_mem_of_mem_insert {key : String} {value : α} {keyed : Keyed α}
    {entry : String × α} (member : entry ∈ keyed.insert key value) :
    entry = (key, value) ∨ entry ∈ keyed := by
  induction keyed with
  | nil => exact .inl (List.mem_singleton.1 member)
  | cons first rest inductionHypothesis =>
    simp only [insert] at member
    split at member
    · exact List.mem_cons.1 member
    · split at member
      · exact (List.mem_cons.1 member).imp_right (List.mem_cons_of_mem _)
      · rcases List.mem_cons.1 member with isFirst | inRest
        · exact .inr (List.mem_cons.2 (.inl isFirst))
        · exact (inductionHypothesis inRest).imp_right (List.mem_cons_of_mem _)

/-- An insertion keeps the keys in strictly ascending order. -/
theorem Ascending.insert {keyed : Keyed α} (ascending : keyed.Ascending) (key : String)
    (value : α) : (keyed.insert key value).Ascending := by
  induction keyed with
  | nil => exact List.pairwise_singleton _ _
  | cons first rest inductionHypothesis =>
    obtain ⟨firstBelow, restAscending⟩ := List.pairwise_cons.1 ascending
    simp only [Keyed.insert]
    split
    next before =>
      refine List.pairwise_cons.2 ⟨fun entry member => ?_, ascending⟩
      rcases List.mem_cons.1 member with rfl | inRest
      · exact before
      · exact String.lt_trans before (firstBelow entry inRest)
    next notBefore =>
      split
      next same =>
        rw [eq_of_beq same]
        exact List.pairwise_cons.2 ⟨firstBelow, restAscending⟩
      next different =>
        have behind : first.1 < key := by
          rcases Std.lt_trichotomy key first.1 with before | same | behind
          · exact absurd before notBefore
          · exact absurd (beq_iff_eq.2 same) different
          · exact behind
        refine List.pairwise_cons.2 ⟨fun entry member => ?_, inductionHypothesis restAscending⟩
        rcases eq_or_mem_of_mem_insert member with rfl | inRest
        · exact behind
        · exact firstBelow entry inRest

/-- The entries of a list, of which the last one with a key counts. -/
def ofList (entries : List (String × α)) : Keyed α :=
  entries.foldl (fun keyed (key, value) => keyed.insert key value) []

def get? (keyed : Keyed α) (key : String) : Option α := List.lookup key keyed

end Keyed

end RecordTags
