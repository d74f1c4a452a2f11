import Mathlib.Data.List.Chain
import RecordTags.Text.Character

/-!
Contract: what the small form of a character is made of.

Owns:
- `Run.isApart`, which sees from their ends and strides that two runs have no
  code point in common;
- `IsSettled`, the characters that a second lowering leaves alone and that are
  no capitals and separate nothing;
- that every character is its own small form or has a settled one.

The table of small forms is compared with the other tables run by run, so no
code point of it is looked at on its own. The tables are in ascending order;
what begins behind a run need not be compared with it.
-/

namespace RecordTags.Text

/-! ## Runs -/

namespace Run

-- `beq` and `blt` in place of `==` and `<`: the tables are compared by evaluation

/-- Whether the run is seen to be all even or all odd. -/
def hasParity (run : Run) : Bool := run.first.beq run.last || run.stride.beq 2

/-- Whether the runs are seen to be disjoint: one ends before the other begins, or one is even
and the other odd. -/
def isApart (run other : Run) : Bool :=
  run.last.blt other.first || other.last.blt run.first ||
    (run.hasParity && other.hasParity && !(run.first % 2).beq (other.first % 2))

theorem contains_iff {run : Run} {codePoint : Nat} :
    run.contains codePoint = true ↔
      run.first ≤ codePoint ∧ codePoint ≤ run.last ∧ (codePoint - run.first) % run.stride = 0 := by
  simp [contains, and_assoc]

theorem mod_two_of_contains {run : Run} (parity : run.hasParity = true) {codePoint : Nat}
    (inRun : run.contains codePoint = true) : codePoint % 2 = run.first % 2 := by
  rw [contains_iff] at inRun
  simp only [hasParity, Bool.or_eq_true, Nat.beq_eq] at parity
  rcases parity with single | stride
  · omega
  · rw [stride] at inRun
    omega

/-- Runs that are seen to be disjoint are disjoint. -/
theorem not_contains_of_isApart {run other : Run} (apart : run.isApart other = true)
    {codePoint : Nat} (inRun : run.contains codePoint = true) :
    other.contains codePoint = false := by
  rw [← Bool.not_eq_true]
  intro inOther
  have bounds := contains_iff.1 inRun
  have otherBounds := contains_iff.1 inOther
  simp only [isApart, Bool.or_eq_true, Bool.and_eq_true, Nat.blt_eq, Bool.not_eq_true',
    ← Bool.not_eq_true, Nat.beq_eq] at apart
  rcases apart with (before | behind) | ⟨⟨parity, otherParity⟩, different⟩
  · omega
  · omega
  · apply different
    rw [← mod_two_of_contains parity inRun, mod_two_of_contains otherParity inOther]

/-- Whether the run is seen to be disjoint from all runs of a table, of which those are not
looked at that begin behind it. -/
def isClearOf (run : Run) : List Run → Bool
  | [] => true
  | other :: rest => run.last.blt other.first || (run.isApart other && run.isClearOf rest)

/-- A run that is seen to be clear of a table is disjoint from all its runs. -/
theorem not_contains_of_isClearOf {run : Run} {table : List Run}
    (ascending : (table.map Run.first).Pairwise (· ≤ ·)) (clear : run.isClearOf table = true)
    {codePoint : Nat} (inRun : run.contains codePoint = true) :
    ∀ other ∈ table, other.contains codePoint = false := by
  induction table with
  | nil => simp
  | cons next rest inductionHypothesis =>
      rw [List.map_cons, List.pairwise_cons] at ascending
      rw [isClearOf, Bool.or_eq_true, Bool.and_eq_true, Nat.blt_eq] at clear
      intro other member
      rcases clear with before | ⟨apart, clearRest⟩
      · have inOrder : next.first ≤ other.first := by
          rcases List.mem_cons.1 member with rfl | inRest
          · exact Nat.le_refl _
          · exact ascending.1 _ (List.mem_map_of_mem inRest)
        have isBefore : run.last.blt other.first = true := by
          rw [Nat.blt_eq]
          exact Nat.lt_of_lt_of_le before inOrder
        apply not_contains_of_isApart _ inRun
        rw [isApart, isBefore, Bool.true_or, Bool.true_or]
      · rcases List.mem_cons.1 member with rfl | inRest
        · exact not_contains_of_isApart apart inRun
        · exact inductionHypothesis ascending.2 clearRest other inRest

end Run

/-- The run of the images. -/
def Shift.image (shift : Shift) : Run :=
  { first := (shift.run.first + shift.distance).toNat
    last := (shift.run.last + shift.distance).toNat
    stride := shift.run.stride }

/-- The image of a run holds the images of its code points. -/
theorem Shift.image_contains {shift : Shift} (inRange : 0 ≤ shift.run.first + shift.distance)
    {codePoint : Nat} (inRun : shift.run.contains codePoint = true) :
    shift.image.contains (codePoint + shift.distance).toNat = true := by
  rw [Run.contains_iff] at inRun ⊢
  have sameOffset : (codePoint + shift.distance).toNat - (shift.run.first + shift.distance).toNat =
      codePoint - shift.run.first := by
    omega
  refine ⟨?_, ?_, ?_⟩
  · show (shift.run.first + shift.distance).toNat ≤ _
    omega
  · show _ ≤ (shift.run.last + shift.distance).toNat
    omega
  · show (_ - (shift.run.first + shift.distance).toNat) % shift.run.stride = 0
    rw [sameOffset]
    exact inRun.2.2

theorem isIn_eq_false_iff {table : List Run} {c : Char} :
    isIn table c = false ↔ ∀ run ∈ table, run.contains c.toNat = false := by
  simp [isIn, List.any_eq_false]

/-! ## Settled characters -/

/-- A character that is its own small form, and is no capital, no white space and none of the
ASCII marks before the small letters. -/
structure IsSettled (c : Char) : Prop where
  lowered : toLowercase c = [c]
  notCapital : isUppercase c = false
  notSpace : isWhiteSpace c = false
  behindMarks : 0x60 < c.toNat

/-- The ASCII marks and capitals, the capital that is lowered apart from the table, and the code
points that are no characters. -/
def reserved : List Run := [⟨0, 0x60, 1⟩, ⟨0x130, 0x130, 1⟩, ⟨0xD800, 0xDFFF, 1⟩]

/-- The runs of characters with another small form. -/
def lowerable : List Run := Property.lowercaseMapping.map Shift.run

/-- Whether the images are seen to be settled characters. -/
def Shift.settles (shift : Shift) : Bool :=
  shift.image.isClearOf reserved && shift.image.isClearOf Property.whiteSpace &&
    shift.image.isClearOf Property.uppercase && shift.image.isClearOf lowerable &&
    shift.image.last < 0x110000 && 0 ≤ shift.run.first + shift.distance

theorem settles_lowercaseMapping : Property.lowercaseMapping.all Shift.settles = true := by
  decide +kernel

theorem ascending_tables : ∀ table ∈ [reserved, Property.whiteSpace, Property.uppercase, lowerable],
    (table.map Run.first).Pairwise (· ≤ ·) := by
  have chained : ∀ table ∈ [reserved, Property.whiteSpace, Property.uppercase, lowerable],
      (table.map Run.first).IsChain (· ≤ ·) := by
    decide +kernel
  intro table member
  exact List.isChain_iff_pairwise.1 (chained table member)

/-- What is not reserved is a character behind the ASCII marks, and not the capital apart. -/
theorem outside_reserved {codePoint : Nat}
    (notReserved : ∀ run ∈ reserved, run.contains codePoint = false) :
    0x60 < codePoint ∧ codePoint ≠ 0x130 ∧ (codePoint < 0xD800 ∨ 0xDFFF < codePoint) := by
  have outside : ∀ first last : Nat, (⟨first, last, 1⟩ : Run) ∈ reserved →
      codePoint < first ∨ last < codePoint := by
    intro first last member
    have notContained := notReserved ⟨first, last, 1⟩ member
    rw [← Bool.not_eq_true, Run.contains_iff] at notContained
    simp only [Nat.mod_one, and_true, not_and] at notContained
    omega
  have behindMarks := outside 0 0x60 (by decide)
  have notDotted := outside 0x130 0x130 (by decide)
  have notSurrogate := outside 0xD800 0xDFFF (by decide)
  omega

/-- The images of a shift of the table are settled. -/
theorem Shift.isSettled_of_image {shift : Shift} (settles : shift.settles = true) {codePoint : Nat}
    (inImage : shift.image.contains codePoint = true) : IsSettled (Char.ofNat codePoint) := by
  simp only [Shift.settles, Bool.and_eq_true, decide_eq_true_eq] at settles
  obtain ⟨⟨⟨⟨⟨notReserved, notSpace⟩, notCapital⟩, notMapped⟩, isCodePoint⟩, -⟩ := settles
  have below := (Run.contains_iff.1 inImage).2.1
  have outside : ∀ table ∈ [reserved, Property.whiteSpace, Property.uppercase, lowerable],
      shift.image.isClearOf table = true → ∀ run ∈ table, run.contains codePoint = false := by
    intro table member clear
    exact Run.not_contains_of_isClearOf (ascending_tables table member) clear inImage
  obtain ⟨behindMarks, notDotted, notSurrogate⟩ :=
    outside_reserved (outside reserved (by simp) notReserved)
  have isChar : (Char.ofNat codePoint).toNat = codePoint := by
    rw [Char.ofNat, dif_pos (by unfold Nat.isValidChar; omega)]
    rfl
  have unmapped : shifted? Property.lowercaseMapping codePoint = none := by
    rw [shifted?, Option.map_eq_none_iff, List.find?_eq_none]
    intro other member
    rw [outside lowerable (by simp) notMapped other.run (List.mem_map_of_mem member)]
    exact Bool.false_ne_true
  refine ⟨?_, ?_, ?_, ?_⟩
  · unfold toLowercase
    rw [isChar, if_neg notDotted, unmapped]
  · unfold isUppercase
    rw [isIn_eq_false_iff, isChar]
    exact outside Property.uppercase (by simp) notCapital
  · unfold isWhiteSpace
    rw [isIn_eq_false_iff, isChar]
    exact outside Property.whiteSpace (by simp) notSpace
  · rw [isChar]
    exact behindMarks

/-- A character is its own small form, or what it becomes is settled. -/
theorem isSettled_of_mem_toLowercase {c small : Char} (member : small ∈ toLowercase c) :
    (toLowercase c = [c] ∧ small = c) ∨ IsSettled small := by
  unfold toLowercase at member ⊢
  split at member
  next =>
    -- the one capital that becomes two characters
    right
    simp only [List.mem_cons, List.not_mem_nil, or_false] at member
    rcases member with rfl | rfl
    · exact ⟨by decide +kernel, by decide +kernel, by decide +kernel, by decide⟩
    · exact ⟨by decide +kernel, by decide +kernel, by decide +kernel, by decide⟩
  next notDotted =>
    rw [if_neg notDotted]
    cases mapped : shifted? Property.lowercaseMapping c.toNat with
    | none =>
        rw [mapped] at member
        exact .inl ⟨rfl, List.mem_singleton.1 member⟩
    | some codePoint =>
        right
        rw [mapped] at member
        obtain rfl := List.mem_singleton.1 member
        obtain ⟨shift, found, rfl⟩ := Option.map_eq_some_iff.1 mapped
        have settles :=
          List.all_eq_true.1 settles_lowercaseMapping shift (List.mem_of_find?_eq_some found)
        have inRun := List.find?_some found
        apply Shift.isSettled_of_image settles
        apply Shift.image_contains _ inRun
        simp only [Shift.settles, Bool.and_eq_true, decide_eq_true_eq] at settles
        exact settles.2

/-- Lowering what has been lowered changes nothing. -/
theorem toLowercase_of_mem_toLowercase {c small : Char} (member : small ∈ toLowercase c) :
    toLowercase small = [small] := by
  rcases isSettled_of_mem_toLowercase member with ⟨own, rfl⟩ | settled
  · exact own
  · exact settled.lowered

end RecordTags.Text
