import RecordTags.Proofs.Number.Classification
import RecordTags.Proofs.Number.Magnitude

/-!
Contract: the readings of one literal fit together.

Owns:
- `IntegerLiteral`, and that an integer literal has one value;
- `Readings.Origin`, where the readings of an accepted text come from: two
  integer readings, the unsigned one alone, the signed one alone, or a double;
- `Readings.Consistent`, what holds between the three readings of a text, and
  that it holds for every text that is accepted.

Does not own: how the double of a literal is related to the number that the
literal denotes.
-/

namespace RecordTags

open RecordTags.Number

namespace Number

/-! ## Literals and their values -/

/-- A literal has one value. -/
theorem UnsignedLiteral.unique {text : List Char} {value second : Nat}
    (literal : UnsignedLiteral text value) (other : UnsignedLiteral text second) :
    value = second := by
  have noLetter : ∀ {letter radix rest digits}, letter ∈ Radix.letters radix →
      ¬ MoreDigits 8 (letter :: rest) digits := by
    intro letter radix rest digits selects octal
    have isNone := (octal.mono (by decide)).noLetter letter List.mem_cons_self
    rw [ofLetter?_eq_some_iff.2 selects] at isNone
    contradiction
  cases literal with
  | decimal writes nonzero more =>
      cases other with
      | decimal writesOther _ moreOther =>
          rw [writes.unique (by decide) (by decide) writesOther, more.unique (by decide) moreOther]
      | based _ _ _ | octal _ => exact absurd rfl (ne_zero_of_writes writes nonzero)
  | based selects more _ =>
      cases other with
      | decimal writesOther nonzero _ => exact absurd rfl (ne_zero_of_writes writesOther nonzero)
      | based selectsOther moreOther _ =>
          have sameRadix := (ofLetter?_eq_some_iff.2 selects).symm.trans
            (ofLetter?_eq_some_iff.2 selectsOther)
          cases sameRadix
          rw [more.unique (base_le _) moreOther]
      | octal moreOther => exact absurd moreOther (noLetter selects)
  | octal more =>
      cases other with
      | decimal writesOther nonzero _ => exact absurd rfl (ne_zero_of_writes writesOther nonzero)
      | based selects _ _ => exact absurd more (noLetter selects)
      | octal moreOther => rw [more.unique (by decide) moreOther]

/-- An integer literal, with a sign or without one, and its value. -/
inductive IntegerLiteral : List Char → Int → Prop where
  | unsigned {text : List Char} {value : Nat} (literal : UnsignedLiteral text value) :
      IntegerLiteral text value
  | signed {text : List Char} {value : Int} (literal : SignedLiteral text value) :
      IntegerLiteral text value

/-- An integer literal has one value. -/
theorem IntegerLiteral.unique {text : List Char} {n second : Int} (literal : IntegerLiteral text n)
    (other : IntegerLiteral text second) : n = second := by
  have noSign : ∀ {text value n}, UnsignedLiteral text value → ¬ SignedLiteral text n := by
    intro text value n literal signed
    have noLiteral := readUnsigned_of_signedLiteral signed
    rw [readUnsigned_of_literal literal] at noLiteral
    split_ifs at noLiteral
    all_goals cases noLiteral
  cases literal with
  | unsigned literal =>
      cases other with
      | unsigned other => rw [literal.unique other]
      | signed other => exact absurd other (noSign literal)
  | signed literal =>
      cases other with
      | unsigned other => exact absurd literal (noSign other)
      | signed other =>
          cases literal with
          | plus literal =>
              cases other with
              | plus other => rw [literal.unique other]
          | minus literal =>
              cases other with
              | minus other => rw [literal.unique other]

theorem IntegerLiteral.exists_body {text : List Char} {n : Int} (literal : IntegerLiteral text n) :
    ∃ magnitude, UnsignedLiteral (signAndBody text).2 magnitude := by
  cases literal with
  | unsigned literal => exact ⟨_, by rwa [literal.signAndBody]⟩
  | signed literal =>
      obtain ⟨negative, body, magnitude, signed, isLiteral, -⟩ := literal.exists_body
      exact ⟨magnitude, by rwa [signed]⟩

/-- An integer literal whose sign is written as a plus, of a value other than zero. -/
def PlusLiteral (text : List Char) : Prop :=
  ∃ body value, text = '+' :: body ∧ UnsignedLiteral body value ∧ value ≠ 0

theorem UnsignedLiteral.not_plus {text : List Char} {value : Nat}
    (literal : UnsignedLiteral text value) : ¬ PlusLiteral text := by
  rintro ⟨body, -, rfl, -⟩
  have noSign := literal.signAndBody
  rw [signAndBody_of_isSign (by decide)] at noSign
  exact List.cons_ne_self '+' body (congrArg Prod.snd noSign).symm

/-- Of the signed literals those with a plus are the positive ones. -/
theorem SignedLiteral.plus_iff {text : List Char} {value : Int}
    (literal : SignedLiteral text value) : PlusLiteral text ↔ 0 < value := by
  cases literal with
  | @minus body magnitude isLiteral =>
      refine iff_of_false ?_ (by omega)
      rintro ⟨_, _, isText, -⟩
      exact absurd (List.cons.inj isText).1 (by decide)
  | @plus body magnitude isLiteral =>
      constructor
      · rintro ⟨_, second, isText, isSecond, nonzero⟩
        cases isText
        rw [isLiteral.unique isSecond]
        omega
      · intro positive
        exact ⟨body, magnitude, rfl, isLiteral, by omega⟩

end Number

namespace Readings

/-! ## Where readings come from -/

/-- The readings of an accepted text, by the form of the text. -/
inductive Origin (text : List Char) : Readings → Prop where
  | unsigned {value : Nat} (literal : UnsignedLiteral text value) (below : value < signedBound) :
      Origin text ⟨some (.ofInt value), some (.ofNat value), some (.ofInt value)⟩
  | large {value : Nat} (literal : UnsignedLiteral text value) (lower : signedBound ≤ value)
      (below : value < unsignedBound) :
      Origin text ⟨none, some (.ofNat value), some (.ofInt value)⟩
  | signed {value : Int} (literal : SignedLiteral text value)
      (lower : -(signedBound : Int) ≤ value) (below : value < signedBound) :
      Origin text ⟨some (.ofInt value), if value = 0 then some 0 else none, some (.ofInt value)⟩
  | double {x : Binary64} (notInteger : ∀ n, ¬ IntegerLiteral text n)
      (read : readFloat? text = some x) (fractional : looksFractional text = true) :
      Origin text (ofDouble x)

/-- Where readings come from that include a signed one. -/
theorem origin_of_signed {text : List Char} {readings : Readings} {n : Int}
    (signed : readSigned text = .ok n) (read : ofText text = .ok readings) :
    Origin text readings := by
  rw [ofText, signed] at read
  cases read
  rcases readSigned_eq_ok_iff.1 signed with ⟨value, literal, below, rfl⟩ | ⟨literal, lower, below⟩
  · have inRange : value < unsignedBound := Nat.lt_trans below (by decide)
    have isUnsigned := readUnsigned_eq_ok_iff.2 ⟨literal, inRange⟩
    have unsigned : (if (value : Int) = 0 then some 0 else
        (readUnsigned text).toOption.map UInt64.ofNat) = some (UInt64.ofNat value) := by
      rw [isUnsigned]
      split_ifs with isZero
      · rw [Int.natCast_eq_zero.1 isZero]
        rfl
      · rfl
    rw [unsigned]
    exact .unsigned literal below
  · have origin := Origin.signed literal lower below
    rwa [readUnsigned_of_signedLiteral literal]

theorem origin_of_unsigned {text : List Char} {readings : Readings} {unread : Unread} {n : Nat}
    (notSigned : readSigned text = .error unread) (unsigned : readUnsigned text = .ok n)
    (read : ofText text = .ok readings) : Origin text readings := by
  rw [ofText, notSigned, unsigned] at read
  cases read
  obtain ⟨literal, below⟩ := readUnsigned_eq_ok_iff.1 unsigned
  refine .large literal ?_ below
  by_contra inRange
  rw [readSigned_of_unsignedLiteral literal, if_pos (Nat.lt_of_not_le inRange)] at notSigned
  contradiction

/-- Where readings come from if a text is no integer in range. -/
theorem origin_of_unread {text : List Char} {readings : Readings} {signed unsigned : Unread}
    (notSigned : readSigned text = .error signed)
    (notUnsigned : readUnsigned text = .error unsigned) (read : ofText text = .ok readings) :
    Origin text readings := by
  rw [ofText_of_unread notSigned notUnsigned] at read
  have notInteger : ∀ n, ¬ IntegerLiteral text n := by
    intro n literal
    obtain ⟨magnitude, isLiteral⟩ := literal.exists_body
    obtain ⟨fault, refused⟩ := ofFloatText_of_literal isLiteral
      (signed == .tooLarge || unsigned == .tooLarge)
    rw [refused] at read
    contradiction
  unfold ofFloatText at read
  split at read
  next => contradiction
  next x isRead =>
    split_ifs at read with fractional
    cases read
    exact .double notInteger isRead fractional

theorem origin_of_ofText {text : List Char} {readings : Readings}
    (read : ofText text = .ok readings) : Origin text readings := by
  cases signed : readSigned text with
  | ok n => exact origin_of_signed signed read
  | error notSigned =>
      cases unsigned : readUnsigned text with
      | ok n => exact origin_of_unsigned signed unsigned read
      | error notUnsigned => exact origin_of_unread signed unsigned read

/-! ## Readings in range -/

/-- A signed reading has exactly the number as its value. -/
theorem int64?_eq_some_iff {n : Int} {i : Int64} : int64? n = some i ↔ i.toInt = n := by
  unfold int64?
  constructor
  · intro found
    split at found
    next inRange =>
      obtain ⟨lower, below⟩ : -(signedBound : Int) ≤ n ∧ n < signedBound := by simpa using inRange
      cases found
      exact Int64.toInt_ofInt_of_le lower below
    next => contradiction
  · rintro rfl
    have lower : -(signedBound : Int) ≤ i.toInt := i.le_toInt
    have below : i.toInt < signedBound := i.toInt_lt
    rw [if_pos (by simp [lower, below]), Int64.ofInt_toInt]

/-- An unsigned reading has exactly the number as its value. -/
theorem uint64?_eq_some_iff {n : Int} {u : UInt64} : uint64? n = some u ↔ (u.toNat : Int) = n := by
  unfold uint64?
  constructor
  · intro found
    split at found
    next inRange =>
      obtain ⟨lower, below⟩ : 0 ≤ n ∧ n < (unsignedBound : Int) := by simpa using inRange
      have small : n.toNat < UInt64.size := (Int.toNat_lt lower).2 below
      cases found
      rw [UInt64.toNat_ofNat_of_lt' small, Int.toNat_of_nonneg lower]
    next => contradiction
  · rintro rfl
    have below : (u.toNat : Int) < unsignedBound := by exact_mod_cast u.toNat_lt
    rw [if_pos (by simp [below]), Int.toNat_natCast, UInt64.ofNat_toNat]

theorem int_ofDouble_eq_some_iff {x : Binary64} (finite : x.isFinite = true) {i : Int64} :
    (ofDouble x).int = some i ↔ x.value = i.toInt := by
  simp only [ofDouble, Option.bind_eq_some_iff, int64?_eq_some_iff, Binary.toInt?_eq_some_iff,
    finite, true_and]
  constructor
  · rintro ⟨n, isValue, rfl⟩
    exact isValue
  · intro isValue
    exact ⟨_, isValue, rfl⟩

theorem uint_ofDouble_eq_some_iff {x : Binary64} (finite : x.isFinite = true) {u : UInt64} :
    (ofDouble x).uint = some u ↔ x.value = u.toNat := by
  simp only [ofDouble, Option.bind_eq_some_iff, uint64?_eq_some_iff, Binary.toInt?_eq_some_iff,
    finite, true_and]
  constructor
  · rintro ⟨n, isValue, rfl⟩
    exact_mod_cast isValue
  · intro isValue
    exact ⟨u.toNat, by exact_mod_cast isValue, rfl⟩

/-! ## What holds between readings -/

/-- What holds between the readings of a text. -/
structure Consistent (text : List Char) (readings : Readings) (x : Binary64) : Prop where
  float : readings.float = some x
  finite : x.isFinite = true
  same : ∀ i ∈ readings.int, ∀ u ∈ readings.uint, i.toInt = u.toNat
  negative : ∀ i ∈ readings.int, i.toInt < 0 → readings.uint = none
  small : ∀ u ∈ readings.uint, u.toNat < 2 ^ 63 → readings.int ≠ none
  nonnegative : ∀ i ∈ readings.int, 0 ≤ i.toInt → (readings.uint = none ↔ PlusLiteral text)
  /-- The double of an integer literal is converted from the integer. -/
  converted : (∃ n, IntegerLiteral text n) →
    (∀ i ∈ readings.int, x = .ofInt i.toInt) ∧
      (readings.int = none → ∃ u ∈ readings.uint, x = .ofInt u.toNat)
  /-- The integers of another literal are read off its double, wherever they are in range. -/
  whole : (∀ n, ¬ IntegerLiteral text n) →
    (∀ i, readings.int = some i ↔ x.value = i.toInt) ∧
      (∀ u, readings.uint = some u ↔ x.value = u.toNat)

/-- Consistency for an unsigned literal that both integer types can hold. -/
theorem Consistent.of_unsigned {text : List Char} {value : Nat}
    (literal : UnsignedLiteral text value) (below : value < signedBound) :
    Consistent text ⟨some (.ofInt value), some (.ofNat value), some (.ofInt value)⟩
      (.ofInt value) := by
  have inRange : value < unsignedBound := Nat.lt_trans below (by decide)
  have int : (Int64.ofInt value).toInt = value :=
    Int64.toInt_ofInt_of_le (by omega) (Int.ofNat_lt.2 below)
  have uint : (UInt64.ofNat value).toNat = value := UInt64.toNat_ofNat_of_lt' inRange
  refine ⟨rfl, Binary.isFinite_ofInt inRange, ?_, ?_, ?_, ?_, ?_, ?_⟩
  · rintro i ⟨⟩ u ⟨⟩
    rw [int, uint]
  · rintro i ⟨⟩ isNegative
    omega
  · rintro u ⟨⟩ _
    exact Option.some_ne_none _
  · rintro i ⟨⟩ _
    exact iff_of_false (Option.some_ne_none _) literal.not_plus
  · intro _
    refine ⟨?_, fun absent => absurd absent (Option.some_ne_none _)⟩
    rintro i ⟨⟩
    rw [int]
  · intro notInteger
    exact absurd (.unsigned literal) (notInteger value)

/-- Consistency for an unsigned literal that only the unsigned type can hold. -/
theorem Consistent.of_large {text : List Char} {value : Nat} (literal : UnsignedLiteral text value)
    (lower : signedBound ≤ value) (below : value < unsignedBound) :
    Consistent text ⟨none, some (.ofNat value), some (.ofInt value)⟩ (.ofInt value) := by
  have uint : (UInt64.ofNat value).toNat = value := UInt64.toNat_ofNat_of_lt' below
  have noInt : ∀ {i : Int64}, i ∉ (none : Option Int64) := Option.not_mem_none _
  refine ⟨rfl, Binary.isFinite_ofInt below, ?_, ?_, ?_, ?_, ?_, ?_⟩
  · exact fun i isInt => absurd isInt noInt
  · exact fun i isInt => absurd isInt noInt
  · rintro u ⟨⟩ small
    rw [uint] at small
    exact absurd small (Nat.not_lt.2 lower)
  · exact fun i isInt => absurd isInt noInt
  · intro _
    refine ⟨fun i isInt => absurd isInt noInt, fun _ => ⟨_, rfl, ?_⟩⟩
    rw [uint]
  · intro notInteger
    exact absurd (.unsigned literal) (notInteger value)

/-- Consistency for a literal with a sign. -/
theorem Consistent.of_signed {text : List Char} {value : Int} (literal : SignedLiteral text value)
    (lower : -(signedBound : Int) ≤ value) (below : value < signedBound) :
    Consistent text ⟨some (.ofInt value), if value = 0 then some 0 else none, some (.ofInt value)⟩
      (.ofInt value) := by
  have bounds : signedBound < unsignedBound := by decide
  have int : (Int64.ofInt value).toInt = value := Int64.toInt_ofInt_of_le lower below
  have uint : ∀ u ∈ if value = 0 then some (0 : UInt64) else none, value = 0 ∧ u = 0 := by
    intro u isUnsigned
    split_ifs at isUnsigned with isZero
    · cases isUnsigned
      exact ⟨isZero, rfl⟩
    · cases isUnsigned
  refine ⟨rfl, Binary.isFinite_ofInt (by omega), ?_, ?_, ?_, ?_, ?_, ?_⟩
  · rintro i ⟨⟩ u isUnsigned
    obtain ⟨isZero, rfl⟩ := uint u isUnsigned
    rw [int, isZero]
    rfl
  · rintro i ⟨⟩ isNegative
    rw [int] at isNegative
    exact if_neg (by omega)
  · intro u _ _
    exact Option.some_ne_none _
  · rintro i ⟨⟩ isNonnegative
    rw [int] at isNonnegative
    rw [literal.plus_iff]
    simp only [ite_eq_right_iff, reduceCtorEq, imp_false]
    omega
  · intro _
    refine ⟨?_, fun absent => absurd absent (Option.some_ne_none _)⟩
    rintro i ⟨⟩
    rw [int]
  · intro notInteger
    exact absurd (.signed literal) (notInteger value)

/-- Consistency for a text that is no integer literal. -/
theorem Consistent.of_double {text : List Char} {x : Binary64}
    (notInteger : ∀ n, ¬ IntegerLiteral text n) (finite : x.isFinite = true) :
    Consistent text (ofDouble x) x := by
  have int := @int_ofDouble_eq_some_iff x finite
  have uint := @uint_ofDouble_eq_some_iff x finite
  refine ⟨rfl, finite, ?_, ?_, ?_, ?_, ?_, ?_⟩
  · intro i isInt u isUnsigned
    have isValue := (int.1 isInt).symm.trans (uint.1 isUnsigned)
    exact_mod_cast isValue
  · intro i isInt isNegative
    refine Option.eq_none_iff_forall_ne_some.2 fun u isUnsigned => ?_
    have isValue := (int.1 isInt).symm.trans (uint.1 isUnsigned)
    have same : i.toInt = u.toNat := by exact_mod_cast isValue
    omega
  · intro u isUnsigned isSmall
    have fits : (Int64.ofInt u.toNat).toInt = u.toNat :=
      Int64.toInt_ofInt_of_le (by omega) (by exact_mod_cast isSmall)
    have isInt : (ofDouble x).int = some (.ofInt u.toNat) := by
      rw [int, fits, uint.1 isUnsigned]
      norm_cast
    rw [isInt]
    exact Option.some_ne_none _
  · intro i isInt isNonnegative
    have fits : (UInt64.ofNat i.toInt.toNat).toNat = i.toInt.toNat := by
      have inRange : i.toInt.toNat < 2 ^ 64 := by
        have below := i.toInt_lt
        omega
      exact UInt64.toNat_ofNat_of_lt' inRange
    have isUnsigned : (ofDouble x).uint = some (.ofNat i.toInt.toNat) := by
      rw [uint, fits, int.1 isInt]
      exact_mod_cast (Int.toNat_of_nonneg isNonnegative).symm
    rw [isUnsigned]
    refine iff_of_false (Option.some_ne_none _) ?_
    rintro ⟨body, value, rfl, literal, -⟩
    exact notInteger value (.signed (.plus literal))
  · rintro ⟨n, literal⟩
    exact absurd literal (notInteger n)
  · intro _
    exact ⟨fun _ => int, fun _ => uint⟩

/-- The three readings of every accepted text fit together. -/
theorem readings_consistent {text : List Char} {readings : Readings}
    (read : ofText text = .ok readings) : ∃ x, Consistent text readings x := by
  cases origin_of_ofText read with
  | unsigned literal below => exact ⟨_, .of_unsigned literal below⟩
  | large literal lower below => exact ⟨_, .of_large literal lower below⟩
  | signed literal lower below => exact ⟨_, .of_signed literal lower below⟩
  | double notInteger isRead _ =>
      exact ⟨_, .of_double notInteger (isFinite_of_readFloat? isRead)⟩

theorem readings_consistent_oneMissing :
    (∃ readings, ofText "+7".toList = .ok readings ∧ readings.uint = none ∧
      ∃ x, Consistent "+7".toList readings x) ∧
    (∃ readings, ofText "0xFFFF_ffff_FFFF_ffff".toList = .ok readings ∧ readings.int = none ∧
      ∃ x, Consistent "0xFFFF_ffff_FFFF_ffff".toList readings x) ∧
    ∃ readings, ofText "-2.50e1".toList = .ok readings ∧ readings.int = some (-25) ∧
      ∃ x, Consistent "-2.50e1".toList readings x :=
  ⟨⟨_, rfl, rfl, readings_consistent rfl⟩, ⟨_, rfl, rfl, readings_consistent rfl⟩,
    ⟨_, rfl, rfl, readings_consistent rfl⟩⟩

end Readings

end RecordTags
