import RecordTags.Proofs.Number.Decimal
import RecordTags.Proofs.Number.Finite
import RecordTags.Proofs.Number.Literal

/-!
Contract: integer readings are the values of integer literals.

Owns:
- the readings of every integer literal, within the limits and beyond them;
- that a text with an integer reading is a literal of that value.

Does not own: what becomes of a text that has no integer reading.

## Where a reader stops

`readDigits` stops at the first character that is no digit and at the first
digit that takes the number beyond the limit, whichever comes first. Its closed
form `readDigits_eq` therefore compares the limit with the digits in front of
the first other character, and only then asks whether there is one. For
literals the difference does not show, since all their characters are digits.
-/

namespace RecordTags.Number

open RecordTags.Text

/-! ## Digits up to the limit -/

/-- The number that digits denote behind digits that denote `total`. -/
def extend (base total : Nat) (digits : List Nat) : Nat :=
  digits.foldl (fun total digit => total * base + digit) total

theorem extend_zero (base : Nat) (digits : List Nat) :
    extend base 0 digits = ofDigits base digits := rfl

theorem le_extend {base : Nat} (positive : 0 < base) (total : Nat) (digits : List Nat) :
    total ≤ extend base total digits := by
  induction digits generalizing total with
  | nil => exact Nat.le_refl total
  | cons digit others inductionHypothesis =>
      calc total ≤ total * base := Nat.le_mul_of_pos_right total positive
        _ ≤ total * base + digit := Nat.le_add_right _ _
        _ ≤ extend base total (digit :: others) := inductionHypothesis _

/-- The digits in front of the first other character decide whether the number is too large, and
only a number that is not can still fail for that character. -/
theorem readDigits_eq {base total : Nat} (positive : 0 < base) (below : total < unsignedBound)
    (text : List Char) :
    readDigits base total text =
      if unsignedBound ≤ extend base total (digitValues base
          ((text.filter (· != '_')).takeWhile (isDigitIn base))) then .error .tooLarge
      else if (text.filter (· != '_')).all (isDigitIn base) then
        .ok (extend base total (digitValues base (text.filter (· != '_'))))
      else .error .malformed := by
  induction text generalizing total with
  | nil => simp [readDigits, extend, digitValues, below]
  | cons c rest inductionHypothesis =>
      by_cases isUnderscore : c = '_'
      · subst isUnderscore
        rw [readDigits, if_pos (by decide), List.filter_cons_of_neg (by decide)]
        exact inductionHypothesis below
      · rw [readDigits, if_neg (by simpa using isUnderscore), filter_cons_of_ne isUnderscore]
        cases found : digitValue? base c with
        | none => simp [isDigitIn, found, digitValues, extend, below]
        | some digit =>
            simp only [isDigitIn, found, digitValues, Option.isSome_some, List.takeWhile_cons,
              List.filterMap_cons, List.all_cons, if_true, Bool.true_and]
            split
            next inRange => exact inductionHypothesis inRange
            next exceeds =>
              -- the reader stops here; what the remaining digits add keeps the number too large
              rw [if_pos]
              exact Nat.le_trans (Nat.le_of_not_lt exceeds) (le_extend positive _ _)

/-- Digits of the base alone. -/
theorem readDigits_of_written {base : Nat} (positive : 0 < base) (small : base ≤ 16)
    {text : List Char} {digits : List Nat}
    (written : List.Forall₂ (WritesDigit base) (text.filter (· != '_')) digits) :
    readDigits base 0 text =
      if ofDigits base digits < unsignedBound then .ok (ofDigits base digits)
      else .error .tooLarge := by
  obtain ⟨all, values⟩ := (forall₂_writes_iff small).1 written
  rw [readDigits_eq positive (by decide), List.takeWhile_eq_self_iff.2 all, values,
    List.all_eq_true.2 all, extend_zero]
  by_cases below : ofDigits base digits < unsignedBound
  · simp [below]
  · simp [below, Nat.le_of_not_lt below]

theorem written_of_readDigits {base value : Nat} (positive : 0 < base) (small : base ≤ 16)
    {text : List Char} (read : readDigits base 0 text = .ok value) :
    ∃ digits, List.Forall₂ (WritesDigit base) (text.filter (· != '_')) digits ∧
      value = ofDigits base digits := by
  rw [readDigits_eq positive (by decide)] at read
  split_ifs at read with exceeds all
  cases read
  exact ⟨_, (forall₂_writes_iff small).2 ⟨List.all_eq_true.1 all, rfl⟩, rfl⟩

/-! ## Unsigned readings -/

theorem readUnsigned_of_grouped {text digits : List Char} {radix : Radix} (nonempty : text ≠ [])
    (split : baseAndDigits text = (radix, digits)) (grouped : isGrouped text = true) :
    readUnsigned text = readDigits radix.base 0 digits := by
  cases text with
  | nil => contradiction
  | cons first rest =>
      simp only [readUnsigned, split, grouped]
      cases readDigits radix.base 0 digits <;> simp

theorem ne_zero_of_writes {c : Char} {digit : Nat} (writes : WritesDigit 10 c digit)
    (nonzero : digit ≠ 0) : c ≠ '0' := by
  rintro rfl
  have found := (digitValue?_eq_some_iff (by decide)).2 writes
  exact nonzero (Option.some.inj found).symm

theorem signAndBody_of_writes {c : Char} {digit : Nat} (writes : WritesDigit 10 c digit)
    (rest : List Char) : signAndBody (c :: rest) = (false, c :: rest) := by
  apply signAndBody_of_not_isSign
  apply isSign_of_isAsciiDigit
  exact isAsciiDigit_of_isDigitIn (Nat.le_refl 10) (isDigitIn_of_writes (by decide) writes)

theorem signAndBody_zero (rest : List Char) : signAndBody ('0' :: rest) = (false, '0' :: rest) :=
  signAndBody_of_not_isSign (by decide) rest

/-- A leading zero in front of decimal digits selects base eight. -/
theorem readUnsigned_zero {text : List Char} {digits : List Nat}
    (more : MoreDigits 10 text digits) : readUnsigned ('0' :: text) = readDigits 8 0 text := by
  have split : baseAndDigits ('0' :: text) = (.octal, text) := by
    unfold baseAndDigits
    split
    next letter next rest isText =>
      cases isText
      rw [more.noLetter letter List.mem_cons_self]
    next isText =>
      cases isText
      rfl
    next noZero => exact absurd rfl (noZero text)
  have grouped : isGrouped ('0' :: text) = true := by
    rw [isGrouped_of_noLetter, signAndBody_zero, groupedFrom, if_pos (by decide)]
    · exact ((moreDigits_iff (classes_isAsciiDigit (Nat.le_refl 10))).1 more).1
    · intro letter rest body
      rw [signAndBody_zero] at body
      cases body
      exact more.noLetter letter List.mem_cons_self
  exact readUnsigned_of_grouped (List.cons_ne_nil _ _) split grouped

/-- A literal is read as its value, up to the bound. -/
theorem readUnsigned_of_literal {text : List Char} {value : Nat}
    (literal : UnsignedLiteral text value) :
    readUnsigned text = if value < unsignedBound then .ok value else .error .tooLarge := by
  cases literal with
  | @decimal c value text digits writes nonzero more =>
      have all := (digits_iff (classes_isAsciiDigit (Nat.le_refl 10))).1 (.present writes more)
      have noZero : ∀ rest, c :: text ≠ '0' :: rest := by
        intro rest isZero
        exact ne_zero_of_writes writes nonzero (List.cons.inj isZero).1
      have grouped : isGrouped (c :: text) = true := by
        rw [isGrouped_of_noLetter, signAndBody_of_writes writes]
        · exact all.1
        · intro letter rest body
          rw [signAndBody_of_writes writes] at body
          exact absurd body (noZero _)
      rw [readUnsigned_of_grouped (List.cons_ne_nil _ _) (baseAndDigits_of_ne_zero noZero) grouped]
      exact readDigits_of_written (base_pos .decimal) (base_le .decimal) all.2
  | @based letter radix text digits selects more nonempty =>
      have all := (moreDigits_iff (classes_isGroupDigit radix)).1 more
      have grouped : isGrouped ('0' :: letter :: text) = true := by
        rw [isGrouped_of_letter (by rw [signAndBody_zero]) selects]
        exact all.1
      have split : baseAndDigits ('0' :: letter :: text) = (radix, text) := by
        obtain ⟨next, rest, rfl⟩ := List.exists_cons_of_ne_nil (more.ne_nil nonempty)
        simp only [baseAndDigits, ofLetter?_eq_some_iff.2 selects]
      rw [readUnsigned_of_grouped (List.cons_ne_nil _ _) split grouped]
      exact readDigits_of_written (base_pos radix) (base_le radix) all.2
  | @octal text digits more =>
      have all := (moreDigits_iff (classes_isAsciiDigit (by decide))).1 more
      rw [readUnsigned_zero (more.mono (by decide))]
      exact readDigits_of_written (base_pos .octal) (base_le .octal) all.2

/-- The grouping rule is asked only about digits that hold an underscore, but all others keep it. -/
theorem isGrouped_of_readUnsigned {text : List Char} {value : Nat}
    (read : readUnsigned text = .ok value) : isGrouped text = true := by
  by_contra notGrouped
  rw [Bool.not_eq_true] at notGrouped
  cases text with
  | nil => contradiction
  | cons first rest =>
      have body : (signAndBody (first :: rest)).2 = first :: rest := by
        rw [signAndBody_of_not_isSign (isSign_of_readUnsigned read)]
      have underscore : '_' ∈ first :: rest := by
        by_contra noUnderscore
        rw [isGrouped_of_not_mem (by rwa [body])] at notGrouped
        contradiction
      rcases split : baseAndDigits (first :: rest) with ⟨radix, digits⟩
      have inDigits : digits.contains '_' = true := by
        rw [List.contains_iff_mem]
        rcases baseAndDigits_cases split with
          ⟨letter, selects, -, whole⟩ | ⟨-, whole⟩ | ⟨-, -, whole⟩
        · rw [whole] at underscore
          have notLetter : '_' ≠ letter := by
            rintro rfl
            contradiction
          simpa [notLetter] using underscore
        · rw [whole] at underscore
          simpa using underscore
        · rwa [whole] at underscore
      simp only [readUnsigned, split, notGrouped, inDigits] at read
      split at read <;> contradiction

/-- Only literals are read. -/
theorem literal_of_readUnsigned {text : List Char} {value : Nat}
    (read : readUnsigned text = .ok value) : UnsignedLiteral text value := by
  have grouped := isGrouped_of_readUnsigned read
  have nonempty : text ≠ [] := by
    rintro rfl
    contradiction
  have body : (signAndBody text).2 = text := by
    obtain ⟨first, rest, rfl⟩ := List.exists_cons_of_ne_nil nonempty
    rw [signAndBody_of_not_isSign (isSign_of_readUnsigned read)]
  rcases split : baseAndDigits text with ⟨radix, digits⟩
  rw [readUnsigned_of_grouped nonempty split grouped] at read
  obtain ⟨values, written, rfl⟩ := written_of_readDigits (base_pos radix) (base_le radix) read
  have all := forall_of_readDigits read
  rcases baseAndDigits_cases split with
    ⟨letter, isLetter, hasDigits, rfl⟩ | ⟨rfl, rfl⟩ | ⟨rfl, noZero, rfl⟩
  · have selects := ofLetter?_eq_some_iff.1 isLetter
    rw [isGrouped_of_letter body selects] at grouped
    have more := (moreDigits_iff (classes_isGroupDigit radix)).2 ⟨grouped, written⟩
    refine .based selects more ?_
    rintro rfl
    cases more
    exact hasDigits rfl
  · have noLetter : ∀ letter rest, (signAndBody ('0' :: digits)).2 = '0' :: letter :: rest →
        Radix.ofLetter? letter = none := by
      intro letter rest whole
      rw [body] at whole
      cases whole
      apply ofLetter?_of_isDigitOrUnderscore
      exact isDigitOrUnderscore_of_octal (all letter List.mem_cons_self)
    rw [isGrouped_of_noLetter noLetter, body, groupedFrom, if_pos (by decide)] at grouped
    exact .octal ((moreDigits_iff (classes_isAsciiDigit (by decide))).2 ⟨grouped, written⟩)
  · have noLetter : ∀ letter rest, (signAndBody text).2 = '0' :: letter :: rest →
        Radix.ofLetter? letter = none := by
      intro letter rest whole
      rw [body] at whole
      exact absurd whole (noZero _)
    rw [isGrouped_of_noLetter noLetter, body] at grouped
    cases (digits_iff (classes_isAsciiDigit (Nat.le_refl 10))).2 ⟨grouped, written⟩ with
    | absent => contradiction
    | present writes more =>
        refine .decimal writes ?_ more
        rintro rfl
        rw [writes.eq_zero] at noZero
        exact noZero _ rfl

theorem readUnsigned_eq_ok_iff {text : List Char} {value : Nat} :
    readUnsigned text = .ok value ↔ UnsignedLiteral text value ∧ value < unsignedBound := by
  constructor
  · intro read
    exact ⟨literal_of_readUnsigned read, lt_of_readUnsigned read⟩
  · rintro ⟨literal, below⟩
    rw [readUnsigned_of_literal literal, if_pos below]

/-! ## Signed readings -/

theorem UnsignedLiteral.signAndBody {text : List Char} {value : Nat}
    (literal : UnsignedLiteral text value) : signAndBody text = (false, text) := by
  cases literal with
  | decimal writes _ _ => exact signAndBody_of_writes writes _
  | based _ _ _ | octal _ => exact signAndBody_zero _

/-- A text starts with a sign, or is all body. -/
theorem signAndBody_cases {text body : List Char} {negative : Bool}
    (signed : signAndBody text = (negative, body)) :
    (∃ sign ∈ ['+', '-'], text = sign :: body ∧ negative = (sign == '-')) ∨
      (text = body ∧ negative = false ∧ ∀ c ∈ body.head?, isSign c = false) := by
  cases text with
  | nil =>
      cases signed
      exact .inr ⟨rfl, rfl, by simp⟩
  | cons c rest =>
      cases sign : isSign c with
      | true =>
          rw [signAndBody_of_isSign sign] at signed
          cases signed
          exact .inl ⟨c, by simpa [isSign] using sign, rfl, rfl⟩
      | false =>
          rw [signAndBody_of_not_isSign sign] at signed
          cases signed
          exact .inr ⟨rfl, rfl, by simpa using sign⟩

/-- A magnitude with a sign. -/
def withSign (negative : Bool) (magnitude : Nat) : Int :=
  if negative then -(magnitude : Int) else magnitude

/-- A literal behind an optional sign is read as its value, as far as it is in range. -/
theorem readSigned_of_literal {text body : List Char} {negative : Bool} {magnitude : Nat}
    (signed : signAndBody text = (negative, body)) (literal : UnsignedLiteral body magnitude) :
    readSigned text =
      if -(signedBound : Int) ≤ withSign negative magnitude ∧
          withSign negative magnitude < signedBound then .ok (withSign negative magnitude)
      else .error .tooLarge := by
  have bounds : 0 < signedBound ∧ signedBound < unsignedBound := by decide
  simp only [readSigned, signed, readUnsigned_of_literal literal]
  by_cases below : magnitude < unsignedBound
  · rw [if_pos below]
    cases negative with
    | false =>
        simp only [withSign, Bool.false_eq_true, if_false]
        by_cases inRange : magnitude < signedBound
        · rw [if_pos inRange, if_pos (by omega)]
        · rw [if_neg inRange, if_neg (by omega)]
    | true =>
        simp only [withSign, if_true]
        by_cases inRange : magnitude ≤ signedBound
        · rw [if_pos inRange, if_pos (by omega)]
        · rw [if_neg inRange, if_neg (by omega)]
  · have outside : ¬ (-(signedBound : Int) ≤ withSign negative magnitude ∧
        withSign negative magnitude < signedBound) := by
      unfold withSign
      split <;> omega
    rw [if_neg below, if_neg outside]

theorem SignedLiteral.exists_body {text : List Char} {value : Int}
    (literal : SignedLiteral text value) :
    ∃ negative body magnitude, signAndBody text = (negative, body) ∧
      UnsignedLiteral body magnitude ∧ value = withSign negative magnitude := by
  cases literal with
  | plus literal => exact ⟨false, _, _, signAndBody_of_isSign (by decide) _, literal, rfl⟩
  | minus literal => exact ⟨true, _, _, signAndBody_of_isSign (by decide) _, literal, rfl⟩

theorem readSigned_of_signedLiteral {text : List Char} {value : Int}
    (literal : SignedLiteral text value) :
    readSigned text =
      if -(signedBound : Int) ≤ value ∧ value < signedBound then .ok value
      else .error .tooLarge := by
  obtain ⟨negative, body, magnitude, signed, isLiteral, rfl⟩ := literal.exists_body
  exact readSigned_of_literal signed isLiteral

theorem readSigned_of_unsignedLiteral {text : List Char} {value : Nat}
    (literal : UnsignedLiteral text value) :
    readSigned text = if value < signedBound then .ok (value : Int) else .error .tooLarge := by
  rw [readSigned_of_literal literal.signAndBody literal]
  have inRange : -(signedBound : Int) ≤ withSign false value ∧ withSign false value < signedBound ↔
      value < signedBound := by
    simp only [withSign, Bool.false_eq_true, if_false]
    omega
  simp only [inRange]
  rfl

theorem readUnsigned_of_signedLiteral {text : List Char} {value : Int}
    (literal : SignedLiteral text value) : readUnsigned text = .error .malformed := by
  cases literal <;> rfl

/-- Only integer literals have a signed reading. -/
theorem literal_of_readSigned {text : List Char} {n : Int} (read : readSigned text = .ok n) :
    (∃ value, UnsignedLiteral text value ∧ n = value) ∨ SignedLiteral text n := by
  rcases signed : signAndBody text with ⟨negative, body⟩
  have unsigned : ∃ magnitude, readUnsigned body = .ok magnitude := by
    cases found : readUnsigned body with
    | ok magnitude => exact ⟨magnitude, rfl⟩
    | error unread =>
        simp only [readSigned, signed, found] at read
        contradiction
  obtain ⟨magnitude, unsigned⟩ := unsigned
  have literal := literal_of_readUnsigned unsigned
  rw [readSigned_of_literal signed literal] at read
  split_ifs at read
  cases read
  rcases signAndBody_cases signed with ⟨sign, isSign, rfl, rfl⟩ | ⟨rfl, rfl, -⟩
  · rcases List.mem_pair.1 isSign with rfl | rfl
    · exact .inr (.plus literal)
    · exact .inr (.minus literal)
  · exact .inl ⟨magnitude, literal, rfl⟩

/-- The integer literals in the signed range have a signed reading, and no other text has. -/
theorem readSigned_eq_ok_iff {text : List Char} {n : Int} :
    readSigned text = .ok n ↔
      (∃ value : Nat, UnsignedLiteral text value ∧ value < signedBound ∧ n = value) ∨
        (SignedLiteral text n ∧ -(signedBound : Int) ≤ n ∧ n < signedBound) := by
  constructor
  · intro read
    rcases literal_of_readSigned read with ⟨value, literal, rfl⟩ | literal
    · rw [readSigned_of_unsignedLiteral literal] at read
      split_ifs at read with below
      exact .inl ⟨value, literal, below, rfl⟩
    · rw [readSigned_of_signedLiteral literal] at read
      split_ifs at read with inRange
      exact .inr ⟨literal, inRange⟩
  · rintro (⟨value, literal, below, rfl⟩ | ⟨literal, inRange⟩)
    · rw [readSigned_of_unsignedLiteral literal, if_pos below]
    · rw [readSigned_of_signedLiteral literal, if_pos inRange]

end RecordTags.Number
