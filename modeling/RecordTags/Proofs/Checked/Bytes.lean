import RecordTags.Proofs.Checked.Scanner
import RecordTags.Proofs.Number.Literal

/-!
Contract: the bytes of a text, and what a test of a byte says about characters.

Bytes below 128 are characters of their own, and every byte of any other
character is higher. So a byte that has been recognized is a character, and a cut
behind it is a cut between characters.

Owns:
- `bytes`, and the first byte of a text;
- the classes of ASCII characters that numerals are made of;
- looking at the bytes of a text by their index, with every index that can be out
  of range.
-/

namespace RecordTags.Checked

open RecordTags.Text RecordTags.Number

/-! ## Bytes -/

/-- The bytes of a text in UTF-8, each as the character with its number. -/
def bytes (text : List Char) : List Char :=
  text.flatMap fun c => (String.utf8EncodeChar c).map Char.ofUInt8

/-- A function that makes no difference between characters that are not ASCII. -/
def OfAscii {α : Type} (f : Char → α) (other : α) : Prop := ∀ c : Char, 128 ≤ c.toNat → f c = other

theorem toNat_ofUInt8 (byte : UInt8) : (Char.ofUInt8 byte).toNat = byte.toNat :=
  UInt8.toNat_toUInt32 byte

theorem bytes_append (taken rest : List Char) : bytes (taken ++ rest) = bytes taken ++ bytes rest :=
  List.flatMap_append

theorem bytes_cons (c : Char) (rest : List Char) : bytes (c :: rest) = bytes [c] ++ bytes rest :=
  bytes_append [c] rest

theorem length_bytes (text : List Char) : (bytes text).length = byteLength text := by
  induction text with
  | nil => rfl
  | cons c rest inductionHypothesis =>
    rw [bytes_cons, List.length_append, inductionHypothesis, byteLength_cons]
    simp [bytes, String.length_utf8EncodeChar]

/-- An ASCII character is one byte. -/
theorem bytes_of_ascii {c : Char} (isAscii : c.toNat < 128) : bytes [c] = [c] := by
  have small : c.val.toNat ≤ 127 := Nat.le_of_lt_succ isAscii
  have sameNumber : (Char.ofUInt8 (UInt8.ofNat c.val.toNat)).toNat = c.toNat := by
    rw [toNat_ofUInt8, UInt8.toNat_ofNat']
    exact Nat.mod_eq_of_lt (Nat.lt_trans isAscii (by decide))
  have same : Char.ofUInt8 (UInt8.ofNat c.val.toNat) = c := by
    apply Char.ext
    exact UInt32.toNat.inj sameNumber
  have encoded : String.utf8EncodeChar c = [UInt8.ofNat c.val.toNat] := if_pos small
  simp only [bytes, List.flatMap_cons, List.flatMap_nil, List.append_nil, encoded, List.map_cons,
    List.map_nil, same]

theorem bytes_eq_self {text : List Char} (ascii : ∀ c ∈ text, c.toNat < 128) :
    bytes text = text := by
  induction text with
  | nil => rfl
  | cons c rest inductionHypothesis =>
    rw [bytes_cons, bytes_of_ascii (ascii c List.mem_cons_self),
      inductionHypothesis fun c member => ascii c (List.mem_cons_of_mem _ member)]
    rfl

/-- No byte of any other character is an ASCII character. -/
theorem le_toNat_of_mem_bytes {c byte : Char} (notAscii : 128 ≤ c.toNat)
    (member : byte ∈ bytes [c]) : 128 ≤ byte.toNat := by
  have large : ¬ c.val.toNat ≤ 127 := Nat.not_le_of_lt notAscii
  have encoded : ∀ unit ∈ String.utf8EncodeChar c, 128 ≤ unit.toNat := by
    unfold String.utf8EncodeChar
    simp only [if_neg large]
    split_ifs <;> simp only [List.mem_cons, List.not_mem_nil, or_false, forall_eq_or_imp, forall_eq,
      UInt8.toNat_ofNat'] <;> omega
  obtain ⟨unit, isUnit, rfl⟩ : ∃ unit ∈ String.utf8EncodeChar c, Char.ofUInt8 unit = byte := by
    simpa [bytes] using member
  rw [toNat_ofUInt8]
  exact encoded unit isUnit

theorem exists_bytes_cons (c : Char) (rest : List Char) :
    ∃ lead tail, bytes (c :: rest) = lead :: tail := by
  have nonempty : 0 < (bytes (c :: rest)).length := by
    rw [length_bytes]
    exact byteLength_pos (List.cons_ne_nil c rest)
  exact List.exists_cons_of_length_pos nonempty

/-- What the first byte says about the first character. -/
theorem head?_bytes {α : Type} {f : Char → α} {other : α} (ofAscii : OfAscii f other)
    (text : List Char) : (bytes text).head?.map f = text.head?.map f := by
  cases text with
  | nil => rfl
  | cons c rest =>
    by_cases isAscii : c.toNat < 128
    · rw [bytes_cons, bytes_of_ascii isAscii]
      rfl
    · have notAscii : 128 ≤ c.toNat := Nat.le_of_not_lt isAscii
      obtain ⟨lead, tail, isCons⟩ := exists_bytes_cons c []
      have leadLarge : 128 ≤ lead.toNat :=
        le_toNat_of_mem_bytes notAscii (isCons ▸ List.mem_cons_self)
      rw [bytes_cons, isCons]
      show some (f lead) = some (f c)
      rw [ofAscii lead leadLarge, ofAscii c notAscii]

theorem any_head?_bytes {p : Char → Bool} (ofAscii : OfAscii p false) (text : List Char) :
    (bytes text).head?.any p = text.head?.any p := by
  have any_eq : ∀ first : Option Char, first.any p = (first.map p).getD false := by
    intro first
    cases first <;> rfl
  rw [any_eq, head?_bytes ofAscii, ← any_eq]

theorem utf8Size_of_ascii {c : Char} (isAscii : c.toNat < 128) : c.utf8Size = 1 := by
  have length := length_bytes [c]
  rw [bytes_of_ascii isAscii] at length
  exact length.symm

/-- A character that is one byte can be cut off. -/
theorem suffix?_one {c : Char} (isAscii : c.toNat < 128) (rest : List Char) :
    suffix? (c :: rest) 1 = some rest := by
  have behind := (Facing.start (c :: rest)).tail
  rw [utf8Size_of_ascii isAscii] at behind
  exact behind.suffix?

/-- So can two. -/
theorem suffix?_two {c d : Char} (isAscii : c.toNat < 128) (isAsciiToo : d.toNat < 128)
    (rest : List Char) : suffix? (c :: d :: rest) 2 = some rest := by
  have behind := (Facing.start (c :: d :: rest)).tail.tail
  rw [utf8Size_of_ascii isAscii, utf8Size_of_ascii isAsciiToo] at behind
  exact behind.suffix?

/-! ## Classes of ASCII characters -/

theorem ofAscii_of_lt {p : Char → Bool} (below : ∀ c, p c = true → c.toNat < 128) :
    OfAscii p false := by
  intro c notAscii
  rw [Bool.eq_false_iff]
  intro member
  have isAscii := below c member
  omega

theorem ofAscii_beq (ascii : Char) (isAscii : ascii.toNat < 128) : OfAscii (· == ascii) false :=
  ofAscii_of_lt fun _ isEqual => eq_of_beq isEqual ▸ isAscii

theorem lt_of_isSign (c : Char) (sign : isSign c = true) : c.toNat < 128 := by
  have known : c = '+' ∨ c = '-' := by simpa [isSign] using sign
  rcases known with rfl | rfl <;> decide

theorem lt_of_isDigitIn (c : Char) (isDigit : isDigitIn 16 c = true) : c.toNat < 128 := by
  obtain ⟨value, found⟩ := Option.isSome_iff_exists.1 isDigit
  exact lt_of_digitValue? found

theorem lt_of_isAsciiDigit (c : Char) (isDigit : isAsciiDigit c = true) : c.toNat < 128 :=
  lt_of_isDigitIn c (isDigitIn_of_isAsciiDigit (by decide) isDigit)

theorem ofAscii_isDigitIn : OfAscii (isDigitIn 16) false := ofAscii_of_lt lt_of_isDigitIn

theorem ofAscii_isAsciiDigit : OfAscii isAsciiDigit false :=
  ofAscii_of_lt lt_of_isAsciiDigit

theorem lt_of_isExponentMark (c : Char) (isMark : Radix.decimal.isExponentMark c = true) :
    c.toNat < 128 := by
  have known : c = 'e' ∨ c = 'E' := by simpa [Radix.isExponentMark] using isMark
  rcases known with rfl | rfl <;> decide

theorem lt_of_ofLetter? {c : Char} {radix : Radix} (selects : Radix.ofLetter? c = some radix) :
    c.toNat < 128 := by
  have ascii : ∀ letter ∈ ['b', 'B', 'o', 'O', 'x', 'X'], letter.toNat < 128 := by decide
  exact ascii c (mem_letters_of_ofLetter? selects)

theorem ofAscii_ofLetter? : OfAscii Radix.ofLetter? none := by
  intro c notAscii
  rw [Option.eq_none_iff_forall_ne_some]
  intro radix selects
  have isAscii := lt_of_ofLetter? selects
  omega

/-! ## Bytes by their index -/

/-- Whether the byte at an index is in a class, and the index behind it if it is. -/
def acceptByte (data : List Char) (p : Char → Bool) (index : Nat) : Option (Bool × Nat) := do
  if index < data.length then
    let byte ← data[index]?
    return if p byte then (true, index + 1) else (false, index)
  else return (false, index)

/-- The index behind a run of bytes of a class. -/
noncomputable def acceptBytes (data : List Char) (p : Char → Bool) : Nat → Option Nat :=
  loop fun index => do
    let (accepted, next) ← acceptByte data p index
    return if accepted then .inr next else .inl next

/-- The text stands at the index of its bytes. -/
def ByteFacing (data : List Char) (index : Nat) (text : List Char) : Prop :=
  ∃ before, data = before ++ bytes text ∧ index = before.length

namespace ByteFacing

variable {data text : List Char} {index : Nat} {p : Char → Bool}

theorem start (text : List Char) : ByteFacing (bytes text) 0 text := ⟨[], rfl, rfl⟩

theorem advance {taken rest : List Char} (facing : ByteFacing data index (taken ++ rest))
    (ascii : ∀ c ∈ taken, c.toNat < 128) : ByteFacing data (index + taken.length) rest := by
  obtain ⟨before, rfl, rfl⟩ := facing
  refine ⟨before ++ taken, ?_, by rw [List.length_append]⟩
  rw [bytes_append, bytes_eq_self ascii, List.append_assoc]

theorem tail {c : Char} {rest : List Char} (facing : ByteFacing data index (c :: rest))
    (isAscii : c.toNat < 128) : ByteFacing data (index + 1) rest := by
  have cut : ByteFacing data index ([c] ++ rest) := facing
  exact cut.advance (by simpa using isAscii)

theorem atEnd (facing : ByteFacing data index text) : (index == data.length) = text.isEmpty := by
  obtain ⟨before, rfl, rfl⟩ := facing
  cases text with
  | nil => simp [bytes]
  | cons c rest =>
    obtain ⟨lead, tail, isCons⟩ := exists_bytes_cons c rest
    simp [isCons]

/-- A test that tells only ASCII characters apart says of the byte what it says of the character.
-/
theorem acceptByte (facing : ByteFacing data index text) (ofAscii : OfAscii p false) :
    acceptByte data p index =
      some (text.head?.any p, index + (Split.one p text).taken.length) := by
  obtain ⟨before, rfl, rfl⟩ := facing
  cases text with
  | nil => simp [Checked.acceptByte, bytes, Split.one, Split.none]
  | cons c rest =>
    obtain ⟨lead, tail, isCons⟩ := exists_bytes_cons c rest
    have same : p lead = p c := by
      have sameHead := head?_bytes ofAscii (c :: rest)
      rw [isCons] at sameHead
      exact Option.some.inj sameHead
    by_cases member : p c = true
    · simp [Checked.acceptByte, isCons, same, member, Split.one]
    · simp [Checked.acceptByte, isCons, same, member, Split.one, Split.none]

/-- A run of bytes of a class of ASCII characters is a run of such characters. -/
theorem acceptBytes (facing : ByteFacing data index text)
    (below : ∀ c, p c = true → c.toNat < 128) :
    acceptBytes data p index = some (index + (text.takeWhile p).length) := by
  have ofAscii := ofAscii_of_lt below
  induction text generalizing index with
  | nil => exact loop_of_done (by rw [facing.acceptByte ofAscii]; rfl)
  | cons c rest inductionHypothesis =>
    by_cases member : p c = true
    · have behind := facing.tail (below c member)
      calc Checked.acceptBytes data p index
          = Checked.acceptBytes data p (index + 1) :=
            loop_of_next (by simp [facing.acceptByte ofAscii, Split.one, member])
        _ = _ := by
            simp [inductionHypothesis behind, member, Nat.add_assoc, Nat.add_comm 1]
    · exact loop_of_done (by simp [facing.acceptByte ofAscii, Split.one, member, Split.none])

theorem run (facing : ByteFacing data index text) (below : ∀ c, p c = true → c.toNat < 128) :
    ByteFacing data (index + (text.takeWhile p).length) (text.dropWhile p) := by
  rw [← List.takeWhile_append_dropWhile (p := p) (l := text)] at facing
  exact facing.advance fun c member => below c (List.mem_takeWhile_imp member)

/-- A character of the class takes one index, and the text goes on behind it. -/
theorem one (facing : ByteFacing data index text) (below : ∀ c, p c = true → c.toNat < 128) :
    ByteFacing data (index + (Split.one p text).taken.length) (Split.one p text).rest := by
  rw [← (Split.one p text).whole] at facing
  apply facing.advance
  intro c member
  cases text with
  | nil => contradiction
  | cons first rest =>
    by_cases isFirst : p first = true
    · obtain rfl : c = first := by simpa [Split.one, isFirst] using member
      exact below c isFirst
    · simp [Split.one, isFirst, Split.none] at member

end ByteFacing

end RecordTags.Checked
