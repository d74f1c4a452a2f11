import RecordTags.Text.Character

/-!
Contract: texts without white space at their ends.
-/

namespace RecordTags.Text

/-- Without white space at the end. -/
def trimEnd (text : List Char) : List Char :=
  (text.reverse.dropWhile isWhiteSpace).reverse

/-- Without white space at either end. -/
def trim (text : List Char) : List Char := trimEnd (text.dropWhile isWhiteSpace)

theorem length_dropWhile_le (p : Char → Bool) (text : List Char) :
    (text.dropWhile p).length ≤ text.length := by
  have whole := congrArg List.length (List.takeWhile_append_dropWhile (p := p) (l := text))
  rw [List.length_append] at whole
  omega

theorem length_trim_le (text : List Char) : (trim text).length ≤ text.length := by
  unfold trim trimEnd
  rw [List.length_reverse]
  have inner := length_dropWhile_le isWhiteSpace (text.dropWhile isWhiteSpace).reverse
  rw [List.length_reverse] at inner
  exact Nat.le_trans inner (length_dropWhile_le isWhiteSpace text)

/-- What stands behind the first character of a trimmed text is shorter than the
text. -/
theorem length_lt_of_trim {text rest : List Char} {first : Char}
    (trimmed : trim text = first :: rest) : rest.length < text.length := by
  have bound := length_trim_le text
  rw [trimmed, List.length_cons] at bound
  exact bound

end RecordTags.Text
