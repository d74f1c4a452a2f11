/-!
Contract: cutting a text in two, and its length in bytes.

Owns:
- `byteLength`, the length of a text in UTF-8, the unit of every offset;
- `Split`, a text cut into what was taken and what is left, with the fact that
  nothing was lost;
- the cuts that readers are built from.
-/

namespace RecordTags.Text

/-- The length of a text in UTF-8 bytes. -/
def byteLength : List Char → Nat
  | [] => 0
  | c :: rest => c.utf8Size + byteLength rest

@[simp] theorem byteLength_nil : byteLength [] = 0 := rfl

@[simp] theorem byteLength_cons (c : Char) (rest : List Char) :
    byteLength (c :: rest) = c.utf8Size + byteLength rest := rfl

@[simp] theorem byteLength_append (left right : List Char) :
    byteLength (left ++ right) = byteLength left + byteLength right := by
  induction left with
  | nil => simp
  | cons c rest inductionHypothesis => simp [inductionHypothesis, Nat.add_assoc]

/-- A text cut in two. -/
structure Split (text : List Char) where
  taken : List Char
  rest : List Char
  whole : taken ++ rest = text

namespace Split

def none (text : List Char) : Split text := ⟨[], text, rfl⟩

/-- Takes one character if there is one and it satisfies `p`. -/
def one (p : Char → Bool) : (text : List Char) → Split text
  | [] => none []
  | c :: rest => if p c then ⟨[c], rest, rfl⟩ else none (c :: rest)

/-- Takes the longest run of characters that satisfy `p`. -/
def run (p : Char → Bool) (text : List Char) : Split text :=
  ⟨text.takeWhile p, text.dropWhile p, List.takeWhile_append_dropWhile⟩

/-- Continues cutting where the first cut stopped. -/
def andThen {text : List Char} (first : Split text) (next : (rest : List Char) → Split rest) :
    Split text :=
  let second := next first.rest
  ⟨first.taken ++ second.taken, second.rest, by
    rw [List.append_assoc, second.whole, first.whole]⟩

/-- Puts a character in front of what was taken. -/
def cons (c : Char) {text : List Char} (split : Split text) : Split (c :: text) :=
  ⟨c :: split.taken, split.rest, by rw [List.cons_append, split.whole]⟩

theorem length_rest_le {text : List Char} (split : Split text) :
    split.rest.length ≤ text.length := by
  have whole := congrArg List.length split.whole
  rw [List.length_append] at whole
  omega

theorem byteLength_taken_add_rest {text : List Char} (split : Split text) :
    byteLength split.taken + byteLength split.rest = byteLength text := by
  rw [← byteLength_append, split.whole]

end Split

end RecordTags.Text
