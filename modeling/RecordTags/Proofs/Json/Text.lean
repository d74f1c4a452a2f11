import RecordTags.Proofs.Json.Lexemes

/-!
Contract: the indented text of a JSON value is read as the value.

Owns:
- `Readable`, the values for which this holds: whole numbers fit 64 bits,
  doubles are kept, and every part denotes something;
- `Reader.run`, the machine on a text, with one step for each lexeme;
- that the machine puts a value together from its text, by induction on the
  value, and for arrays and objects on their contents.

Does not own: which doubles are kept.
-/

namespace RecordTags.Json

open RecordTags.Text

/-- A value that its text is read as. -/
inductive Readable : Json → Prop where
  | null : Readable .null
  | bool (value : Bool) : Readable (.bool value)
  | int {n : Int} (lower : -(Number.signedBound : Int) ≤ n) (upper : n < Number.unsignedBound) :
      Readable (.int n)
  | float {x : Binary64} (keeps : KeepsDouble x) : Readable (.float x)
  | string (text : String) : Readable (.string text)
  | array {items : List Json} (readable : ∀ item ∈ items, Readable item) :
      Readable (.array items)
  | object {members : List (String × Json)} (readable : ∀ member ∈ members, Readable member.2) :
      Readable (.object members)

def Expect.AllowsValue (expect : Expect) : Prop := expect = .value ∨ expect = .itemOrEnd

namespace Reader

/-! ## Steps -/

/-- Takes in the lexemes of a text, and tells whether that was all of it. -/
def run (reader : Reader) (text : List Char) : Reader × Bool :=
  let found := lexemes text
  let taken := reader.takeAll found.1
  (taken.1, found.2 && taken.2)

theorem run_step {reader next : Reader} {text rest : List Char} {lexeme : Lexeme}
    (found : lexemes text = andMore lexeme (lexemes rest))
    (takes : reader.take lexeme = some next) : reader.run text = next.run rest := by
  rw [run, run, found]
  simp only [andMore, takeAll, takes]

theorem run_mark {reader next : Reader} {c : Char} {mark : Mark} (isMark : mark? c = some mark)
    (takes : reader.take (.mark mark) = some next) (rest : List Char) :
    reader.run (c :: rest) = next.run rest :=
  run_step (lexemes_mark isMark rest) takes

theorem run_quote {reader next : Reader} {text : String}
    (takes : reader.take (.string (some text)) = some next) (rest : List Char) :
    reader.run ((quote text).toList ++ rest) = next.run rest :=
  run_step (lexemes_quote text rest) takes

theorem run_blanks {blanks : List Char} (blank : ∀ c ∈ blanks, isBlank c = true)
    (reader : Reader) (rest : List Char) : reader.run (blanks ++ rest) = reader.run rest := by
  induction blanks with
  | nil => rfl
  | cons c blanks inductionHypothesis =>
      obtain ⟨isBlank, allBlank⟩ := List.forall_mem_cons.1 blank
      rw [List.cons_append, ← inductionHypothesis allBlank, run, run, lexemes_blank isBlank]

theorem toList_newLine (level : Nat) :
    (newLine level).toList = '\n' :: List.replicate (2 * level) ' ' := by
  simp [newLine]

theorem run_newLine (level : Nat) (reader : Reader) (rest : List Char) :
    reader.run ((newLine level).toList ++ rest) = reader.run rest := by
  refine run_blanks (fun c member => ?_) reader rest
  rw [toList_newLine] at member
  rcases List.mem_cons.1 member with rfl | isIndentation
  · rfl
  · rw [List.eq_of_mem_replicate isIndentation]
    rfl

/-! ## Values -/

/-- The text of the value is taken in as the value. -/
def Reads (level : Nat) (json : Json) : Prop :=
  ∀ (stack : List Frame) (expect : Expect) (rest : List Char), expect.AllowsValue → Closes rest →
    run ⟨stack, expect, none⟩ ((json.prettyAt level).toList ++ rest) = (put json stack).run rest

theorem take_of_allowsValue {stack : List Frame} {expect : Expect} (allows : expect.AllowsValue)
    {lexeme : Lexeme} (noEnd : ∀ reader : Reader, reader.takeEnd lexeme = none) :
    take ⟨stack, expect, none⟩ lexeme = takeValue ⟨stack, expect, none⟩ lexeme := by
  rcases allows with rfl | rfl
  · rfl
  · show (takeEnd _ lexeme).or (takeValue _ lexeme) = _
    rw [noEnd]
    rfl

theorem reads_scalar {level : Nat} {json : Json} (lexes : Lexes (json.prettyAt level).toList json) :
    Reads level json := by
  intro stack expect rest allows closes
  refine run_step (lexes rest closes) ?_
  exact take_of_allowsValue allows fun _ => rfl

theorem reads_string (level : Nat) (text : String) : Reads level (.string text) := by
  intro stack expect rest allows _
  rw [prettyAt, compact]
  exact run_quote (take_of_allowsValue allows fun _ => rfl) rest

/-! ## Contents of arrays and objects -/

/-- What stands between two items or members. -/
def separator (level : Nat) : String := "," ++ newLine level

theorem closes_separator (level : Nat) (rest : List Char) :
    Closes ((separator level).toList ++ rest) := by
  rw [separator, String.toList_append]
  intro c isHead
  cases isHead
  decide

theorem closes_newLine (level : Nat) (rest : List Char) :
    Closes ((newLine level).toList ++ rest) := by
  rw [toList_newLine]
  intro c isHead
  cases isHead
  decide

/-- How arrays or objects are taken in: their frames, what one part of their contents adds to a
frame, the text of a part, and where a part may stand. -/
structure Container (State Part : Type) where
  frame : State → Frame
  initial : State
  add : State → Part → State
  text : Nat → Part → String
  /-- What is expected behind the opening mark, and behind a comma. -/
  entry : Expect
  next : Expect
  opening : Mark
  closing : Mark

variable {State Part : Type} {container : Container State Part}

/-- The machine goes through arrays or objects as the container says. -/
structure Container.IsSound (container : Container State Part) : Prop where
  opens : ∀ stack expect, expect.AllowsValue →
    take ⟨stack, expect, none⟩ (.mark container.opening) =
      some ⟨container.frame container.initial :: stack, container.entry, none⟩
  comma : ∀ state stack, take ⟨container.frame state :: stack, .commaOrEnd, none⟩ (.mark .comma) =
    some ⟨container.frame state :: stack, container.next, none⟩
  ends : ∀ state stack expect, expect = container.entry ∨ expect = .commaOrEnd →
    take ⟨container.frame state :: stack, expect, none⟩ (.mark container.closing) =
      some (put (close (container.frame state)) stack)

/-- The text of a part is taken in as the part. -/
def Container.Adds (container : Container State Part) (level : Nat) (part : Part) : Prop :=
  ∀ (state : State) (stack : List Frame) (expect : Expect) (rest : List Char),
    expect = container.entry ∨ expect = container.next → Closes rest →
      run ⟨container.frame state :: stack, expect, none⟩
          ((container.text level part).toList ++ rest) =
        run ⟨container.frame (container.add state part) :: stack, .commaOrEnd, none⟩ rest

theorem Container.IsSound.run_separator (sound : container.IsSound) (state : State)
    (stack : List Frame) (level : Nat) (rest : List Char) :
    run ⟨container.frame state :: stack, .commaOrEnd, none⟩ ((separator level).toList ++ rest) =
      run ⟨container.frame state :: stack, container.next, none⟩ rest := by
  rw [separator, String.toList_append, List.append_assoc]
  exact (run_mark rfl (sound.comma state stack) _).trans (run_newLine level _ rest)

/-- Parts behind one another, each on a line of its own. -/
theorem Container.IsSound.run_parts (sound : container.IsSound) {level : Nat} {first : Part}
    {parts : List Part} (adds : ∀ part ∈ first :: parts, container.Adds level part)
    (state : State) (stack : List Frame) {expect : Expect}
    (allows : expect = container.entry ∨ expect = container.next) {rest : List Char}
    (closes : Closes rest) :
    run ⟨container.frame state :: stack, expect, none⟩
        ((String.intercalate (separator level)
          ((first :: parts).map (container.text level))).toList ++ rest) =
      run ⟨container.frame ((first :: parts).foldl container.add state) :: stack, .commaOrEnd, none⟩
        rest := by
  induction parts generalizing first state expect with
  | nil =>
      rw [String.toList_intercalate, List.map_singleton, List.map_singleton,
        List.intercalate_singleton]
      exact adds first List.mem_cons_self state stack expect rest allows closes
  | cons second parts inductionHypothesis =>
      obtain ⟨addsFirst, addsRest⟩ := List.forall_mem_cons.1 adds
      have behind := inductionHypothesis addsRest (container.add state first) (.inr rfl)
      rw [String.toList_intercalate] at behind ⊢
      simp only [List.map_cons] at behind ⊢
      rw [List.intercalate_cons_cons, List.append_assoc, List.append_assoc,
        addsFirst state stack expect _ allows (closes_separator level _), sound.run_separator]
      exact behind

theorem toList_bracketed (left right : Char) (level : Nat) {parts : List String}
    (nonempty : parts ≠ []) (rest : List Char) :
    (bracketed (String.singleton left) (String.singleton right) level parts).toList ++ rest =
      left :: ((newLine (level + 1)).toList ++
        ((String.intercalate (separator (level + 1)) parts).toList ++
          ((newLine level).toList ++ right :: rest))) := by
  have notEmpty : ¬ parts.isEmpty = true := by simpa using nonempty
  rw [bracketed, if_neg notEmpty]
  simp [separator]

/-- An array or object is taken in when its parts are. -/
theorem Container.IsSound.run_bracketed (sound : container.IsSound) {level : Nat}
    {left right : Char} (isLeft : mark? left = some container.opening)
    (isRight : mark? right = some container.closing)
    {parts : List Part} (adds : ∀ part ∈ parts, container.Adds (level + 1) part)
    (stack : List Frame) {expect : Expect} (allows : expect.AllowsValue) (rest : List Char) :
    run ⟨stack, expect, none⟩
        ((bracketed (String.singleton left) (String.singleton right) level
          (parts.map (container.text (level + 1)))).toList ++ rest) =
      run (put (close (container.frame (parts.foldl container.add container.initial))) stack)
        rest := by
  have opens := sound.opens stack expect allows
  cases parts with
  | nil =>
      have brackets : (bracketed (String.singleton left) (String.singleton right) level
          []).toList ++ rest = left :: right :: rest := by
        simp [bracketed]
      rw [List.map_nil, brackets, run_mark isLeft opens,
        run_mark isRight (sound.ends container.initial stack container.entry (.inl rfl))]
      rfl
  | cons first parts =>
      rw [toList_bracketed left right level (by simp) rest, run_mark isLeft opens, run_newLine,
        sound.run_parts adds container.initial stack (.inl rfl) (closes_newLine level _),
        run_newLine]
      exact run_mark isRight (sound.ends _ stack .commaOrEnd (.inr rfl)) rest

/-! ## Arrays and objects -/

def arrays : Container (List Json) Json where
  frame := .array
  initial := []
  add items item := item :: items
  text level item := item.prettyAt level
  entry := .itemOrEnd
  next := .value
  opening := .beginArray
  closing := .endArray

def objects : Container (List (String × Json) × String) (String × Json) where
  frame state := .object state.1 state.2 true
  initial := ([], "")
  add state member := (member :: state.1, member.1)
  text level member := quote member.1 ++ ": " ++ member.2.prettyAt level
  entry := .nameOrEnd
  next := .name
  opening := .beginObject
  closing := .endObject

theorem isSound_arrays : arrays.IsSound where
  opens stack expect allows := take_of_allowsValue allows fun _ => rfl
  comma _ _ := rfl
  ends state stack expect allows := by
    rcases allows with rfl | rfl <;> rfl

theorem isSound_objects : objects.IsSound where
  opens stack expect allows := take_of_allowsValue allows fun _ => rfl
  comma _ _ := rfl
  ends state stack expect allows := by
    rcases allows with rfl | rfl <;> rfl

theorem adds_item {level : Nat} {item : Json} (reads : Reads level item) :
    arrays.Adds level item := by
  intro items stack expect rest allows closes
  exact reads _ _ _ allows.symm closes

theorem adds_member {level : Nat} {member : String × Json} (reads : Reads level member.2) :
    objects.Adds level member := by
  obtain ⟨name, value⟩ := member
  intro state stack expect rest allows closes
  have named : take ⟨objects.frame state :: stack, expect, none⟩ (.string (some name)) =
      some ⟨.object state.1 name true :: stack, .colon, none⟩ := by
    rcases allows with rfl | rfl <;> rfl
  have colon (text : List Char) : run ⟨.object state.1 name true :: stack, .colon, none⟩
      (": ".toList ++ text) = run ⟨.object state.1 name true :: stack, .value, none⟩ text :=
    (run_mark rfl rfl _).trans (@run_blanks [' '] (by decide) _ text)
  show run _ ((quote name ++ ": " ++ value.prettyAt level).toList ++ rest) = _
  rw [String.toList_append, String.toList_append, List.append_assoc, List.append_assoc,
    run_quote named, colon]
  exact reads _ _ _ (.inl rfl) closes

theorem foldl_add_arrays (items done : List Json) :
    items.foldl arrays.add done = items.reverse ++ done := by
  induction items generalizing done with
  | nil => rfl
  | cons item items inductionHypothesis =>
      rw [List.foldl_cons, inductionHypothesis, List.reverse_cons, List.append_assoc]
      rfl

theorem foldl_add_objects (members : List (String × Json)) (state : List (String × Json) × String) :
    (members.foldl objects.add state).1 = members.reverse ++ state.1 := by
  induction members generalizing state with
  | nil => rfl
  | cons member members inductionHypothesis =>
      rw [List.foldl_cons, inductionHypothesis, List.reverse_cons, List.append_assoc]
      rfl

theorem prettyItems_eq_map (level : Nat) (items : List Json) :
    prettyItems level items = items.map (arrays.text level) := by
  induction items with
  | nil => rw [prettyItems, List.map_nil]
  | cons item items inductionHypothesis =>
      rw [prettyItems, inductionHypothesis, List.map_cons]
      rfl

theorem prettyMembers_eq_map (level : Nat) (members : List (String × Json)) :
    prettyMembers level members = members.map (objects.text level) := by
  induction members with
  | nil => rw [prettyMembers, List.map_nil]
  | cons member members inductionHypothesis =>
      rw [prettyMembers, inductionHypothesis, List.map_cons]
      rfl

theorem reads_array {level : Nat} {items : List Json}
    (reads : ∀ item ∈ items, Reads (level + 1) item) : Reads level (.array items) := by
  intro stack expect rest allows _
  have whole : close (arrays.frame (items.foldl arrays.add arrays.initial)) = .array items := by
    show close (.array (items.foldl arrays.add [])) = _
    rw [foldl_add_arrays, close, List.append_nil, List.reverse_reverse]
  have brackets : "[" = String.singleton '[' ∧ "]" = String.singleton ']' := by decide
  rw [prettyAt, prettyItems_eq_map, brackets.1, brackets.2, isSound_arrays.run_bracketed rfl rfl
    (fun item member => adds_item (reads item member)) stack allows rest, whole]

/-- An object is read from its text, if the values of its members are. -/
theorem reads_object {level : Nat} {members : List (String × Json)}
    (reads : ∀ member ∈ members, Reads (level + 1) member.2) : Reads level (.object members) := by
  intro stack expect rest allows _
  have whole : close (objects.frame (members.foldl objects.add objects.initial)) =
      .object members := by
    show Json.object (members.foldl objects.add ([], "")).1.reverse = _
    rw [foldl_add_objects, List.append_nil, List.reverse_reverse]
  have brackets : "\x7b" = String.singleton '\x7b' ∧ "\x7d" = String.singleton '\x7d' := by decide
  rw [prettyAt, prettyMembers_eq_map, brackets.1, brackets.2, isSound_objects.run_bracketed rfl rfl
    (fun member inMembers => adds_member (reads member inMembers)) stack allows rest, whole]

end Reader

/-! ## Whole texts -/

/-- Readable values are read from their texts at every level of nesting. -/
theorem Readable.reads {json : Json} (readable : json.Readable) (level : Nat) :
    Reader.Reads level json := by
  induction readable generalizing level with
  | null => exact Reader.reads_scalar (by rw [prettyAt, compact]; exact lexes_null)
  | bool value => exact Reader.reads_scalar (by rw [prettyAt, compact]; exact lexes_bool value)
  | int lower upper =>
      exact Reader.reads_scalar (by rw [prettyAt, compact]; exact lexes_decimalInt lower upper)
  | float keeps =>
      exact Reader.reads_scalar (by rw [prettyAt, compact]; exact lexes_floatText keeps)
  | string text => exact Reader.reads_string level text
  | array _ inductionHypothesis =>
      exact Reader.reads_array fun item member => inductionHypothesis item member (level + 1)
  | object _ inductionHypothesis =>
      exact Reader.reads_object fun member inMembers =>
        inductionHypothesis member inMembers (level + 1)

theorem read_of_run {text : String} {value : Json}
    (reached : Reader.start.run text.toList = (Reader.put value [], true)) :
    read text = .ok value := by
  obtain ⟨reader, complete⟩ := Prod.mk.inj reached
  rw [read]
  simp only [reader, complete]
  rfl

/-- The indented text of a value is read as the value. -/
theorem Readable.read_pretty {json : Json} (readable : json.Readable) :
    read json.pretty = .ok json := by
  have whole := readable.reads 0 [] .value [] (.inl rfl) (by simp [Closes])
  rw [List.append_nil] at whole
  apply read_of_run
  refine whole.trans ?_
  rw [Reader.run, lexemes]
  rfl

end RecordTags.Json
