import RecordTags.Proofs.Field.Assignment
import RecordTags.Proofs.Json.Structure
import RecordTags.Proofs.Number.Finite
import RecordTags.Proofs.Tree.Positions
import RecordTags.Tree.Json

/-!
Contract: a tree is decoded from its encoding.

Owns:
- for each part of a tree, that its encoding is decoded as the part and, if the
  doubles in it are kept, read from a text;
- `Tree.Encodable`, the trees that have an encoding: their offsets fit 64 bits
  and their doubles are finite. The trees of tags are such trees;
- that decoding gives back every such tree, and for the tree of a tag also from
  the text of its encoding.

Trees that no tag has are not excluded: nested and empty slices, switches
without a name, numbers with any of the three readings, and spans out of order.
-/

namespace RecordTags

open RecordTags.Text
open RecordTags.Json

/-! ## Spans, names and literals -/

def Span.FitsWord (span : Span) : Prop := span.start < Nat.pow 2 64 ∧ span.stop < Nat.pow 2 64
deriving Decidable

theorem Span.decode_toJson {span : Span} (fits : span.FitsWord) :
    Span.decode span.toJson = .ok span := by
  rw [toJson, decode, decodeStructure]
  refine (decodeMembers_known (by rfl) (by rfl) (decodeNat_nat fits.1)).trans ?_
  refine (decodeMembers_known (by rfl) (by rfl) (decodeNat_nat fits.2)).trans ?_
  exact decodeMembers_nil (by rfl)

theorem Identifier.decode_toJson {identifier : Identifier} (fits : identifier.span.FitsWord) :
    decode identifier.toJson = .ok identifier := by
  rw [toJson, decode, decodeStructure]
  refine (decodeMembers_known (by rfl) (by rfl) (decodeString_string _)).trans ?_
  refine (decodeMembers_known (by rfl) (by rfl) (Span.decode_toJson fits)).trans ?_
  exact decodeMembers_nil (by rfl)

/-- Behind its kind, the members of a number with any of the readings. -/
theorem NumberLiteral.decode_toJson {literal : NumberLiteral} (fits : literal.span.FitsWord) :
    decode (Value.number literal).toJson = .ok literal := by
  rw [Value.toJson, decode, decodeStructure]
  simp only [List.append_assoc]
  refine (decodeMembers_unknown (by rfl)).trans ?_
  refine (decodeMembers_known (by rfl) (by rfl) (decodeString_string _)).trans ?_
  -- which names have occurred depends on the readings that are there
  refine (decodeMembers_member? (by rfl) (by rfl) (by rfl) fun int _ =>
    decodeOption_of_ok (decodeInt64_int int) (by rintro ⟨⟩)).trans ?_
  refine (decodeMembers_member? (by rfl) (by cases literal.int <;> rfl) (by rfl) fun uint _ =>
    decodeOption_of_ok (decodeUInt64_nat uint) (by rintro ⟨⟩)).trans ?_
  refine (decodeMembers_member? (by rfl) (by cases literal.int <;> cases literal.uint <;> rfl)
    (by rfl) fun float _ => decodeOption_of_ok (decodeFloat_float float) (by rintro ⟨⟩)).trans ?_
  refine (decodeMembers_known (by rfl)
    (by cases literal.int <;> cases literal.uint <;> cases literal.float <;> rfl)
    (Span.decode_toJson fits)).trans ?_
  exact decodeMembers_nil
    (by cases literal.int <;> cases literal.uint <;> cases literal.float <;> rfl)

theorem QuotedString.decode_toJson {literal : QuotedString} (fits : literal.span.FitsWord) :
    decode (Value.string literal).toJson = .ok literal := by
  rw [Value.toJson, decode, decodeStructure]
  refine (decodeMembers_unknown (by rfl)).trans ?_
  refine (decodeMembers_known (by rfl) (by rfl) (decodeString_string _)).trans ?_
  refine (decodeMembers_known (by rfl) (by rfl) (decodeString_string _)).trans ?_
  refine (decodeMembers_known (by rfl) (by rfl) (Span.decode_toJson fits)).trans ?_
  exact decodeMembers_nil (by rfl)

/-! ## Values -/

theorem ValueKind.ofName?_name (kind : ValueKind) : ofName? kind.name = some kind := by
  cases kind <;> rfl

namespace Value

/-- The kind of a value is found in front of its other members. -/
theorem decodeAt_object (place : Place) (kind : ValueKind) (members : List (String × Json)) :
    decodeAt place (.object (kindMember kind :: members)) =
      ofKind kind (.object (kindMember kind :: members))
        (decodeElements (kindMember kind :: members)) := by
  have stated : (List.lookup "kind" (kindMember kind :: members)).bind
      (ValueKind.decode? place) = some kind := kind.ofName?_name
  rw [decodeAt, stated]

theorem decodeValues_valuesToJson {values : List Value}
    (decodes : ∀ value ∈ values, decodeAt .element value.toJson = .ok value) :
    decodeValues (valuesToJson values) = .ok values := by
  induction values with
  | nil => rw [valuesToJson, decodeValues]
  | cons value values inductionHypothesis =>
      obtain ⟨decodesFirst, decodesRest⟩ := List.forall_mem_cons.1 decodes
      rw [valuesToJson, decodeValues, decodesFirst]
      simp only [inductionHypothesis decodesRest]
      rfl

theorem decodeAt_toJson_nil {span : Span} (fits : span.FitsWord) (place : Place) :
    decodeAt place (nil span).toJson = .ok (nil span) := by
  have parts : decodeStructure [Parts.atSpan] Parts.initial (nil span).toJson =
      .ok { Parts.initial with span } := by
    rw [toJson, decodeStructure]
    refine (decodeMembers_unknown (by rfl)).trans ?_
    refine (decodeMembers_known (by rfl) (by rfl) (Span.decode_toJson fits)).trans ?_
    exact decodeMembers_nil (by rfl)
  rw [toJson] at parts ⊢
  rw [decodeAt_object, ofKind]
  exact map_of_eq_ok parts _

theorem decodeAt_toJson_bool {span : Span} (fits : span.FitsWord) (value : Bool) (place : Place) :
    decodeAt place (bool value span).toJson = .ok (bool value span) := by
  have parts : decodeStructure [Parts.boolMember "value", Parts.atSpan] Parts.initial
      (bool value span).toJson = .ok { Parts.initial with value, span } := by
    rw [toJson, decodeStructure]
    refine (decodeMembers_unknown (by rfl)).trans ?_
    refine (decodeMembers_known (by rfl) (by rfl) (decodeBool_bool value)).trans ?_
    refine (decodeMembers_known (by rfl) (by rfl) (Span.decode_toJson fits)).trans ?_
    exact decodeMembers_nil (by rfl)
  rw [toJson] at parts ⊢
  rw [decodeAt_object, ofKind]
  exact map_of_eq_ok parts _

theorem decodeAt_toJson_number {literal : NumberLiteral} (fits : literal.span.FitsWord)
    (place : Place) : decodeAt place (number literal).toJson = .ok (number literal) := by
  have decodes := NumberLiteral.decode_toJson fits
  rw [toJson] at decodes ⊢
  refine (decodeAt_object place .number _).trans ?_
  rw [ofKind]
  exact map_of_eq_ok decodes _

theorem decodeAt_toJson_string {literal : QuotedString} (fits : literal.span.FitsWord)
    (place : Place) : decodeAt place (string literal).toJson = .ok (string literal) := by
  have decodes := QuotedString.decode_toJson fits
  rw [toJson] at decodes ⊢
  rw [decodeAt_object, ofKind]
  exact map_of_eq_ok decodes _

theorem decodeAt_toJson_identifier {name : Identifier} (fits : name.span.FitsWord)
    (place : Place) : decodeAt place (identifier name).toJson = .ok (identifier name) := by
  have decodes : Identifier.decode (identifier name).toJson = .ok name := by
    have unnamed := Identifier.decode_toJson fits
    rw [Identifier.toJson, Identifier.decode, decodeStructure] at unnamed
    rw [toJson, Identifier.decode, decodeStructure]
    exact (decodeMembers_unknown (by rfl)).trans unnamed
  rw [toJson] at decodes ⊢
  rw [decodeAt_object, ofKind]
  exact map_of_eq_ok decodes _

/-- A slice is decoded from its encoding, if its elements are. -/
theorem decodeAt_toJson_slice {values : List Value} {span : Span} (fits : span.FitsWord)
    (decodes : ∀ value ∈ values, decodeAt .element value.toJson = .ok value) (place : Place) :
    decodeAt place (slice values span).toJson = .ok (slice values span) := by
  have elements : decodeElements [kindMember .slice, ("values", .array (valuesToJson values)),
      ("span", span.toJson)] = .ok values := by
    rw [kindMember, decodeElements, decodeElements, decodeValues_valuesToJson decodes]
    · rfl
    · rintro _ ⟨⟩
  have parts : decodeStructure [Parts.valuesMember (.ok values), Parts.atSpan] Parts.initial
      (slice values span).toJson = .ok { Parts.initial with values, span } := by
    rw [toJson, decodeStructure]
    refine (decodeMembers_unknown (by rfl)).trans ?_
    -- the member stores elements that are there already, and decodes nothing itself
    refine (decodeMembers_stored (by rfl) (by rfl) (by rfl)).trans ?_
    refine (decodeMembers_known (by rfl) (by rfl) (Span.decode_toJson fits)).trans ?_
    exact decodeMembers_nil (by rfl)
  rw [toJson] at parts ⊢
  rw [decodeAt_object, elements, ofKind]
  exact map_of_eq_ok parts _

theorem decodeAt_toJson_switch {name : Identifier} {span : Span} (fits : span.FitsWord)
    (fitsName : name.span.FitsWord) (enabled : Bool) (place : Place) :
    decodeAt place (switch name enabled span).toJson = .ok (switch name enabled span) := by
  have parts : decodeStructure [Parts.nameMember, Parts.boolMember "enabled", Parts.atSpan]
      Parts.initial (switch name enabled span).toJson =
        .ok { Parts.initial with value := enabled, name, span } := by
    rw [toJson, decodeStructure]
    refine (decodeMembers_unknown (by rfl)).trans ?_
    refine (decodeMembers_known (by rfl) (by rfl) (Identifier.decode_toJson fitsName)).trans ?_
    refine (decodeMembers_known (by rfl) (by rfl) (decodeBool_bool enabled)).trans ?_
    refine (decodeMembers_known (by rfl) (by rfl) (Span.decode_toJson fits)).trans ?_
    exact decodeMembers_nil (by rfl)
  rw [toJson] at parts ⊢
  rw [decodeAt_object, ofKind]
  exact map_of_eq_ok parts _

end Value

/-! ## Trees -/

section

variable {tree : Tree} (fits : ∀ node, tree.HasNode node → node.span.FitsWord)

include fits

/-- Every value of an encodable tree is decoded from its encoding, wherever it stands. -/
theorem Value.decodeAt_toJson {value : Value} (hasValue : tree.HasNode (.value value))
    (place : Place) : decodeAt place value.toJson = .ok value := by
  induction value using Value.induct generalizing place with
  | nil span => exact decodeAt_toJson_nil (fits _ hasValue) place
  | scalar value scalar =>
      cases value with
      | nil | slice => exact scalar.elim
      | bool value span => exact decodeAt_toJson_bool (fits _ hasValue) value place
      | number literal => exact decodeAt_toJson_number (fits _ hasValue) place
      | string literal => exact decodeAt_toJson_string (fits _ hasValue) place
      | identifier name => exact decodeAt_toJson_identifier (fits _ hasValue) place
      | switch name enabled span =>
          exact decodeAt_toJson_switch (fits _ hasValue) (fits _ hasValue.ofSwitch) enabled place
  | slice values span inductionHypothesis =>
      refine decodeAt_toJson_slice (fits _ hasValue) (fun value member => ?_) place
      exact inductionHypothesis value member (hasValue.ofElement member) .element

/-- Every argument of an encodable tree is decoded from its encoding. -/
theorem Argument.decode_toJson {argument : Argument} (member : argument ∈ tree.args) :
    decode argument.toJson = .ok argument := by
  have hasArgument := Tree.HasNode.argument member
  have decodesName (identifier : Identifier) (isName : identifier ∈ argument.name) :
      Identifier.decode identifier.toJson = .ok identifier :=
    Identifier.decode_toJson (fits _ (hasArgument.ofName isName))
  rw [toJson, decode, decodeStructure]
  refine (decodeMembers_member? (by rfl) (by rfl) (by rfl) fun identifier isName =>
    decodeOption_of_ok (decodesName identifier isName) (by rintro ⟨⟩)).trans ?_
  refine (decodeMembers_known (by rfl) (by cases argument.name <;> rfl)
    (Value.decodeAt_toJson fits hasArgument.ofValue .argument)).trans ?_
  refine (decodeMembers_known (by rfl) (by cases argument.name <;> rfl)
    (Span.decode_toJson (fits _ hasArgument))).trans ?_
  exact decodeMembers_nil (by cases argument.name <;> rfl)

theorem Tree.decode_toJson (fitsWhole : tree.span.FitsWord) : decode tree.toJson = .ok tree := by
  rw [toJson, decode, decodeStructure]
  refine (decodeMembers_known (by rfl) (by rfl)
    (decodeList_ofList fun argument member => Argument.decode_toJson fits member)).trans ?_
  refine (decodeMembers_known (by rfl) (by rfl) (Span.decode_toJson fitsWhole)).trans ?_
  exact decodeMembers_nil (by rfl)

end

/-! ## Texts -/

theorem Span.readable_toJson {span : Span} (fits : span.FitsWord) : span.toJson.Readable :=
  .object (allReadable_cons (readable_nat fits.1)
    (allReadable_cons (readable_nat fits.2) allReadable_nil))

/-- The last member of every part of a tree. -/
theorem Span.allReadable_singleton {span : Span} (fits : span.FitsWord) :
    AllReadable [("span", span.toJson)] :=
  allReadable_cons (readable_toJson fits) allReadable_nil

theorem Identifier.readable_toJson {identifier : Identifier} (fits : identifier.span.FitsWord) :
    identifier.toJson.Readable :=
  .object (allReadable_cons (.string _) (Span.allReadable_singleton fits))

theorem valuesToJson_eq_map (values : List Value) :
    valuesToJson values = values.map Value.toJson := by
  induction values with
  | nil => rw [valuesToJson, List.map_nil]
  | cons value values inductionHypothesis =>
      rw [valuesToJson, inductionHypothesis, List.map_cons]

/-- The double that a number is read as. -/
def Node.double? : Node → Option Binary64
  | value (.number literal) => literal.float
  | _ => none

/-- One of the numbers of the tree is read as the double. -/
def Tree.HasDouble (tree : Tree) (x : Binary64) : Prop :=
  ∃ node, tree.HasNode node ∧ node.double? = some x

instance (tree : Tree) (p : Binary64 → Prop) [DecidablePred p] :
    Decidable (∀ x, tree.HasDouble x → p x) :=
  decidable_of_iff (∀ node, tree.HasNode node → ∀ x ∈ node.double?, p x)
    ⟨fun holds x ⟨node, hasNode, isDouble⟩ => holds node hasNode x isDouble,
      fun holds node hasNode x isDouble => holds x ⟨node, hasNode, isDouble⟩⟩

section

variable {tree : Tree} (fits : ∀ node, tree.HasNode node → node.span.FitsWord)
  (keeps : ∀ x, tree.HasDouble x → KeepsDouble x)

include fits keeps

/-- The encoding of a value is readable. -/
theorem Value.readable_toJson {value : Value} (hasValue : tree.HasNode (.value value)) :
    value.toJson.Readable := by
  have atSpan := Span.allReadable_singleton (fits _ hasValue)
  induction value using Value.induct with
  | nil span =>
      rw [toJson]
      exact .object (allReadable_cons (.string _) atSpan)
  | scalar value scalar =>
      cases value with
      | nil | slice => exact scalar.elim
      | bool value span =>
          rw [toJson]
          exact .object (allReadable_cons (.string _) (allReadable_cons (.bool value) atSpan))
      | number literal =>
          have readableFloat (x : Binary64) (isFloat : x ∈ literal.float) :
              (Json.float x).Readable :=
            .float (keeps x ⟨_, hasValue, isFloat⟩)
          rw [toJson]
          simp only [List.append_assoc]
          refine .object (allReadable_cons (.string _) (allReadable_cons (.string _) ?_))
          refine allReadable_member? (fun int _ => readable_int64 int) ?_
          refine allReadable_member? (fun uint _ => readable_nat uint.toNat_lt) ?_
          exact allReadable_member? readableFloat atSpan
      | string literal =>
          rw [toJson]
          exact .object (allReadable_cons (.string _)
            (allReadable_cons (.string _) (allReadable_cons (.string _) atSpan)))
      | identifier name =>
          rw [toJson]
          exact .object (allReadable_cons (.string _) (allReadable_cons (.string _) atSpan))
      | switch name enabled span =>
          have named := Identifier.readable_toJson (fits _ hasValue.ofSwitch)
          rw [toJson]
          exact .object (allReadable_cons (.string _)
            (allReadable_cons named (allReadable_cons (.bool enabled) atSpan)))
  | slice values span inductionHypothesis =>
      have elements : (Json.array (valuesToJson values)).Readable := by
        refine .array ?_
        rw [valuesToJson_eq_map]
        refine List.forall_mem_map.2 fun value member => ?_
        have hasElement := hasValue.ofElement member
        exact inductionHypothesis value member hasElement
          (Span.allReadable_singleton (fits _ hasElement))
      rw [toJson]
      exact .object (allReadable_cons (.string _) (allReadable_cons elements atSpan))

theorem Argument.readable_toJson {argument : Argument} (member : argument ∈ tree.args) :
    argument.toJson.Readable := by
  have hasArgument := Tree.HasNode.argument member
  have readableValue := Value.readable_toJson fits keeps hasArgument.ofValue
  refine .object (allReadable_member? (fun identifier isName => ?_)
    (allReadable_cons readableValue (Span.allReadable_singleton (fits _ hasArgument))))
  exact Identifier.readable_toJson (fits _ (hasArgument.ofName isName))

theorem Tree.readable_toJson (fitsWhole : tree.span.FitsWord) : tree.toJson.Readable :=
  .object (allReadable_cons
    (.array (List.forall_mem_map.2 fun _ member => Argument.readable_toJson fits keeps member))
    (Span.allReadable_singleton fitsWhole))

end

/-! ## Trees with an encoding -/

namespace Tree

/-- Offsets fit 64 bits and doubles are finite. -/
structure Encodable (tree : Tree) : Prop where
  whole : tree.span.FitsWord
  parts : ∀ node, tree.HasNode node → node.span.FitsWord
  finite : ∀ x, tree.HasDouble x → x.isFinite = true

instance (tree : Tree) : Decidable tree.Encodable :=
  decidable_of_iff (tree.span.FitsWord ∧ (∀ node, tree.HasNode node → node.span.FitsWord) ∧
      ∀ x, tree.HasDouble x → x.isFinite = true)
    ⟨fun ⟨whole, parts, finite⟩ => ⟨whole, parts, finite⟩,
      fun ⟨whole, parts, finite⟩ => ⟨whole, parts, finite⟩⟩

/-- The doubles of a tree that has been read are finite. -/
theorem isFinite_of_parse {text : String} {tree : Tree} (parsed : parse text = .ok tree)
    {x : Binary64} (hasDouble : tree.HasDouble x) : x.isFinite = true := by
  obtain ⟨node, hasNode, isDouble⟩ := hasDouble
  obtain ⟨before, after, -, stands⟩ := locatedIn_of_parse parsed hasNode
  unfold Node.double? at isDouble
  split at isDouble
  next literal =>
    cases stands with
    | simple simple =>
        have valid : literal.IsValid := simple.1
        exact Readings.isFinite_of_ofText valid.2 isDouble
  next => contradiction

/-- The tree of a tag has an encoding. -/
theorem encodable_of_parse {text : String} {tree : Tree} (parsed : parse text = .ok tree)
    (short : byteLength text.toList < Nat.pow 2 64) : tree.Encodable where
  whole := by
    obtain ⟨args, -, rfl⟩ := exists_of_map_eq_ok parsed
    exact ⟨Nat.pow_pos (Nat.succ_pos 1), short⟩
  parts := fun node hasNode => by
    have within := Span.within_of_source? (locatedIn_of_parse parsed hasNode).source
    have stops := within.bounded.trans_lt short
    exact ⟨within.ordered.trans_lt stops, stops⟩
  finite := fun x hasDouble => isFinite_of_parse parsed hasDouble

/-- A tree is decoded from its encoding. The encoding of the tree of a tag is
also read from the text of it, if the finite doubles among its numbers are. -/
theorem encoding_faithful :
    (∀ tree : Tree, tree.Encodable → decode tree.toJson = .ok tree) ∧
      ∀ (text : String) (tree : Tree), parse text = .ok tree →
        byteLength text.toList < Nat.pow 2 64 →
          tree.Encodable ∧
            ((∀ x, tree.HasDouble x → x.isFinite = true → KeepsDouble x) →
              ∃ json, read tree.toJson.pretty = .ok json ∧ decode json = .ok tree) := by
  refine ⟨fun tree encodable => decode_toJson encodable.parts encodable.whole, ?_⟩
  intro text tree parsed short
  have encodable := encodable_of_parse parsed short
  refine ⟨encodable, fun keepsFinite => ⟨tree.toJson, ?_, ?_⟩⟩
  · have keeps (x : Binary64) (hasDouble : tree.HasDouble x) : KeepsDouble x :=
      keepsFinite x hasDouble (encodable.finite x hasDouble)
    exact (readable_toJson encodable.parts keeps encodable.whole).read_pretty
  · exact decode_toJson encodable.parts encodable.whole

/-- An empty slice inside another, a number with two of the readings and none
that fits the text, a switch without a name, and spans out of order. -/
def irregular : Tree :=
  let half : NumberLiteral :=
    { int := none, uint := some 7, float := some (.ofRatio true 1 2), text := "x", span := ⟨5, 5⟩ }
  { args := [
      ⟨none, .slice [.slice [] ⟨9, 2⟩, .number half] ⟨4, 1⟩, ⟨3, 0⟩⟩,
      ⟨none, .switch ⟨"", ⟨1, 0⟩⟩ false ⟨6, 6⟩, ⟨0, 2⟩⟩]
    span := ⟨8, 7⟩ }

theorem encoding_faithful_irregular :
    irregular.Encodable ∧ decode irregular.toJson = .ok irregular ∧
      ∃ tree, parse "x=-0.5;'é';3,~on" = .ok tree ∧
        ∃ json, read tree.toJson.pretty = .ok json ∧ decode json = .ok tree := by
  have encodable : irregular.Encodable := by decide +kernel
  refine ⟨encodable, encoding_faithful.1 irregular encodable, ?_⟩
  have computed : (parse "x=-0.5;'é';3,~on").toOption.map (fun tree =>
      decide (∀ x, tree.HasDouble x → KeepsDouble x)) = some true := by
    decide +kernel
  cases parsed : parse "x=-0.5;'é';3,~on" with
  | error error =>
      rw [parsed] at computed
      contradiction
  | ok tree =>
      rw [parsed] at computed
      have keeps : ∀ x, tree.HasDouble x → KeepsDouble x :=
        of_decide_eq_true (Option.some.inj computed)
      have faithful := (encoding_faithful.2 _ tree parsed (by decide +kernel)).2
      exact ⟨tree, rfl, faithful fun x hasDouble _ => keeps x hasDouble⟩

end Tree

end RecordTags
