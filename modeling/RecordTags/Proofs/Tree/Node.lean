import RecordTags.Proofs.Text.Source
import RecordTags.Proofs.Tree.Lossless

/-!
Contract: the nodes of a tree and where they stand in a text.

Owns:
- `Node`, the parts of a tree that have a span: arguments, names and values,
  with the parts inside each, and the list of all of them, so that what holds
  of every node can be checked;
- `StandsAt`, by cases on the kind of node: every span of the node is the one
  that its text and the text in front of it determine;
- that the text of a node that stands at a byte has the texts of its children
  in it, where the children stand.

Does not own: that the nodes of a parsed tree stand where they say; that is
`RecordTags.Proofs.Tree.Positions`.
-/

namespace RecordTags

open RecordTags.Text

/-! ## Nodes -/

/-- A part of a tree with a span of its own. -/
inductive Node where
  | argument (argument : Argument)
  | name (identifier : Identifier)
  | value (value : Value)

namespace Node

def span : Node → Span
  | argument part => part.span
  | name part => part.span
  | value part => part.span

def chars : Node → List Char
  | argument part => part.chars
  | name part => part.name.toList
  | value part => part.chars

def render : Node → String
  | argument part => part.render
  | name part => part.name
  | value part => part.render

theorem toList_render (node : Node) : node.render.toList = node.chars := by
  cases node with
  | argument | value => exact String.toList_ofList
  | name => rfl

/-- The name and the value of an argument, the elements of a slice, the name of a switch. -/
def children : Node → List Node
  | argument part => part.name.toList.map name ++ [value part.value]
  | value (.slice values _) => values.map value
  | value (.switch identifier _ _) => [name identifier]
  | name _ | value _ => []

end Node

/-- The nodes of a tree are its arguments and what is inside them. -/
inductive Tree.HasNode (tree : Tree) : Node → Prop where
  | argument {argument : Argument} (member : argument ∈ tree.args) :
      HasNode tree (.argument argument)
  | child {parent child : Node} (hasParent : HasNode tree parent)
      (member : child ∈ parent.children) : HasNode tree child

/-! ## Nodes in a list -/

namespace Node

/-- A part is smaller than the whole. -/
theorem sizeOf_child_lt {node child : Node} (member : child ∈ node.children) :
    sizeOf child < sizeOf node := by
  cases node with
  | argument part =>
      obtain ⟨name?, held, span⟩ := part
      rw [argument.sizeOf_spec, Argument.mk.sizeOf_spec]
      rcases List.mem_append.1 member with isName | isValue
      · obtain ⟨identifier, isNamed, rfl⟩ := List.mem_map.1 isName
        obtain rfl := Option.mem_toList.1 isNamed
        rw [name.sizeOf_spec, Option.some.sizeOf_spec]
        omega
      · obtain rfl := List.mem_singleton.1 isValue
        simp only [value.sizeOf_spec]
        omega
  | name identifier => contradiction
  | value part =>
      cases part with
      | slice values span =>
          obtain ⟨element, isElement, rfl⟩ := List.mem_map.1 member
          have smaller := List.sizeOf_lt_of_mem isElement
          rw [value.sizeOf_spec, value.sizeOf_spec, Value.slice.sizeOf_spec]
          omega
      | switch identifier enabled span =>
          obtain rfl := List.mem_singleton.1 member
          rw [value.sizeOf_spec, name.sizeOf_spec, Value.switch.sizeOf_spec]
          omega
      | nil | bool | number | string | identifier => contradiction

def nodes (node : Node) : List Node :=
  node :: node.children.attach.flatMap fun ⟨child, _⟩ => child.nodes
termination_by sizeOf node
decreasing_by exact sizeOf_child_lt ‹_›

theorem nodes_eq (node : Node) : node.nodes = node :: node.children.flatMap nodes := by
  rw [nodes]
  simp [List.flatMap_subtype]

theorem mem_nodes_self (node : Node) : node ∈ node.nodes := by
  rw [nodes_eq]
  exact List.mem_cons_self

theorem mem_nodes_of_child {root parent child : Node} (inside : parent ∈ root.nodes)
    (member : child ∈ parent.children) : child ∈ root.nodes := by
  induction root using nodes.induct with
  | case1 root inductionHypothesis =>
      rw [nodes_eq, List.mem_cons, List.mem_flatMap] at inside ⊢
      rcases inside with rfl | ⟨other, isChild, inside⟩
      · exact .inr ⟨child, member, child.mem_nodes_self⟩
      · exact .inr ⟨other, isChild, inductionHypothesis other isChild inside⟩

end Node

namespace Tree

def nodes (tree : Tree) : List Node :=
  tree.args.flatMap fun argument => (Node.argument argument).nodes

namespace HasNode

variable {tree : Tree} {argument : Argument}

theorem ofMem {root node : Node} (hasRoot : tree.HasNode root) (inside : node ∈ root.nodes) :
    tree.HasNode node := by
  induction root using Node.nodes.induct with
  | case1 root inductionHypothesis =>
      rw [Node.nodes_eq, List.mem_cons, List.mem_flatMap] at inside
      rcases inside with rfl | ⟨child, isChild, inside⟩
      · exact hasRoot
      · exact inductionHypothesis child isChild (hasRoot.child isChild) inside

theorem ofName (hasArgument : tree.HasNode (.argument argument)) {identifier : Identifier}
    (isName : identifier ∈ argument.name) : tree.HasNode (.name identifier) := by
  have listed := List.mem_map_of_mem (f := Node.name) (Option.mem_toList.2 isName)
  exact hasArgument.child (List.mem_append_left _ listed)

theorem ofValue (hasArgument : tree.HasNode (.argument argument)) :
    tree.HasNode (.value argument.value) :=
  hasArgument.child (List.mem_append_right _ (List.mem_singleton_self _))

theorem ofElement {values : List Value} {span : Span}
    (hasSlice : tree.HasNode (.value (.slice values span))) {value : Value}
    (member : value ∈ values) : tree.HasNode (.value value) :=
  hasSlice.child (List.mem_map_of_mem member)

theorem ofSwitch {name : Identifier} {enabled : Bool} {span : Span}
    (hasSwitch : tree.HasNode (.value (.switch name enabled span))) :
    tree.HasNode (.name name) :=
  hasSwitch.child (List.mem_singleton_self _)

end HasNode

/-- The list of nodes holds the nodes of the tree and nothing else. -/
theorem mem_nodes_iff {tree : Tree} {node : Node} : node ∈ tree.nodes ↔ tree.HasNode node := by
  constructor
  · intro listed
    obtain ⟨argument, member, inside⟩ := List.mem_flatMap.1 listed
    exact (HasNode.argument member).ofMem inside
  · intro hasNode
    induction hasNode with
    | @argument argument member =>
        exact List.mem_flatMap.2 ⟨argument, member, Node.mem_nodes_self _⟩
    | child _ isChild inductionHypothesis =>
        obtain ⟨argument, member, inside⟩ := List.mem_flatMap.1 inductionHypothesis
        exact List.mem_flatMap.2 ⟨argument, member, Node.mem_nodes_of_child inside isChild⟩

instance (tree : Tree) (p : Node → Prop) [DecidablePred p] :
    Decidable (∀ node, tree.HasNode node → p node) :=
  decidable_of_iff (∀ node ∈ tree.nodes, p node) (by simp only [mem_nodes_iff])

end Tree

/-! ## Items in sequence -/

section

variable {α : Type} (separator : Char) (chars : α → List Char) (Stands : Nat → α → Prop)

/-- Items one behind the other, with a separator between each two. -/
def InSequence : Nat → List α → Prop
  | _, [] => True
  | start, item :: rest =>
    Stands start item ∧ InSequence (start + byteLength (chars item ++ [separator])) rest

end

section

variable {α : Type} {separator : Char} {chars : α → List Char} {Stands : Nat → α → Prop}

/-- An item behind others stands behind a separator. -/
theorem inSequence_concat {items : List α} (nonempty : items ≠ []) (start : Nat) (last : α) :
    InSequence separator chars Stands start (items ++ [last]) ↔
      InSequence separator chars Stands start items ∧
        Stands (start + byteLength (joinWith separator (items.map chars) ++ [separator])) last := by
  induction items generalizing start with
  | nil => exact absurd rfl nonempty
  | cons first rest inductionHypothesis =>
      cases rest with
      | nil => simp [InSequence, joinWith]
      | cons second rest =>
          have joined : joinWith separator ((first :: second :: rest).map chars) ++ [separator] =
              (chars first ++ [separator]) ++
                (joinWith separator ((second :: rest).map chars) ++ [separator]) := by
            rw [List.map_cons, joinWith_cons separator _ (by simp)]
            simp
          rw [List.cons_append, InSequence, InSequence, inductionHypothesis (by simp), joined,
            byteLength_append (chars first ++ [separator]), Nat.add_assoc, and_assoc]

/-- Every item stands where its text stands in the text of all. -/
theorem InSequence.exists_of_mem {start : Nat} {items : List α}
    (sequence : InSequence separator chars Stands start items) {item : α} (member : item ∈ items) :
    ∃ before after, joinWith separator (items.map chars) = before ++ chars item ++ after ∧
      Stands (start + byteLength before) item := by
  induction items generalizing start with
  | nil => contradiction
  | cons first rest inductionHypothesis =>
      obtain ⟨stands, tail⟩ := sequence
      cases rest with
      | nil =>
          obtain rfl := List.mem_singleton.1 member
          exact ⟨[], [], by simp [joinWith], stands⟩
      | cons second rest =>
          rw [List.map_cons, joinWith_cons separator _ (by simp)]
          rcases List.mem_cons.1 member with rfl | inTail
          · exact ⟨[], _, rfl, stands⟩
          · obtain ⟨before, after, joined, standsItem⟩ := inductionHypothesis tail inTail
            refine ⟨chars first ++ [separator] ++ before, after, ?_, ?_⟩
            · rw [joined]
              simp
            · rw [byteLength_append _ before, ← Nat.add_assoc]
              exact standsItem

end

/-! ## Standing at a byte -/

/-- A name that stands at a byte. -/
def Identifier.StandsAt (start : Nat) (identifier : Identifier) : Prop :=
  identifier.IsValid ∧ identifier.span = .ofText start identifier.name.toList

namespace Value

/-- A simple value that stands at a byte. -/
def SimpleAt (start : Nat) (value : Value) : Prop :=
  value.IsSimple ∧ value.span = .ofText start value.chars

/-- Simple values stand in sequence, the first at a byte. -/
def ElementsAt (start : Nat) (values : List Value) : Prop :=
  InSequence listSeparator Value.chars SimpleAt start values

inductive StandsAt (start : Nat) : Value → Prop where
  | simple {value : Value} (simple : value.SimpleAt start) : StandsAt start value
  | slice {first : Value} {others : List Value} (elements : ElementsAt start (first :: others)) :
      StandsAt start (.slice (first :: others) (.ofText start (elementsText first others)))
  | switch {name : Identifier} (enabled : Bool)
      (named : name.StandsAt (start + byteLength [switchMark enabled])) :
      StandsAt start
        (.switch name enabled (.ofText start (switchMark enabled :: name.name.toList)))

end Value

inductive Argument.StandsAt (start : Nat) : Argument → Prop where
  | switch {name : Identifier} {enabled : Bool} {span : Span}
      (switched : (Value.switch name enabled span).StandsAt start) :
      StandsAt start ⟨some name, .switch name enabled span, span⟩
  | plain {name : Option Identifier} {value : Value} (plain : value.IsPlain)
      (named : ∀ identifier ∈ name, identifier.StandsAt start)
      (stands : value.StandsAt (start + byteLength (nameText name))) :
      StandsAt start ⟨name, value, .ofText start (nameText name ++ value.chars)⟩

def Node.StandsAt (start : Nat) : Node → Prop
  | argument part => part.StandsAt start
  | name part => part.StandsAt start
  | value part => part.StandsAt start

/-! ## Spans -/

theorem Value.chars_switch (name : Identifier) (enabled : Bool) (span : Span) :
    (Value.switch name enabled span).chars = switchMark enabled :: name.name.toList := by
  rw [Value.chars]

theorem Value.chars_slice (first : Value) (others : List Value) (span : Span) :
    (Value.slice (first :: others) span).chars = elementsText first others := by
  rw [Value.chars, elementChars_eq_map, elementsText]

/-- A value that stands at a byte has the span of its text. -/
theorem Value.StandsAt.span {start : Nat} {value : Value} (stands : value.StandsAt start) :
    value.span = .ofText start value.chars := by
  cases stands with
  | simple simple => exact simple.2
  | slice elements =>
      rw [Value.chars_slice]
      rfl
  | switch enabled named =>
      rw [Value.chars_switch]
      rfl

theorem Argument.StandsAt.span {start : Nat} {argument : Argument}
    (stands : argument.StandsAt start) : argument.span = .ofText start argument.chars := by
  cases stands with
  | switch switched =>
      rw [Argument.chars_of_switch rfl, ← Value.chars_switch _ _ _]
      exact switched.span
  | plain plain => rw [Argument.chars_of_isPlain plain]

theorem Node.StandsAt.span {start : Nat} {node : Node} (stands : node.StandsAt start) :
    node.span = .ofText start node.chars := by
  cases node with
  | argument argument => exact Argument.StandsAt.span stands
  | name identifier => exact stands.2
  | value value => exact Value.StandsAt.span stands

/-! ## Nothing is empty -/

theorem Identifier.IsValid.nonempty {identifier : Identifier} (valid : identifier.IsValid) :
    identifier.name.toList ≠ [] := by
  intro isEmpty
  have word := valid.1
  rw [isEmpty] at word
  exact word

/-- No simple value has an empty text. -/
theorem Value.IsSimple.nonempty {value : Value} (simple : value.IsSimple) : value.chars ≠ [] := by
  cases value with
  | nil span =>
      rw [Value.chars]
      exact List.cons_ne_nil _ _
  | bool flag span =>
      rw [Value.chars]
      cases flag <;> exact List.cons_ne_nil _ _
  | number literal =>
      rw [Value.chars]
      intro isEmpty
      have start := simple.1
      rw [isEmpty] at start
      contradiction
  | string literal =>
      rw [Value.chars]
      obtain ⟨quote, tail, written, -⟩ := simple.1
      rw [written]
      exact List.cons_ne_nil _ _
  | identifier name =>
      rw [Value.chars]
      exact Identifier.IsValid.nonempty simple
  | slice | switch => exact simple.elim

theorem Value.StandsAt.nonempty {start : Nat} {value : Value} (stands : value.StandsAt start) :
    value.chars ≠ [] := by
  cases stands with
  | simple simple => exact simple.1.nonempty
  | @slice first others elements =>
      rw [Value.chars_slice]
      cases others with
      | nil => exact elements.1.1.nonempty
      | cons second others =>
          intro isEmpty
          rw [elementsText, List.map_cons, joinWith_cons _ _ (by simp)] at isEmpty
          simp at isEmpty
  | switch enabled named =>
      rw [Value.chars_switch]
      exact List.cons_ne_nil _ _

theorem Node.StandsAt.nonempty {start : Nat} {node : Node} (stands : node.StandsAt start) :
    node.chars ≠ [] := by
  cases node with
  | argument argument =>
      cases stands with
      | switch switched =>
          rw [Node.chars, Argument.chars_of_switch rfl]
          exact List.cons_ne_nil _ _
      | plain plain named standsValue =>
          rw [Node.chars, Argument.chars_of_isPlain plain]
          exact List.append_ne_nil_of_right_ne_nil _ standsValue.nonempty
  | name identifier => exact stands.1.nonempty
  | value value => exact Value.StandsAt.nonempty stands

/-! ## Children -/

/-- The parts of a value stand inside it. -/
theorem Value.StandsAt.child {start : Nat} {value : Value} (stands : value.StandsAt start)
    {child : Node} (member : child ∈ (Node.value value).children) :
    ∃ before after, value.chars = before ++ child.chars ++ after ∧
      child.StandsAt (start + byteLength before) := by
  cases stands with
  | @simple value simple =>
      cases value with
      | slice | switch => exact simple.1.elim
      | nil | bool | number | string | identifier => contradiction
  | slice elements =>
      obtain ⟨element, isElement, rfl⟩ := List.mem_map.1 member
      obtain ⟨before, after, joined, simple⟩ := elements.exists_of_mem isElement
      refine ⟨before, after, ?_, .simple simple⟩
      rw [Value.chars_slice]
      exact joined
  | @switch name enabled named =>
      obtain rfl := List.mem_singleton.1 member
      refine ⟨[switchMark enabled], [], ?_, named⟩
      rw [Value.chars_switch, List.append_nil]
      rfl

/-- The text of a node holds the texts of its children, where the children stand. -/
theorem Node.StandsAt.child {start : Nat} {node child : Node} (stands : node.StandsAt start)
    (member : child ∈ node.children) :
    ∃ before after, node.chars = before ++ child.chars ++ after ∧
      child.StandsAt (start + byteLength before) := by
  cases node with
  | argument argument =>
      cases stands with
      | @switch identifier enabled span switched =>
          let switch : Value := .switch identifier enabled span
          have chars : (Node.argument ⟨some identifier, switch, span⟩).chars = switch.chars := by
            rw [Value.chars_switch, Node.chars]
            exact Argument.chars_of_switch rfl
          rw [chars]
          rcases List.mem_append.1 member with isName | isValue
          · exact switched.child isName
          · obtain rfl := List.mem_singleton.1 isValue
            exact ⟨[], [], (List.append_nil _).symm, switched⟩
      | @plain identifier? value plain named standsValue =>
          rw [Node.chars, Argument.chars_of_isPlain plain]
          rcases List.mem_append.1 member with isName | isValue
          · obtain ⟨identifier, isNamed, rfl⟩ := List.mem_map.1 isName
            obtain rfl := Option.mem_toList.1 isNamed
            refine ⟨[], '=' :: value.chars, ?_, named identifier rfl⟩
            simp [nameText, Node.chars]
          · obtain rfl := List.mem_singleton.1 isValue
            exact ⟨nameText identifier?, [], (List.append_nil _).symm, standsValue⟩
  | name identifier => contradiction
  | value value => exact Value.StandsAt.child stands member

/-! ## Nodes in a text -/

/-- The node stands where its text stands in the text. -/
def Node.LocatedIn (text : List Char) (node : Node) : Prop :=
  ∃ before after, text = before ++ node.chars ++ after ∧ node.StandsAt (byteLength before)

theorem Node.LocatedIn.source {text : List Char} {node : Node} (located : node.LocatedIn text) :
    node.span.source? text = some node.chars := by
  obtain ⟨before, after, rfl, stands⟩ := located
  rw [stands.span]
  exact Span.source?_ofText before node.chars after

theorem Node.LocatedIn.nonempty {text : List Char} {node : Node} (located : node.LocatedIn text) :
    node.span.start < node.span.stop := by
  obtain ⟨before, after, -, stands⟩ := located
  rw [stands.span]
  exact Nat.lt_add_of_pos_right (byteLength_pos stands.nonempty)

theorem Node.LocatedIn.child {text : List Char} {node child : Node}
    (located : node.LocatedIn text) (member : child ∈ node.children) : child.LocatedIn text := by
  obtain ⟨before, after, rfl, stands⟩ := located
  obtain ⟨inside, behind, chars, standsChild⟩ := stands.child member
  refine ⟨before ++ inside, behind ++ after, ?_, ?_⟩
  · rw [chars]
    simp
  · rw [byteLength_append]
    exact standsChild

theorem Node.LocatedIn.span_child {text : List Char} {node child : Node}
    (located : node.LocatedIn text) (member : child ∈ node.children) :
    node.span.start ≤ child.span.start ∧ child.span.stop ≤ node.span.stop := by
  obtain ⟨before, after, -, stands⟩ := located
  obtain ⟨inside, behind, chars, standsChild⟩ := stands.child member
  have length := congrArg byteLength chars
  rw [byteLength_append, byteLength_append] at length
  rw [stands.span, standsChild.span]
  simp only [Span.ofText]
  omega

theorem Tree.HasNode.locatedIn {tree : Tree} {text : List Char}
    (arguments : ∀ argument ∈ tree.args, (Node.argument argument).LocatedIn text) {node : Node}
    (hasNode : tree.HasNode node) : node.LocatedIn text := by
  induction hasNode with
  | argument member => exact arguments _ member
  | child _ member inductionHypothesis => exact inductionHypothesis.child member

end RecordTags
