import RecordTags.Decimal
import RecordTags.Tag

/-!
Contract: what can be logged while a tag is worked on.

Owns:
- `Event`, its level, its source and its line;
- the events of scanning, parsing, splitting and binding, in the order in which
  they happen.

Does not own: the results of these stages. The events are read off the same
definitions that give the results, and no result depends on them.
-/

namespace RecordTags.Cli

open RecordTags.Text

/-- How verbose a run must be to show an event. -/
inductive LogLevel where
  | debug
  | trace
deriving DecidableEq, Repr

namespace LogLevel

def name : LogLevel → String
  | debug => "debug"
  | trace => "trace"

def threshold : LogLevel → Nat
  | debug => 1
  | trace => 2

end LogLevel

/-- Something that happened to a tag. -/
inductive Event where
  /-- The scanner made a token. -/
  | token (token : Token)
  /-- A numeric literal was read. -/
  | number (text : String) (readings : Readings)
  /-- A tag was parsed completely. -/
  | parsed (count : Nat) (text : String)
  /-- A key was met again. -/
  | repeatedKey (key : String)
  /-- A positional argument is about to be written into a field. -/
  | boundIndex (index : Nat) (field : String)
  /-- A named argument is about to be written into a field. -/
  | boundKey (key field : String)
  /-- A named argument was passed over. -/
  | ignoredKey (key : String)

namespace Event

def level : Event → LogLevel
  | token _ | number _ _ => .trace
  | parsed _ _ | repeatedKey _ | boundIndex _ _ | boundKey _ _ | ignoredKey _ => .debug

/-- The part of the program that reports the event. -/
def target : Event → String
  | token _ => "fieldtag_core::grammar::lexer"
  | number _ _ => "fieldtag_core::grammar::number"
  | parsed _ _ => "fieldtag_core::grammar::parser"
  | repeatedKey _ => "fieldtag_core::resolve"
  | boundIndex _ _ | boundKey _ _ | ignoredKey _ => "fieldtag_core::bind"

def capitalized (name : String) : String :=
  match name.toList with
  | [] => ""
  | first :: rest => String.ofList (first.toUpper :: rest)

def readingText {α : Type} (text : α → String) : Option α → String
  | none => "None"
  | some reading => "Some(" ++ text reading ++ ")"

/-- Doubles are positional from 0.0001 up to sixteen places before the point;
positive exponents have no sign, and ties go up. -/
def floatLayout : Decimal.Layout :=
  { plainFrom := -4, plainTo := 15, plusSign := false, tie := .up }

def tokenMessage (token : Token) : String :=
  let position := decimal token.span.start
  match token.kind with
  | .error fault =>
    String.join ["lex error ", capitalized fault.name, " at ", position, ": ", token.text]
  | kind => String.join ["token ", capitalized kind.name, " ", quoted token.text, " at ", position]

def message : Event → String
  | token made => tokenMessage made
  | number text readings =>
    String.join
      ["number ", quoted text,
        ": int=", readingText (fun reading => decimalInt reading.toInt) readings.int,
        " uint=", readingText (fun reading => decimal reading.toNat) readings.uint,
        " float=", readingText floatLayout.text readings.float]
  | parsed count text => String.join ["parsed ", decimal count, " argument(s) from ", quoted text]
  | repeatedKey key => String.join ["duplicate key ", quoted key, "; later value wins"]
  | boundIndex index field => String.join ["bind #", decimal index, " -> ", field]
  | boundKey key field => String.join ["bind ", quoted key, " -> ", field]
  | ignoredKey key => "ignoring unknown key " ++ quoted key

def line (event : Event) : String :=
  String.join ["[", event.level.name, " ", event.target, "] ", event.message]

def isShownAt (verbosity : Nat) (event : Event) : Bool :=
  event.level.threshold ≤ verbosity

/-! ## Events of the stages -/

def ofScan (text : String) : List Event := (Token.scan text).map token

/-- A token that the tree is built from, with the readings of a numeral. -/
def ofTokenRead (made : Token) : List Event :=
  match made.kind with
  | .number =>
    match Readings.ofText made.text.toList with
    | .ok readings => [token made, number made.text readings]
    | .error _ => [token made]
  | _ => [token made]

/-- The parse of a text. Tokens are scanned as the tree needs them. -/
def ofParse (text : String) : List Event :=
  (Tree.tokensRead .start (Token.scan text)).flatMap ofTokenRead ++
    match Tree.parse text with
    | .ok tree => [parsed tree.args.length text]
    | .error _ => []

/-- The keys that are met again in arguments behind others with the keys `seen`,
up to an argument that cannot stand where it does. -/
def repeatedKeys (seen : List String) : List Argument → List String
  | [] => []
  | argument :: rest =>
    match argument.key? with
    | some key =>
      if seen.contains key then key :: repeatedKeys seen rest
      else repeatedKeys (key :: seen) rest
    | none => if seen.isEmpty then repeatedKeys seen rest else []

def ofResolve (tree : Tree) : List Event := (repeatedKeys [] tree.args).map repeatedKey

def ofArguments (text : String) : List Event :=
  ofParse text ++
    match Tree.parse text with
    | .ok tree => ofResolve tree
    | .error _ => []

variable {F : Type} [Field F]

omit [Field F] in
/-- One step of binding. A step that addresses nothing and is refused for it
leaves no event. -/
def ofBindStep (options : BindOptions) (record : Record F) (step : BindStep) : List Event :=
  match step.target options record, step with
  | .field index, .positional position _ =>
    [boundIndex position ((record.name? index).getD "?")]
  | .field index, .keyword key _ => [boundKey key ((record.name? index).getD key)]
  | .nothing, .keyword key _ => [ignoredKey key]
  | .nothing, .positional _ _ | .missing _, _ => []

def ofBindSteps (options : BindOptions) (record : Record F) : List BindStep → List Event
  | [] => []
  | step :: rest =>
    let bound := record.bindStep options step
    ofBindStep options record step ++
      match bound.error with
      | some _ => []
      | none => ofBindSteps options bound.record rest

def ofBind (options : BindOptions) (record : Record F) (text : String) : List Event :=
  ofArguments text ++
    match Resolved.ofText text with
    | .error _ => []
    | .ok resolved => ofBindSteps options record resolved.steps

end Event

end RecordTags.Cli
