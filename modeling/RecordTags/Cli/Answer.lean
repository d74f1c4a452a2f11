import RecordTags.Cli.Event
import RecordTags.Cli.Report
import RecordTags.Json.Print
import RecordTags.Schema
import RecordTags.Tag
import RecordTags.Tree.Json

/-!
Contract: what each command answers about a tag.

Owns:
- `Answer`, one result in its two formats, with its diagnostics and its log;
- the answers of the analyses (`tokens`, `parse`, `check`, `resolve`), of
  `bind` and of `explain`.

Does not own: where the tag and the schema come from. A command fails exactly
if one of its diagnostics is an error.
-/

namespace RecordTags.Cli

open RecordTags.Text

inductive Format where
  /-- For a person. -/
  | pretty
  /-- For a program. -/
  | json
deriving DecidableEq, Repr

/-- What a run leaves behind. -/
structure Outcome where
  exitCode : Nat
  output : String
  errors : String
deriving DecidableEq, Repr

structure Answer where
  /-- The result as one value. -/
  envelope : Json
  /-- The lines of the result for a person. -/
  lines : List String
  diagnostics : List Diagnostic
  /-- The lines about the result for a person. -/
  remarks : List String
  events : List Event

/-- Lines of text, each with its line break. -/
def unlines (lines : List String) : String := String.join (lines.map (· ++ "\n"))

namespace Answer

/-- The exit status: one if there is an error, else zero. -/
def exitCode (answer : Answer) : Nat := if hasError answer.diagnostics then 1 else 0

/-- What is written, in a format and with a verbosity. The value for a program
has the members of all objects in order. -/
def outcome (answer : Answer) (format : Format) (verbosity : Nat) : Outcome :=
  let log := (answer.events.filter (Event.isShownAt verbosity)).map Event.line
  match format with
  | .json =>
    { exitCode := answer.exitCode
      output := unlines [answer.envelope.sortKeys.pretty]
      errors := unlines log }
  | .pretty =>
    { exitCode := answer.exitCode
      output := unlines answer.lines
      errors := unlines (log ++ answer.remarks) }

end Answer

def reports (source : Source) (diagnostics : List Diagnostic) : List String :=
  diagnostics.flatMap (Diagnostic.report source)

/-- The member of an envelope that holds the diagnostics. -/
def diagnosticsMember (diagnostics : List Diagnostic) : String × Json :=
  ("diagnostics", Json.ofList Diagnostic.toJson diagnostics)

/-! ## Tokens -/

def kindJson : TokenKind → Json
  | .error fault => .object [("error", .string fault.name)]
  | kind => .string kind.name

def tokenJson (token : Token) : Json :=
  .object
    [("kind", kindJson token.kind), ("text", .string token.text),
      ("start", .nat token.span.start), ("end", .nat token.span.stop)]

def kindLabel : TokenKind → String
  | .listSeparator => "list-separator"
  | .argumentSeparator => "argument-separator"
  | kind => kind.name

/-- A line of the table of tokens. An error is not in the table. -/
def tokenLine? (token : Token) : Option String :=
  match token.kind with
  | .error _ => none
  | kind =>
    some (String.join
      [padLeft 4 (decimal token.span.start), "..", padRight 4 (decimal token.span.stop), " ",
        padRight 18 (kindLabel kind), " ", token.text])

def scanDiagnostics (tokens : List Token) : List Diagnostic :=
  match tokens.getLast? with
  | some token =>
    match token.kind with
    | .error fault => [.ofCode .error fault.code token.text (some token.span)]
    | _ => []
  | none => []

def tokensAnswer (source : Source) : Answer :=
  let tokens := Token.scan source.text
  let diagnostics := scanDiagnostics tokens
  { envelope := .object
      [("tokens", Json.ofList tokenJson tokens), diagnosticsMember diagnostics]
    lines := tokens.filterMap tokenLine?
    diagnostics
    remarks := reports source diagnostics
    events := Event.ofScan source.text }

/-! ## Tree -/

def parseAnswer (source : Source) : Answer :=
  let parsed := Tree.parse source.text
  let diagnostics := match parsed with
    | .ok _ => []
    | .error error => [error.toDiagnostic]
  { envelope := .object
      [("ast", Json.ofOption Tree.toJson parsed.toOption), diagnosticsMember diagnostics]
    lines := parsed.toOption.toList.map fun tree => tree.toJson.pretty
    diagnostics
    remarks := reports source diagnostics
    events := Event.ofParse source.text }

/-! ## Arguments -/

/-- Whether a text has arguments in order. -/
def checkAnswer (source : Source) : Answer :=
  let diagnostics := match Resolved.ofText source.text with
    | .ok _ => []
    | .error error => [error.toDiagnostic]
  let ok := !hasError diagnostics
  { envelope := .object [("ok", .bool ok), diagnosticsMember diagnostics]
    lines := []
    diagnostics
    remarks :=
      reports source diagnostics ++ (summary? diagnostics).toList ++
        if ok then ["tag ok"] else []
    events := Event.ofArguments source.text }

def positionalLine (value : Value) (index : Nat) : String :=
  String.join ["#", decimal index, " = ", value.render]

def keywordLine (key : String) (argument : Argument) : String :=
  String.join [key, " = ", argument.value.render]

def resolveAnswer (source : Source) : Answer :=
  match Resolved.ofText source.text with
  | .error error =>
    let diagnostics := [error.toDiagnostic]
    { envelope := .object [diagnosticsMember diagnostics]
      lines := []
      diagnostics
      remarks := reports source diagnostics
      events := Event.ofArguments source.text }
  | .ok resolved =>
    { envelope := .object
        [("positional", Json.ofList Value.toJson resolved.positional),
          ("keyword", .object (resolved.keyword.map fun (key, item) => (key, item.toJson))),
          diagnosticsMember []]
      lines :=
        (resolved.positional.zipIdx.map fun (value, index) => positionalLine value index) ++
          resolved.keyword.map fun (key, argument) => keywordLine key argument
      diagnostics := []
      remarks := []
      events := Event.ofArguments source.text }

/-! ## Records -/

/-- The note about a tag that leaves the record alone. -/
def skippedNote : Diagnostic :=
  .ofCode .info .tagSkipped "tag is '-'; record left unchanged" none

/-- The warning about a named argument that is passed over. -/
def ignoredWarning (key : String) (argument : Argument) : Diagnostic :=
  .ofCode .warn .keyIgnored (String.join ["unknown field ", quoted key, " ignored"])
    (some argument.span)

variable {F : Type} [Field F]

/-- The record after a tag has been bound into it, and everything to be said
about that: the note if the tag is passed over, or the warnings about named
arguments that are, and then the failure if there is one. -/
def bindTag (tag : Tag) (options : BindOptions) (record : Record F) :
    Record F × List Diagnostic :=
  if tag.isIgnored then (record, [skippedNote])
  else
    match tag.resolve with
    | .error error => (record, [error.toDiagnostic])
    | .ok resolved =>
      let bound := record.bindInMode options resolved
      let warnings := (record.ignoredKeys options resolved).map fun (key, argument) =>
        ignoredWarning key argument
      (bound.record, warnings ++ bound.error.toList.map TagError.toDiagnostic)

/-- The zero record of a schema after a tag has been bound into it. -/
def bindAnswer (schema : Schema) (atomic : Bool) (source : Source) : Answer :=
  let options := if atomic then { schema.options with mode := .atomic } else schema.options
  let tag : Tag := { name := source.origin, value := source.text }
  let (record, diagnostics) := bindTag tag options schema.record
  { envelope := .object
      [("ok", .bool (!hasError diagnostics)), ("record", record.toJson),
        diagnosticsMember diagnostics]
    lines := [record.toJson.pretty]
    diagnostics
    remarks := reports source diagnostics ++ (summary? diagnostics).toList
    events := if tag.isIgnored then [] else Event.ofBind options schema.record source.text }

/-! ## Explanations -/

def explainAnswer (id : String) : Answer :=
  let explanation := explain? id
  { envelope := .object
      [("id", .string id), ("explanation", Json.ofOption .string explanation)]
    lines :=
      [String.join [Colour.cyan.paint id, ": ", explanation.getD "(no explanation available)"]]
    diagnostics := []
    remarks := []
    events := [] }

end RecordTags.Cli
