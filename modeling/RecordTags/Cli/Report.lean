import RecordTags.Diagnostic
import RecordTags.Text.Numeral
import RecordTags.Text.Split

/-!
Contract: diagnostics as text for a person.

Owns: the text that a diagnostic is about (`Source`), the lines that report a
diagnostic, the line that counts the diagnostics of a run, and the colours of
both.
-/

namespace RecordTags.Cli

open RecordTags.Text

/-- The text of a tag, and where it came from. -/
structure Source where
  text : String
  origin : String
deriving DecidableEq, Repr

/-! ## Colours -/

inductive Colour where
  | red
  | yellow
  | blue
  | cyan
deriving DecidableEq, Repr

namespace Colour

def number : Colour → Nat
  | red => 31
  | yellow => 33
  | blue => 34
  | cyan => 36

def paint (colour : Colour) (text : String) : String :=
  String.join ["\x1b[", decimal colour.number, "m", text, "\x1b[0m"]

end Colour

/-! ## Reports -/

/-- The characters of a text whose first byte lies in front of a byte offset. -/
def takeBytes : (bytes : Nat) → List Char → List Char
  | _, [] => []
  | bytes, c :: rest => if bytes = 0 then [] else c :: takeBytes (bytes - c.utf8Size) rest

/-- The tag with the span underlined, under a label. -/
def excerpt (source : Source) (span : Span) (label : String) : List String :=
  let before := (takeBytes span.start source.text.toList).length
  let width := (takeBytes span.stop source.text.toList).length - before
  [String.join ["  --> ", source.origin, ":", decimal span.start, "..", decimal span.stop],
    "   | " ++ source.text,
    String.join
      ["   | ", String.ofList (List.replicate before ' '),
        String.ofList (List.replicate (max 1 width) '^'), " ", label]]

end RecordTags.Cli

namespace RecordTags.Diagnostic

open RecordTags.Cli RecordTags.Text

/-- The context on one line, if there is any. -/
def note? (diagnostic : Diagnostic) : Option String :=
  match diagnostic.context with
  | none | some [] => none
  | some context =>
    some (String.intercalate ", " (context.map fun (key, text) => key ++ "=" ++ text))

/-- What stands beside the underlined part: the field that was being bound, or
the message. -/
def label (diagnostic : Diagnostic) : String :=
  match (diagnostic.context.getD []).get? "field" with
  | some field => "while binding field \x60" ++ field ++ "\x60"
  | none => diagnostic.message

def report (source : Source) (diagnostic : Diagnostic) : List String :=
  let shown := match diagnostic.span with
    | none => []
    | some span => excerpt source span diagnostic.label
  (diagnostic.display :: shown) ++
    diagnostic.note?.toList.map ("  = note: " ++ ·) ++
    diagnostic.explanation?.toList.map ("  = help: " ++ ·)

end RecordTags.Diagnostic

namespace RecordTags.Cli

open RecordTags.Text

/-! ## Counts -/

def hasError (diagnostics : List Diagnostic) : Bool := diagnostics.any Diagnostic.isError

/-- A count with its noun, which is in the plural unless there is one. -/
def counted (count : Nat) (noun : String) : String :=
  String.join [decimal count, " ", noun, if count = 1 then "" else "s"]

/-- The part of the summary for the diagnostics of a severity. -/
def summaryPart (severity : Severity) (count : Nat) : String :=
  match severity with
  | .error => Colour.red.paint (counted count "error")
  | .warn => Colour.yellow.paint (counted count "warning")
  | .info => Colour.blue.paint (decimal count ++ " info")

/-- The line that counts diagnostics by severity, gravest first. There is none
if there are no diagnostics. -/
def summary? (diagnostics : List Diagnostic) : Option String :=
  let parts := Severity.all.filterMap fun severity =>
    let count := (diagnostics.filter fun diagnostic => diagnostic.severity == severity).length
    if count = 0 then none else some (summaryPart severity count)
  if parts.isEmpty then none else some (String.intercalate ", " parts)

end RecordTags.Cli
