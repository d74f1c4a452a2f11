import RecordTags.Diagnostic
import RecordTags.Json.Decode

/-!
Contract: spans and diagnostics as JSON values.

A span is an object with `start` and `end`. A diagnostic leaves out the members
that it does not have. Decoding accepts every span, in order or not.
-/

namespace RecordTags

open RecordTags.Json

namespace Span

def toJson (span : Span) : Json :=
  .object [("start", .nat span.start), ("end", .nat span.stop)]

def decode : Decoder Span :=
  decodeStructure
    [ { name := "start", presence := .required, store := fun span json =>
          (decodeNat json).map fun start => { span with start } },
      { name := "end", presence := .required, store := fun span json =>
          (decodeNat json).map fun stop => { span with stop } } ]
    (Span.empty 0)

end Span

namespace Severity

def decode : Decoder Severity := decodeChoice (all.map fun severity => (severity.name, severity))

end Severity

namespace Diagnostic

def toJson (diagnostic : Diagnostic) : Json :=
  .object
    ([("id", .string diagnostic.id),
      ("severity", .string diagnostic.severity.name),
      ("message", .string diagnostic.message)] ++
    Json.member? "span" Span.toJson diagnostic.span ++
    Json.member? "context"
      (fun context => .object (context.map fun (key, text) => (key, .string text)))
      diagnostic.context)

def decodeContext : Decoder (Keyed String)
  | .object members => do
    let entries ← members.mapM fun (key, json) => do
      let text ← decodeString json
      return (key, text)
    return Keyed.ofList entries
  | _ => .error .shape

def decode : Decoder Diagnostic :=
  decodeStructure
    [ { name := "id", presence := .required, store := fun diagnostic json =>
          (decodeString json).map fun id => { diagnostic with id } },
      { name := "severity", presence := .required, store := fun diagnostic json =>
          (Severity.decode json).map fun severity => { diagnostic with severity } },
      { name := "message", presence := .required, store := fun diagnostic json =>
          (decodeString json).map fun message => { diagnostic with message } },
      { name := "span", presence := .optional, store := fun diagnostic json =>
          (decodeOption Span.decode json).map fun span => { diagnostic with span } },
      { name := "context", presence := .optional, store := fun diagnostic json =>
          (decodeOption decodeContext json).map fun context => { diagnostic with context } } ]
    { id := "", severity := .error, message := "", span := none, context := none }

end Diagnostic

end RecordTags
