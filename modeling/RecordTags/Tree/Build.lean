import RecordTags.Escape
import RecordTags.Token.Scan

/-!
Contract: from the tokens of a tag to its tree.

The grammar is

  tag      := (argument ("," argument)*)? end
  argument := ("~" | "!") identifier | (identifier "=")? simple (";" simple)*
  simple   := nil | bool | identifier | string | number

Owns: the reading of one token as a simple value, and a machine that takes in
one token at a time. The machine fails at the first token that it cannot use,
and its states are the places in the grammar between two tokens.
-/

namespace RecordTags

open RecordTags.Text

namespace Value

def ofToken (token : Token) : Except TagError Value :=
  match token.kind with
  | .nil => .ok (.nil token.span)
  | .bool => .ok (.bool (token.text == "true") token.span)
  | .identifier => .ok (.identifier ⟨token.text, token.span⟩)
  | .number =>
    match Readings.ofText token.text.toList with
    | .ok readings =>
      .ok (.number { toReadings := readings, text := token.text, span := token.span })
    | .error fault => .error (.numeric fault token.text token.span)
  | .string =>
    (Escape.unquote token.span.start token.text.toList).map fun text =>
      .string { quoted := token.text, text, span := token.span }
  | _ => .error (.ofToken token)

/-- One value stands for itself, several are a slice. -/
def ofElements (first : Value) (others : List Value) : Value :=
  match others.getLast? with
  | none => first
  | some last => .slice (first :: others) (first.span.cover last.span)

end Value

namespace Argument

/-- A value with an optional name in front. -/
def ofValue (name : Option Identifier) (value : Value) : Argument :=
  match name with
  | none => { name := none, value, span := value.span }
  | some name => { name := some name, value, span := name.span.cover value.span }

def ofSwitch (mark : Token) (name : Identifier) : Argument :=
  let span := mark.span.cover name.span
  { name := some name, value := .switch name (mark.kind == .enable) span, span }

end Argument

namespace Tree

/-- A place in the grammar between two tokens, with what has been read of the
current argument. -/
inductive Place where
  /-- Before the first argument, where the tag may also end. -/
  | start
  /-- Behind a comma. -/
  | argument
  /-- Behind the mark of a switch. -/
  | switchName (mark : Token)
  /-- Behind an identifier at the start of an argument, which may turn out to
  be its name or its value. -/
  | word (identifier : Identifier)
  /-- Behind `=`. -/
  | value (name : Identifier)
  /-- Behind `;`. -/
  | element (name : Option Identifier) (first : Value) (others : List Value)
  /-- Behind a value. -/
  | afterValue (name : Option Identifier) (first : Value) (others : List Value)
  /-- Behind a complete switch. -/
  | afterSwitch (argument : Argument)

/-- What a token leads to. -/
inductive Move where
  /-- The argument goes on. -/
  | goOn (place : Place)
  /-- An argument is complete and another one follows. -/
  | separate (argument : Argument)
  /-- The tag ends, with its last argument. -/
  | finish (last : Option Argument)

/-- The start of an argument. -/
def acceptArgument (token : Token) : Except TagError Move :=
  match token.kind with
  | .enable | .disable => .ok (.goOn (.switchName token))
  | .identifier => .ok (.goOn (.word ⟨token.text, token.span⟩))
  | _ => (Value.ofToken token).map fun value => .goOn (.afterValue none value [])

/-- A separator or the end behind a complete argument. -/
def acceptEnd (argument : Argument) (token : Token) : Except TagError Move :=
  match token.kind with
  | .argumentSeparator => .ok (.separate argument)
  | .eof => .ok (.finish (some argument))
  | _ => .error (.ofToken token)

def acceptAfterValue (name : Option Identifier) (first : Value) (others : List Value)
    (token : Token) : Except TagError Move :=
  match token.kind with
  | .listSeparator => .ok (.goOn (.element name first others))
  | _ => acceptEnd (.ofValue name (.ofElements first others)) token

/-- One step of the machine. -/
def accept (place : Place) (token : Token) : Except TagError Move :=
  match place with
  | .start =>
    match token.kind with
    | .eof => .ok (.finish none)
    | _ => acceptArgument token
  | .argument => acceptArgument token
  | .switchName mark =>
    match token.kind with
    | .identifier => .ok (.goOn (.afterSwitch (.ofSwitch mark ⟨token.text, token.span⟩)))
    | _ => .error (.ofToken token)
  | .word identifier =>
    match token.kind with
    | .assign => .ok (.goOn (.value identifier))
    | _ => acceptAfterValue none (.identifier identifier) [] token
  | .value name =>
    (Value.ofToken token).map fun value => .goOn (.afterValue (some name) value [])
  | .element name first others =>
    (Value.ofToken token).map fun value => .goOn (.afterValue name first (others ++ [value]))
  | .afterValue name first others => acceptAfterValue name first others token
  | .afterSwitch argument => acceptEnd argument token

/-- The arguments that a token sequence completes from a place on. A token
sequence ends in a terminal token, which ends the reading. -/
def buildFrom (place : Place) : List Token → Except TagError (List Argument)
  | [] => .ok []
  | token :: rest =>
    match accept place token with
    | .error error => .error error
    | .ok (.goOn next) => buildFrom next rest
    | .ok (.separate argument) => (buildFrom .argument rest).map (argument :: ·)
    | .ok (.finish last) => .ok last.toList

/-- The tokens that the machine takes in from a place on: all of them, or those
up to and with the first that it cannot use. -/
def tokensRead (place : Place) : List Token → List Token
  | [] => []
  | token :: rest =>
    match accept place token with
    | .ok (.goOn next) => token :: tokensRead next rest
    | .ok (.separate _) => token :: tokensRead .argument rest
    | .ok (.finish _) | .error _ => [token]

/-- The tree of a tag, or the first thing that is wrong with it. -/
def parse (text : String) : Except TagError Tree :=
  (buildFrom .start (Token.scan text)).map fun args =>
    { args, span := ⟨0, byteLength text.toList⟩ }

end Tree

end RecordTags
