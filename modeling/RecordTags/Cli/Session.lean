import RecordTags.Cli.Invocation

/-!
Contract: a whole run of the program.

Owns: `Session`, a run as a value, which says what is read and in which order,
and what comes of it; and `Session.ofWords`, the run of a command line.

Does not own: the reading itself. A session runs against any `Surroundings`,
and the program runs it against the real ones.
-/

namespace RecordTags.Cli

open RecordTags.Text

/-- Why a text could not be read. -/
inductive ReadFault where
  | notFound
  | noPermission
  /-- A part of the path that should be a directory is none. -/
  | notDirectory
  /-- The path leads to a directory. -/
  | isDirectory
  /-- The system refused for another reason, which has a number. -/
  | refused (reason : String) (number : Nat)
  /-- The bytes are no text. -/
  | notText
deriving DecidableEq, Repr

namespace ReadFault

/-- A reason of the system with its number. -/
def systemMessage (reason : String) (number : Nat) : String :=
  String.join [reason, " (os error ", decimal number, ")"]

def message : ReadFault → String
  | notFound => systemMessage "No such file or directory" 2
  | noPermission => systemMessage "Permission denied" 13
  | notDirectory => systemMessage "Not a directory" 20
  | isDirectory => systemMessage "Is a directory" 21
  | refused reason number => systemMessage reason number
  | notText => "stream did not contain valid UTF-8"

/-- The fault of a number, for which the system may have given a reason. -/
def ofNumber (reason : String) : (number : Nat) → ReadFault
  | 2 => notFound
  | 13 => noPermission
  | 20 => notDirectory
  | 21 => isDirectory
  | number => refused reason number

end ReadFault

def decodeText (bytes : ByteArray) : Except ReadFault String :=
  match String.fromUTF8? bytes with
  | some text => .ok text
  | none => .error .notText

inductive Session where
  | done (outcome : Outcome)
  | readFile (path : String) (next : Except ReadFault String → Session)
  | readStandard (next : Except ReadFault String → Session)

/-- What a session can read. -/
structure Surroundings where
  file : String → Except ReadFault String
  standard : Except ReadFault String

namespace Session

def run (surroundings : Surroundings) : Session → Outcome
  | done outcome => outcome
  | readFile path next => (next (surroundings.file path)).run surroundings
  | readStandard next => (next surroundings.standard).run surroundings

/-- The end of a run that cannot answer. Every line of the cause is indented. -/
def failure (context cause : String) : Session :=
  let indented := cause.toList.flatMap fun c =>
    if c == '\n' then ['\n', ' ', ' ', ' ', ' '] else [c]
  done
    { exitCode := 1
      output := ""
      errors := String.join
        ["Error: ", context, "\n\nCaused by:\n    ", String.ofList indented, "\n"] }

/-- Goes on with a text, or fails to read it. -/
def reading (context : String) (next : String → Session) (text : Except ReadFault String) :
    Session :=
  match text with
  | .ok text => next text
  | .error fault => failure context fault.message

/-- A text without its last character, if that is the given one. -/
def dropEnd (last : Char) (text : List Char) : List Char :=
  if text.getLast? = some last then text.dropLast else text

/-- A text without the line break at its end: one line feed, and one carriage
return in front of it. -/
def dropLineBreak (text : String) : String :=
  String.ofList (dropEnd '\r' (dropEnd '\n' text.toList))

/-- Reads the tag. The line break at the end of a file is not part of it. -/
def withSource (input : Input) (next : Source → Session) : Session :=
  match input with
  | .word text => next { text, origin := "<arg>" }
  | .file path =>
    readFile path (reading ("failed to read " ++ path) fun text =>
      next { text := dropLineBreak text, origin := path })
  | .standard =>
    readStandard (reading "failed to read tag from stdin" fun text =>
      next { text := dropLineBreak text, origin := "<stdin>" })

end Session

def Analysis.answer : Analysis → Source → Answer
  | tokens => tokensAnswer
  | parse => parseAnswer
  | check => checkAnswer
  | resolve => resolveAnswer

namespace Request

def session (request : Request) (finish : Answer → Session) : Session :=
  match request with
  | .analyze analysis input =>
    Session.withSource input fun source => finish (analysis.answer source)
  | .bind input path atomic =>
    .readFile path (Session.reading ("failed to read schema " ++ path) fun text =>
      match Schema.ofText text with
      | .error error => Session.failure ("invalid schema " ++ path) error.message
      | .ok schema =>
        Session.withSource input fun source => finish (bindAnswer schema atomic source))
  | .explain id => finish (explainAnswer id)

end Request

namespace Ending

def usageText : String :=
  "usage: fieldtag [--output pretty|json] [-v] COMMAND [ARGUMENTS]\n"

def helpText : String := usageText ++ unlines
  ["",
    "Scan, parse, check, and bind compact field-annotation tags",
    "",
    "  tokens  [TAG | --file PATH]    print the tokens of a tag",
    "  parse   [TAG | --file PATH]    print the tree of a tag",
    "  check   [TAG | --file PATH]    check a tag and the order of its arguments",
    "  resolve [TAG | --file PATH]    print the positional and the named arguments",
    "  bind    [TAG | --file PATH] --schema PATH [--atomic]",
    "                                 print the record of a schema with a tag bound into it;",
    "                                 the skip tag comes from standard input or a file",
    "  explain ID                     explain the identifier of a diagnostic",
    "  help    [COMMAND]              print this text",
    "",
    "A tag that is missing or given as '-' is read from standard input."]

def outcome : Ending → Outcome
  | usage => { exitCode := 2, output := "", errors := usageText }
  | help => { exitCode := 0, output := helpText, errors := "" }
  | version => { exitCode := 0, output := "fieldtag 0.1.0\n", errors := "" }

end Ending

namespace Session

/-- The run of a command line. Without a choice of format, a terminal gets the
one for a person. -/
def ofWords (onTerminal : Bool) (words : List String) : Session :=
  match Invocation.ofWords words with
  | .error ending => done ending.outcome
  | .ok invocation =>
    let format := invocation.format.getD (if onTerminal then .pretty else .json)
    invocation.request.session fun answer => done (answer.outcome format invocation.verbosity)

end Session

end RecordTags.Cli
