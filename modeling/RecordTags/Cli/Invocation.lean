import RecordTags.Cli.Answer

/-!
Contract: what the words of a command line ask for.

Owns:
- `Invocation`, a complete request, and `Ending`, a command line that settles
  the run by itself;
- the options of each level and how their values are found;
- `Invocation.ofWords`.

A command line has two levels, in front of the command and behind it. Words are
read from left to right. The value of an option stands in the same word, or is
the next word that is not an option; in that case it is looked at only when the
next option or operand is met, or at the end of its level. Help and version end
the reading at once.
-/

namespace RecordTags.Cli

inductive Input where
  /-- The command line. -/
  | word (text : String)
  | file (path : String)
  /-- Standard input. -/
  | standard
deriving DecidableEq, Repr

/-- The commands that look at a tag alone. -/
inductive Analysis where
  | tokens
  | parse
  | check
  | resolve
deriving DecidableEq, Repr

/-- What a command is to do. -/
inductive Request where
  | analyze (analysis : Analysis) (input : Input)
  | bind (input : Input) (schemaPath : String) (atomic : Bool)
  | explain (id : String)
deriving DecidableEq, Repr

/-- A complete request. Without a format, the output decides. -/
structure Invocation where
  format : Option Format
  verbosity : Nat
  request : Request
deriving DecidableEq, Repr

/-- A command line that settles the run by itself. -/
inductive Ending where
  /-- It is wrong. -/
  | usage
  | help
  | version
deriving DecidableEq, Repr

/-! ## Levels and their options -/

inductive Command where
  | analyze (analysis : Analysis)
  | bind
  | explain
deriving DecidableEq, Repr

namespace Command

/-- Every command under its name. -/
def all : List (String × Command) :=
  [("tokens", analyze .tokens), ("parse", analyze .parse), ("check", analyze .check),
    ("resolve", analyze .resolve), ("bind", bind), ("explain", explain)]

end Command

def helpWord : String := "help"

inductive Level where
  /-- In front of the command. -/
  | outer
  /-- Behind the command. -/
  | inner (command : Command)
deriving DecidableEq, Repr

inductive ValueOption where
  | output
  | file
  | schema
deriving DecidableEq, Repr

inductive Flag where
  | verbose
  | atomic
  | help
  | version
deriving DecidableEq, Repr

inductive CommandOption where
  | valued (option : ValueOption)
  | flag (flag : Flag)
deriving DecidableEq, Repr

structure OptionForm where
  name : String
  letter : Option Char
  option : CommandOption
deriving DecidableEq, Repr

namespace Level

def sharedOptions : List OptionForm :=
  [⟨"output", none, .valued .output⟩, ⟨"verbose", some 'v', .flag .verbose⟩,
    ⟨"help", some 'h', .flag .help⟩]

def fileOption : OptionForm := ⟨"file", some 'f', .valued .file⟩

def options : Level → List OptionForm
  | outer => sharedOptions ++ [⟨"version", some 'V', .flag .version⟩]
  | inner (.analyze _) => sharedOptions ++ [fileOption]
  | inner .bind =>
    sharedOptions ++
      [fileOption, ⟨"schema", none, .valued .schema⟩, ⟨"atomic", none, .flag .atomic⟩]
  | inner .explain => sharedOptions

def named? (level : Level) (name : String) : Option CommandOption :=
  (level.options.find? (·.name == name)).map OptionForm.option

def lettered? (level : Level) (letter : Char) : Option CommandOption :=
  (level.options.find? (·.letter == some letter)).map OptionForm.option

/-- The command of a name. Commands stand in front of all others only. -/
def command? (level : Level) (name : String) : Option Command :=
  match level with
  | outer => List.lookup name Command.all
  | inner _ => none

def isHelpWord (level : Level) (word : String) : Bool := level == outer && word == helpWord

end Level

/-! ## What a level has given so far -/

/-- The values that a level has given. -/
structure Given where
  output : Option Format := none
  verbosity : Nat := 0
  file : Option String := none
  schema : Option String := none
  atomic : Bool := false
  operand : Option String := none
deriving DecidableEq, Repr

namespace Given

/-- Stores a value that may be given once. -/
def once {α : Type} (current : Option α) (value : α) : Except Ending (Option α) :=
  match current with
  | some _ => .error .usage
  | none => .ok (some value)

def format? (name : String) : Option Format :=
  List.lookup name [("pretty", .pretty), ("json", .json)]

def store (given : Given) (option : ValueOption) (value : String) : Except Ending Given :=
  match option with
  | .output =>
    match format? value with
    | none => .error .usage
    | some format => (once given.output format).map fun output => { given with output }
  | .file => (once given.file value).map fun file => { given with file }
  | .schema => (once given.schema value).map fun schema => { given with schema }

/-- Takes note of a flag. -/
def raise (given : Given) : Flag → Except Ending Given
  | .verbose => .ok { given with verbosity := given.verbosity + 1 }
  | .atomic => if given.atomic then .error .usage else .ok { given with atomic := true }
  | .help => .error .help
  | .version => .error .version

end Given

/-- An option whose value was not in its word: the value is still to come, or
is there and has not been looked at. -/
structure Pending where
  option : ValueOption
  value : Option String
deriving DecidableEq, Repr

structure LevelState where
  given : Given := {}
  pending : Option Pending := none
deriving DecidableEq, Repr

namespace LevelState

/-- The option that the next word may be the value of. -/
def awaited? (state : LevelState) : Option ValueOption :=
  match state.pending with
  | some ⟨option, none⟩ => some option
  | _ => none

/-- Looks at the value that is pending. -/
def settle (state : LevelState) : Except Ending Given :=
  match state.pending with
  | none => .ok state.given
  | some ⟨_, none⟩ => .error .usage
  | some ⟨option, some value⟩ => state.given.store option value

def acceptFlag (state : LevelState) (flag : Flag) : Except Ending LevelState := do
  let given ← state.settle
  let given ← given.raise flag
  return { given }

/-- Takes in an option with the value in its word, if that has one. -/
def acceptValued (state : LevelState) (option : ValueOption) (value : Option String) :
    Except Ending LevelState := do
  let given ← state.settle
  match value with
  | none => return { given, pending := some ⟨option, none⟩ }
  | some value =>
    let given ← given.store option value
    return { given }

/-- Takes in an option that is spelled out, without its two dashes. -/
def acceptNamed (level : Level) (state : LevelState) (body : List Char) :
    Except Ending LevelState :=
  let name := String.ofList (body.takeWhile (· != '='))
  let value := match body.dropWhile (· != '=') with
    | [] => none
    | _ :: value => some (String.ofList value)
  match level.named? name, value with
  | none, _ | some (.flag _), some _ => .error .usage
  | some (.flag flag), none => state.acceptFlag flag
  | some (.valued option), value => state.acceptValued option value

/-- Takes in letters that stand for options. The first one with a value takes
the rest of the word, with or without an equals sign in front. -/
def acceptLetters (level : Level) (state : LevelState) : List Char → Except Ending LevelState
  | [] => .ok state
  | letter :: rest =>
    match level.lettered? letter with
    | none => .error .usage
    | some (.flag flag) =>
      match state.acceptFlag flag with
      | .error ending => .error ending
      | .ok next => acceptLetters level next rest
    | some (.valued option) =>
      state.acceptValued option
        (match rest with
          | [] => none
          | '=' :: value => some (String.ofList value)
          | value => some (String.ofList value))

/-- Takes in an operand. There is at most one, and behind a command only. -/
def acceptOperand (level : Level) (state : LevelState) (word : String) :
    Except Ending LevelState :=
  match level with
  | .outer => .error .usage
  | .inner _ => do
    let given ← state.settle
    let operand ← Given.once given.operand word
    return { given := { given with operand } }

/-- Takes in a word that is neither a command nor the end of options. -/
def acceptWord (level : Level) (state : LevelState) (word : String) : Except Ending LevelState :=
  match word.toList, state.awaited? with
  | '-' :: '-' :: body, _ => state.acceptNamed level body
  | '-' :: letter :: rest, _ => state.acceptLetters level (letter :: rest)
  | _, some option => .ok { state with pending := some ⟨option, some word⟩ }
  | _, none => state.acceptOperand level word

end LevelState

/-! ## Reading the words -/

/-- A level that has been read, and the command that follows with its words. -/
structure LevelEnd where
  state : LevelState
  command : Option (Command × List String)

def optionsEnd : String := "--"

/-- What a request for help with words behind it comes to: there is help on the
whole, on each command, and on help itself. -/
def helpOn : List String → Ending
  | [] => .help
  | [name] => if name == helpWord || (List.lookup name Command.all).isSome then .help else .usage
  | _ => .usage

/-- Reads the words of a level, up to the command if it has one. -/
def readLevel (level : Level) (state : LevelState) : List String → Except Ending LevelEnd
  | [] => .ok { state, command := none }
  | word :: rest =>
    let inPlace := state.awaited?.isNone
    match if inPlace then level.command? word else none with
    | some command => .ok { state, command := some (command, rest) }
    | none =>
      if inPlace && level.isHelpWord word then .error (helpOn rest)
      else if word == optionsEnd then
        (rest.foldlM (LevelState.acceptOperand level) state).map fun state =>
          { state, command := none }
      else
        match state.acceptWord level word with
        | .error ending => .error ending
        | .ok next => readLevel level next rest

/-! ## The request -/

/-- The word that stands for standard input, as a tag and as a path. -/
def standardWord : String := "-"

/-- Where the tag comes from, given an operand or a path. -/
def Input.ofGiven (operand file : Option String) : Input :=
  match operand.filter (· != standardWord), file.filter (· != standardWord) with
  | some text, _ => .word text
  | none, some path => .file path
  | none, none => .standard

namespace Given

/-- Where the tag comes from. It is not given twice. -/
def input (given : Given) : Except Ending Input :=
  if given.operand.isSome && given.file.isSome then .error .usage
  else .ok (.ofGiven given.operand given.file)

/-- What a command is to do with the values of its level. -/
def request (given : Given) : Command → Except Ending Request
  | .analyze analysis => given.input.map (.analyze analysis)
  | .bind => do
    let input ← given.input
    match given.schema with
    | none => .error .usage
    | some path => return .bind input path given.atomic
  | .explain =>
    match given.operand with
    | none => .error .usage
    | some id => .ok (.explain id)

end Given

namespace Invocation

/-- What the words of a command line ask for. The options behind the command
count before those in front of it. -/
def ofWords (words : List String) : Except Ending Invocation := do
  let outer ← readLevel .outer {} words
  match outer.command with
  | none => .error .usage
  | some (command, rest) =>
    let inner ← readLevel (.inner command) {} rest
    let own ← inner.state.settle
    let request ← own.request command
    let shared ← outer.state.settle
    return {
      format := own.output.or shared.output
      verbosity := if own.verbosity = 0 then shared.verbosity else own.verbosity
      request }

end Invocation

end RecordTags.Cli
