import RecordTags.Cli.Session

/-!
Contract: the program.

Owns: reading files and standard input, and writing what a session comes to.
Everything else is decided by `RecordTags.Cli.Session`.
-/

namespace RecordTags.Cli

/-- The fault of a number that the system may give with either sign. -/
def ReadFault.ofCode (code : UInt32) (reason : String) : ReadFault :=
  .ofNumber reason (min code.toNat (-code).toNat)

/-- The fault behind an error of the system. -/
def ReadFault.ofError : IO.Error → ReadFault
  | .noFileOrDirectory _ code reason | .inappropriateType _ code reason
  | .permissionDenied _ code reason | .resourceExhausted _ code reason
  | .invalidArgument _ code reason | .otherError code reason
  | .hardwareFault code reason => .ofCode code reason
  | other => .ofNumber (toString other) 5

partial def readAll (stream : IO.FS.Stream) (start : ByteArray) : IO ByteArray := do
  let chunk ← stream.read 65536
  if chunk.isEmpty then return start else readAll stream (start ++ chunk)

def readText (action : IO ByteArray) : IO (Except ReadFault String) := do
  try
    return decodeText (← action)
  catch error => return .error (.ofError error)

/-- Runs a session against the files and the standard input of the process. -/
def Session.perform : Session → IO Outcome
  | .done outcome => return outcome
  | .readFile path next => do (next (← readText (IO.FS.readBinFile path))).perform
  | .readStandard next => do
    (next (← readText (do readAll (← IO.getStdin) .empty))).perform

end RecordTags.Cli

open RecordTags.Cli in
def main (words : List String) : IO UInt32 := do
  let stdout ← IO.getStdout
  let outcome ← (Session.ofWords (← stdout.isTty) words).perform
  (← IO.getStderr).putStr outcome.errors
  stdout.putStr outcome.output
  stdout.flush
  return outcome.exitCode.toUInt32
