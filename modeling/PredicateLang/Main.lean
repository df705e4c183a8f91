import PredicateLang.CommandLine
import PredicateLang.Evaluation.Memory
import Std.Time.DateTime.Timestamp

/-!
# The program

Reads the arguments and, if it is wanted, the standard input; performs the check; and writes what it
finds. The exit code is 1 if the check fails and 2 if the arguments make no sense.
-/

namespace PredicateLang

/-- The rest of a stream. -/
partial def readRest (stream : IO.FS.Stream) (read : String) : IO String := do
  let line ← stream.getLine
  if line.isEmpty then return read else readRest stream (read ++ line)

/-- The world as it is now. -/
def currentWorld : IO World := do
  let nanos := (← Std.Time.Timestamp.now).toNanosecondsSinceUnixEpoch.val
  let bytes ← IO.getRandomBytes 8
  let seed := bytes.foldl (fun seed byte => seed * 256 + byte.toUInt64) (0 : UInt64)
  return .ofSeed (.ofNanos nanos) seed

/-- The check with its object, which is read from the standard input unless that is a terminal. -/
def completed (command : CommandLine) : IO Check := do
  let input ← IO.getStdin
  if command.readsInput && !(← input.isTty) then
    return command.withInput (← readRest input "")
  else return command.check

end PredicateLang

open PredicateLang

/-- Performs what the arguments ask for. -/
def main (arguments : List String) : IO UInt32 := do
  match CommandLine.ofArguments arguments with
  | .error e =>
    IO.eprintln ("error: " ++ e.message)
    return 2
  | .ok command =>
    match (← completed command).run (← currentWorld) with
    | .error e =>
      IO.eprintln e.message
      return 1
    | .ok outcome =>
      for line in command.lines outcome do IO.println line
      return 0
