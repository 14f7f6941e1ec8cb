import RollupWallet.CommandLine.Run
import Std.Time.DateTime.Timestamp

/-!
# The program

Reads the command line, looks up the clock, the configuration file and the environment, and prints
what the command yields. No transport is attached to the program: a command that must reach the
rollup says that it cannot.
-/

namespace RollupWallet.CommandLine

/-- The text of a file, if it can be read. -/
def readText? (path : String) : IO (Option String) := do
  try
    return some (← IO.FS.readFile path)
  catch _ => return none

/-- The time in milliseconds. -/
def currentTime : IO Int64 := do
  let now ← Std.Time.Timestamp.now
  return Int64.ofInt now.toMillisecondsSinceUnixEpoch.val

/-- Runs a command and prints what it yields. The result is the program's exit code. -/
def runAndPrint (flags : ConfigFlags) (command : Command) : IO UInt32 := do
  let file ← flags.file.mapM readText?
  let around : Surroundings := { now := ← currentTime, fileText := fun _ => file.join, flags }
  match ((command.run around).run.run Network.unreachable).2 with
  | .ok text =>
    IO.print text
    return 0
  | .error fault =>
    IO.eprintln ("Error: " ++ fault.message?.getD "the command failed")
    return 1

/-- Reads the command line and runs the command. -/
def runProgram (words : List String) : IO UInt32 := do
  let layer1Key ← IO.getEnv "L1_PRIVATE_KEY"
  let seed ← IO.getEnv "L2_SEED"
  let getVariable (name : String) : Option String :=
    match name with
    | "L1_PRIVATE_KEY" => layer1Key
    | "L2_SEED" => seed
    | _ => none
  match parse getVariable words with
  | .ok (flags, command) => runAndPrint flags command
  | .error fault =>
    IO.eprintln ("error: " ++ fault.name)
    return 2

end RollupWallet.CommandLine

/-- The program. -/
def main (words : List String) : IO UInt32 := RollupWallet.CommandLine.runProgram words
