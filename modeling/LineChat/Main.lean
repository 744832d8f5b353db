import LineChat.Command.Report
import LineChat.Command.Version
import LineChat.Loopback.Program
import Std.Time.DateTime.Timestamp

/-!
# The Program

The command line and nothing else: reading arguments and standard input,
printing, and the exit code. What the commands do is in `ServerRun` and
`ClientRun`; they run here on a host whose network interface is down.

## Main definitions

* `main`: The program.
-/

namespace LineChat

/-- What this program was built for. -/
def buildPlatform : Platform := ⟨"x86_64-unknown-linux-gnu", "linux", "x86_64"⟩

/-- The seconds since the start of 1970. -/
def unixSeconds : IO String := do
  let now ← Std.Time.Timestamp.now
  return toString now.toSecondsSinceUnixEpoch.val

/-- Prints what a program has shown since it was last looked at. -/
def printShown (p : Program) (format : OutputFormat) : IO Program := do
  let output ← IO.getStdout
  for m in p.shown do
    output.putStr (report format p.origin (← unixSeconds) m)
    output.flush
  return { p with shown := [] }

/-- Runs a program to its end. A client reads standard input meanwhile; a server
    waits. -/
partial def runToEnd (p : Program) (format : OutputFormat) : IO UInt32 := do
  let p ← printShown p.settle format
  match p.ended, p.job with
  | some (.ok ()), _ => return UInt32.ofNat ExitCode.success
  | some (.error failure), _ =>
    (← IO.getStderr).putStrLn ("error: " ++ failure.message)
    return UInt32.ofNat failure.code
  | none, some (.client _) =>
    let chunk ← (← IO.getStdin).read (USize.ofNat inputChunk)
    let event := if chunk.size = 0 then InputEvent.ended else InputEvent.data chunk
    runToEnd (p.give [event]) format
  | none, some (.server r) =>
    IO.sleep (UInt32.ofNat (r.tick.nanos / 1000000))
    runToEnd p format
  | none, none => return UInt32.ofNat ExitCode.internal

/-- Carries a command line out. -/
def carryOut (c : CommandLine) : IO UInt32 := do
  match Program.ofCommand (Scene.start false none) c.command, c.command with
  | some p, _ =>
    let terminal ← (← IO.getStdout).isTty
    runToEnd p (c.format.getD (if terminal then .pretty else .json))
  | none, .version extended =>
    (← IO.getStdout).putStr (versionText extended buildPlatform)
    return UInt32.ofNat ExitCode.success
  | none, _ => return UInt32.ofNat ExitCode.internal

end LineChat

/-- The program. -/
def main (args : List String) : IO UInt32 := do
  match LineChat.CommandLine.parse args with
  | .ok c => LineChat.carryOut c
  | .error .displayHelp =>
    (← IO.getStdout).putStr LineChat.CommandLine.usage
    return 0
  | .error .displayVersion =>
    (← IO.getStdout).putStr (LineChat.versionText false LineChat.buildPlatform)
    return 0
  | .error e =>
    (← IO.getStderr).putStrLn ("error: " ++ e.message ++ "\n\n" ++ LineChat.CommandLine.usage)
    return UInt32.ofNat e.exitCode
