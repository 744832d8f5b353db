import LineChat.Session.Error

/-!
# Ends of a Command

The exit codes of the commands and the text that goes with a failure.

A code tells a script what went wrong: a mistake of the user, a missing
permission, a time limit, a connection that ended, or the system. Which fault
is which is decided by its kind alone.

## Main definitions

* `ExitCode`: The codes by name.
* `Failure`: A code and a text.
* `Failure.ofFault`, `Failure.ofSession`: The failure behind an error.
-/

namespace LineChat

namespace ExitCode

/-- All went well. -/
def success : Nat := 0

/-- A connection ended or was refused, or a port is busy. -/
def failure : Nat := 1

/-- The command line is wrong. -/
def badArguments : Nat := 2

/-- The system failed in some other way. -/
def transport : Nat := 3

/-- A permission is missing. -/
def permissionDenied : Nat := 50

/-- A value that the user gave is wrong. -/
def usage : Nat := 64

/-- A time limit has passed. -/
def timeout : Nat := 124

/-- The program has gone wrong. -/
def internal : Nat := 125

end ExitCode

/-- Why a command failed: its exit code and what it says. -/
structure Failure where
  code : Nat
  message : String
  deriving DecidableEq, Repr

namespace Failure

/-- The exit code of a fault. -/
def codeOfFault (fault : Fault) : Nat :=
  match fault.kind with
  | .permissionDenied => ExitCode.permissionDenied
  | .timedOut => ExitCode.timeout
  | .wouldBlock => ExitCode.timeout
  | .connectionRefused => ExitCode.failure
  | .connectionAborted => ExitCode.failure
  | .connectionReset => ExitCode.failure
  | .brokenPipe => ExitCode.failure
  | .unexpectedEnd => ExitCode.failure
  | _ => ExitCode.transport

/-- The failure of an attempt at `context` that met a fault. -/
def ofFault (context : String) (fault : Fault) : Failure :=
  ⟨codeOfFault fault, context ++ ": " ++ fault.message⟩

/-- The exit code of a session's error. -/
def codeOfSession : SessionError → Nat
  | .system fault => codeOfFault fault
  | .badAddress _ => ExitCode.usage
  | .portBusy _ => ExitCode.failure
  | .timeout => ExitCode.timeout
  | .notStarted => ExitCode.internal
  | .alreadyStarted => ExitCode.internal
  | .notImplemented _ => ExitCode.internal

/-- The failure of an attempt at `context` that met a session's error. -/
def ofSession (context : String) (e : SessionError) : Failure :=
  match e with
  | .system fault => ofFault context fault
  | _ => ⟨codeOfSession e, context ++ ": " ++ e.message⟩

end Failure

end LineChat
