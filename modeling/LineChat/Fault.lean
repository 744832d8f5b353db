/-!
# Faults of the Operating System

What a system call answers when it fails.

A fault either carries an error number, or a kind and possibly a text of its
own. Callers never look at the number: they branch on the kind, and an error
number counts as its kind everywhere. What a fault says to a user is `message`.

Two kinds steer every loop over a socket. An *interrupted* call is made again,
and a call that *would block* ends the loop, because readiness is reported
once per change and the socket has now been drained.

## Main definitions

* `FaultKind`: What sort of failure it is.
* `Fault`: A failure as a call reports it.
* `Fault.kind`, `Fault.message`: The sort of a fault and its text.
-/

namespace LineChat

/-- The sorts of failure that anything here distinguishes or names. -/
inductive FaultKind
  | notFound
  | permissionDenied
  | connectionRefused
  | connectionReset
  | connectionAborted
  | notConnected
  | addrInUse
  | addrNotAvailable
  | brokenPipe
  | alreadyExists
  | wouldBlock
  | invalidInput
  | invalidData
  | timedOut
  | writeZero
  | interrupted
  | unsupported
  | unexpectedEnd
  | outOfMemory
  | hostUnreachable
  | networkUnreachable
  | networkDown
  | isADirectory
  | other
  | uncategorized
  deriving DecidableEq, Repr, Inhabited

namespace FaultKind

/-- The text of a fault of which only the kind is known. -/
def description : FaultKind → String
  | notFound => "entity not found"
  | permissionDenied => "permission denied"
  | connectionRefused => "connection refused"
  | connectionReset => "connection reset"
  | connectionAborted => "connection aborted"
  | notConnected => "not connected"
  | addrInUse => "address in use"
  | addrNotAvailable => "address not available"
  | brokenPipe => "broken pipe"
  | alreadyExists => "entity already exists"
  | wouldBlock => "operation would block"
  | invalidInput => "invalid input parameter"
  | invalidData => "invalid data"
  | timedOut => "timed out"
  | writeZero => "write zero"
  | interrupted => "operation interrupted"
  | unsupported => "unsupported"
  | unexpectedEnd => "unexpected end of file"
  | outOfMemory => "out of memory"
  | hostUnreachable => "host unreachable"
  | networkUnreachable => "network unreachable"
  | networkDown => "network down"
  | isADirectory => "is a directory"
  | other => "other error"
  | uncategorized => "uncategorized error"

end FaultKind

/-- A failure as a system call reports it. -/
inductive Fault
  /-- Only the kind is known. -/
  | plain (kind : FaultKind)
  /-- A kind with a text of its own. -/
  | custom (kind : FaultKind) (text : String)
  /-- An error number of the system. -/
  | errno (number : Nat)
  deriving DecidableEq, Repr, Inhabited

namespace Fault

/-- The system's text for an error number and the kind it counts as. -/
def errnoEntry : Nat → String × FaultKind
  | 1 => ("Operation not permitted", .permissionDenied)
  | 2 => ("No such file or directory", .notFound)
  | 4 => ("Interrupted system call", .interrupted)
  | 5 => ("Input/output error", .uncategorized)
  | 11 => ("Resource temporarily unavailable", .wouldBlock)
  | 12 => ("Cannot allocate memory", .outOfMemory)
  | 13 => ("Permission denied", .permissionDenied)
  | 17 => ("File exists", .alreadyExists)
  | 21 => ("Is a directory", .isADirectory)
  | 22 => ("Invalid argument", .invalidInput)
  | 32 => ("Broken pipe", .brokenPipe)
  | 98 => ("Address already in use", .addrInUse)
  | 99 => ("Cannot assign requested address", .addrNotAvailable)
  | 100 => ("Network is down", .networkDown)
  | 101 => ("Network is unreachable", .networkUnreachable)
  | 103 => ("Software caused connection abort", .connectionAborted)
  | 104 => ("Connection reset by peer", .connectionReset)
  | 107 => ("Transport endpoint is not connected", .notConnected)
  | 110 => ("Connection timed out", .timedOut)
  | 111 => ("Connection refused", .connectionRefused)
  | 113 => ("No route to host", .hostUnreachable)
  | n => ("Unknown error " ++ toString n, .uncategorized)

/-- The sort of a fault; an error number counts as its kind. -/
def kind : Fault → FaultKind
  | plain k => k
  | custom k _ => k
  | errno n => (errnoEntry n).2

/-- What a fault says. -/
def message : Fault → String
  | plain k => k.description
  | custom _ text => text
  | errno n => (errnoEntry n).1 ++ " (os error " ++ toString n ++ ")"

/-- The answer of a call on a socket that has nothing more to give or take. -/
def wouldBlock : Fault := errno 11

/-- The answer of a poll with no room for events, and of other calls with a
    senseless argument. -/
def invalidArgument : Fault := errno 22

end Fault

end LineChat
