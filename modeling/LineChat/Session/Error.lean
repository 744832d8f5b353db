import LineChat.Address.Target
import LineChat.Line.Error

/-!
# Errors of Sessions

What the operations of a server or a client answer when they fail.

Failures of the layers below become faults of the system: a refused line gets
a kind that fits it and keeps its text. A bad target keeps its reason but is
its own error, because it is the user who has to mend it.

## Main definitions

* `SessionError`: The failures.
* `SessionError.message`: Their texts.
* `SessionError.closed`: The connection is gone.
* `SessionError.ofLink`, `SessionError.ofLine`: From the layers below.
-/

namespace LineChat

/-- Failures of the operations of a server or a client. -/
inductive SessionError
  /-- Neither listening nor connected yet. -/
  | notStarted
  /-- Listening or connected already. -/
  | alreadyStarted
  /-- The target is no address. -/
  | badAddress (text : String)
  /-- The system failed, or the connection is gone. -/
  | system (fault : Fault)
  /-- Another program listens on the port. -/
  | portBusy (port : UInt16)
  /-- Nothing happened in time. -/
  | timeout
  /-- There is no such thing here. -/
  | notImplemented (what : String)
  deriving DecidableEq, Repr

namespace SessionError

/-- What a failure says. -/
def message : SessionError → String
  | notStarted => "not started"
  | alreadyStarted => "already started"
  | badAddress text => "bad address: " ++ text
  | system fault => "system error: " ++ fault.message
  | portBusy port => "port " ++ toString port.toNat ++ " is busy"
  | timeout => "timed out"
  | notImplemented what => "not implemented: " ++ what

/-- The connection is gone. -/
def closed : SessionError := system (.custom .connectionAborted "connection closed")

/-- A failure to set up or watch a connection. -/
def ofLink : LinkError → SessionError
  | .badAddress target reason => badAddress (target ++ ": " ++ reason)
  | .bind _ fault => system fault
  | .connect _ fault => system fault
  | .accept fault => system fault
  | .poll fault => system fault
  | .io fault => system fault

/-- A refused line. -/
def ofLine (e : LineError) : SessionError :=
  match e with
  | .io fault => system fault
  | .overflow _ => system (.custom .outOfMemory e.message)
  | .embeddedNewline => system (.custom .invalidInput e.message)
  | .emptyMessage => system (.custom .invalidInput e.message)
  | .closed => system (.custom .unexpectedEnd e.message)

/-- Only the time was up. -/
def isTimeout (e : SessionError) : Bool := e == timeout

end SessionError

end LineChat
