import LineChat.Fault

/-!
# Readiness Events

What waiting for readiness gives.

An event names what was registered by its token and says what holds of it. A
hangup means that the other side will send nothing more, whether or not it
still takes something.

Waiting ends with events, without any because the time is up, or with a fault.
A wait that a signal interrupts counts as one whose time is up.

## Main definitions

* `Event`: What holds of one registered source.
* `WaitOutcome`: How a wait ends, if it does not fail.
* `waitOutcome`: The outcome of an answer of the system.
-/

namespace LineChat

/-- What is to be told about one registered source. -/
structure Event where
  /-- The number under which the source is registered. -/
  token : Nat
  /-- There is something to read, or the end. -/
  readable : Bool
  /-- There is room to write. -/
  writable : Bool
  /-- The other side sends nothing more. -/
  hangup : Bool
  /-- The source has failed. -/
  error : Bool
  deriving DecidableEq, Repr

/-- What the system answers to a wait: events or a fault. -/
abbrev WaitAnswer := Except Fault (List Event)

/-- How a wait ends. -/
inductive WaitOutcome
  /-- There are events, oldest first. -/
  | ready (first : Event) (more : List Event)
  /-- The time is up. -/
  | timeout
  deriving DecidableEq, Repr

/-- The outcome of an answer to a wait. -/
def waitOutcome : WaitAnswer → Except Fault WaitOutcome
  | .error fault => if fault.kind = .interrupted then .ok .timeout else .error fault
  | .ok [] => .ok .timeout
  | .ok (e :: es) => .ok (.ready e es)

end LineChat
