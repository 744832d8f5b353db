/-!
# Interest and Pending Events

What an owner of a socket wants to be told about.

An `Interest` is what is registered for a socket; it is never empty. A
`PendingEvents` is a summary of what an engine is waiting for, for callers that
wait themselves; it may be empty, and then there is nothing to register.

## Main definitions

* `Interest`: Readiness to read, to write, or both.
* `PendingEvents`: A set of input and output.
* `PendingEvents.interest?`: The interest that a summary stands for.
-/

namespace LineChat

/-- The readiness that is asked for. -/
inductive Interest
  | readable
  | writable
  | both
  deriving DecidableEq, Repr

namespace Interest

/-- Readiness to read is asked for. -/
def reads : Interest → Bool
  | readable => true
  | writable => false
  | both => true

/-- Readiness to write is asked for. -/
def writes : Interest → Bool
  | readable => false
  | writable => true
  | both => true

end Interest

/-- What an engine is waiting for. -/
structure PendingEvents where
  /-- Data or connections may come in. -/
  input : Bool
  /-- Output is queued. -/
  output : Bool
  deriving DecidableEq, Repr

namespace PendingEvents

/-- Nothing is waited for. -/
def none : PendingEvents := ⟨false, false⟩

/-- Only input is waited for. -/
def inputOnly : PendingEvents := ⟨true, false⟩

/-- Only output is waited for. -/
def outputOnly : PendingEvents := ⟨false, true⟩

instance : Inhabited PendingEvents := ⟨none⟩

/-- What either summary waits for. -/
def union (a b : PendingEvents) : PendingEvents := ⟨a.input || b.input, a.output || b.output⟩

/-- Everything that `b` waits for is waited for. -/
def contains (a b : PendingEvents) : Bool := (a.input || !b.input) && (a.output || !b.output)

/-- Nothing is waited for. -/
def isEmpty (a : PendingEvents) : Bool := !a.input && !a.output

/-- The interest to register, if there is any. -/
def interest? (a : PendingEvents) : Option Interest :=
  match a.input, a.output with
  | true, true => some .both
  | true, false => some .readable
  | false, true => some .writable
  | false, false => Option.none

/-- The summary as a developer sees it. -/
def text (a : PendingEvents) : String :=
  match a.input, a.output with
  | true, true => "INPUT | OUTPUT"
  | true, false => "INPUT"
  | false, true => "OUTPUT"
  | false, false => "NONE"

end PendingEvents

end LineChat
