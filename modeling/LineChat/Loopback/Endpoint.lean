import LineChat.Readiness.Poller
import LineChat.Session.Connection

/-!
# Ends of Connections

One of the two ends of a connection inside one host.

Bytes that the other end has written wait here until they are read, and there
is room for a fixed number of them. The other end may say that it writes nothing
more; then reading gives what waits and after that the end of the stream. It may
also break the connection off. Then reading gives what waits and after that a
fault, once, unless the stream had ended before.

An end answers the calls on a socket, so everything that a socket is asked for
between two looks at the network can be foretold. `Endpoint.socket` does that.

## Main definitions

* `Endpoint`: The state of an end.
* `Endpoint.condition`: What readiness a poller may tell of.
* `Endpoint.socket`: The answers to the coming calls on its socket.
* `pieces`: A byte string cut into pieces of one size.
-/

namespace LineChat

/-- The most bytes that may wait at one end of a connection: 6 MiB. -/
def endpointRoom : Nat := 6 * 1024 * 1024

/-- A byte string cut into pieces of `n` bytes, the last of which may be
    shorter. -/
def pieces (n : Nat) (b : ByteArray) : List ByteArray :=
  (List.range ((b.size + n - 1) / n)).map fun i => b.extract (i * n) (i * n + n)

/-- One end of a connection. -/
structure Endpoint where
  /-- What the other end has written. It is kept until all of it was read. -/
  arrived : ByteArray
  /-- How much of that was read. -/
  taken : Nat
  /-- The other end writes nothing more. -/
  ended : Bool
  /-- This end writes nothing more. -/
  shut : Bool
  /-- The connection was broken off or never came about. -/
  broken : Bool
  /-- The fault that the next call gives. -/
  fault : Option Fault
  /-- The owner has given it up. -/
  closed : Bool
  /-- The owner could not write and waits for room. -/
  blocked : Bool

namespace Endpoint

/-- An end of a new connection. -/
def fresh : Endpoint := ⟨ByteArray.empty, 0, false, false, false, none, false, false⟩

instance : Inhabited Endpoint := ⟨fresh⟩

/-- What waits to be read. -/
def unread (e : Endpoint) : ByteArray := e.arrived.extract e.taken e.arrived.size

/-- How much waits to be read. -/
def unreadSize (e : Endpoint) : Nat := e.arrived.size - e.taken

/-- How many more bytes may wait here. -/
def room (e : Endpoint) : Nat := endpointRoom - e.unreadSize

/-- Bytes arrive behind those that wait. -/
def receive (e : Endpoint) (data : ByteArray) : Endpoint :=
  if e.taken = 0 then { e with arrived := e.arrived ++ data }
  else { e with arrived := e.unread ++ data, taken := 0 }

/-- The first `size` bytes that wait are read. -/
def consume (e : Endpoint) (size : Nat) : Endpoint :=
  if e.unreadSize ≤ size then { e with arrived := ByteArray.empty, taken := 0 }
  else { e with taken := e.taken + size }

/-- The owner gives this end up, with all that waits. -/
def release (e : Endpoint) : Endpoint :=
  { e with arrived := ByteArray.empty, taken := 0, shut := true, closed := true }

/-- The connection is broken off: the next call gives `fault`, or what a stream
    that has ended gives. -/
def breakOff (e : Endpoint) (fault : Fault) : Endpoint :=
  { e with broken := true, fault := some (if e.ended then .errno 32 else fault) }

/-- What holds of this end, if there is `room` at the other. -/
def condition (e : Endpoint) (room : Nat) : Condition :=
  { readable := 0 < e.unreadSize || e.ended || e.broken
    writable := 0 < room || e.shut || e.broken
    readClosed := e.ended || e.broken
    closed := (e.ended && e.shut) || e.broken
    error := e.fault.isSome }

/-- What the coming read calls give. -/
def reads (e : Endpoint) : List ReadAnswer :=
  (pieces connectionChunk e.unread).map .ok
    ++ (if e.ended then [.ok ByteArray.empty]
      else match e.fault with
        | some fault => [.error fault]
        | none => [])

/-- What the coming write calls give, if there is `room` at the other end. -/
def writes (e : Endpoint) (room : Nat) : List (Except Fault Nat) :=
  match e.fault with
  | some fault => [.error fault]
  | none => if 0 < room then [.ok room] else []

/-- The answers to the coming calls, if there is `room` at the other end. -/
def socket (e : Endpoint) (room : Nat) : Socket :=
  { reads := e.reads
    writes := e.writes room
    watches := []
    remembered := if e.ended then e.fault else none }

end Endpoint

end LineChat
