import LineChat.Address.Target
import LineChat.Readiness.Poller
import LineChat.Session.Socket

/-!
# Watched Socket Pairs

Connected pairs of local sockets whose right ends are watched by one poller.

What is written to a left end can be read from the right end at once. A left end
may stop writing, or be closed, which is a hangup in both directions. Right ends
are never written to, so there is always room in them.

A right end is registered through a `Registration`, which then keeps the
interest; so asking again for the same interest does not reach the poller.

## Main definitions

* `Pair`: One pair of sockets.
* `PairBench`: The pairs, by name, and their poller.
* `PairBench.register`, `PairBench.setInterest`, `PairBench.deregister`
* `PairBench.write`, `PairBench.shut`, `PairBench.close`, `PairBench.read`
* `PairBench.wait`: The events of the next batch.
-/

namespace LineChat

/-- A pair of connected sockets. -/
structure Pair where
  /-- What was written on the left and not yet read on the right. -/
  unread : ByteArray
  /-- The left end writes nothing more. -/
  ended : Bool
  /-- The left end is closed. -/
  closed : Bool
  /-- The registration of the right end. -/
  registration : Option Registration

namespace Pair

/-- A new pair. -/
def fresh : Pair := ⟨ByteArray.empty, false, false, none⟩

/-- What holds of the right end. -/
def condition (p : Pair) : Condition :=
  { readable := 0 < p.unread.size || p.ended
    writable := true
    readClosed := p.ended
    closed := p.closed
    error := false }

end Pair

/-- Pairs of sockets by name, and the poller of their right ends. -/
structure PairBench where
  pairs : List (String × Pair)
  poller : Poller String

namespace PairBench

/-- No pairs. -/
def empty : PairBench := ⟨[], Poller.empty⟩

/-- The pair of a name; a pair that was never made is a new one. -/
def pair (b : PairBench) (name : String) : Pair :=
  ((b.pairs.find? (·.1 == name)).map (·.2)).getD Pair.fresh

/-- The pair of a name changes. -/
def setPair (b : PairBench) (name : String) (p : Pair) : PairBench :=
  { b with pairs := (name, p) :: b.pairs.filter (·.1 != name) }

/-- Makes a pair. -/
def create (b : PairBench) (name : String) : PairBench := b.setPair name Pair.fresh

/-- Registers a right end. -/
def register (b : PairBench) (name : String) (token : Nat) (interest : Interest) :
    Except Fault PairBench :=
  let p := b.pair name
  match b.poller.register name token interest p.condition with
  | .error fault => .error fault
  | .ok poller =>
    .ok ({ b with poller := poller }.setPair name { p with registration := some ⟨token, interest⟩ })

/-- Asks for another interest in a right end: whether the registration changed,
    and the registration. Nothing if the end is not registered. -/
def setInterest (b : PairBench) (name : String) (interest : Interest) :
    Option (Except Fault (Bool × Registration) × PairBench) :=
  let p := b.pair name
  p.registration.map fun r =>
    let reregistered := b.poller.reregister name r.token interest p.condition
    let socket := { Socket.idle with watches := [reregistered.map fun _ => ()] }
    let change := r.setInterest socket interest
    let poller := if change.calls.isEmpty then b.poller else (reregistered.toOption).getD b.poller
    let b := { b with poller := poller }.setPair name
      { p with registration := some change.registration }
    (change.answer.map fun changed => (changed, change.registration), b)

/-- Gives up the registration of a right end. -/
def deregister (b : PairBench) (name : String) : Except Fault PairBench :=
  match b.poller.deregister name with
  | .error fault => .error fault
  | .ok poller =>
    .ok ({ b with poller := poller }.setPair name { b.pair name with registration := none })

/-- Writes to a left end: the number of bytes taken. -/
def write (b : PairBench) (name : String) (data : ByteArray) : Except Fault Nat × PairBench :=
  let p := b.pair name
  if p.ended then (.error (.errno 32), b)
  else
    let b := b.setPair name { p with unread := p.unread ++ data }
    (.ok data.size,
      if data.size = 0 then b else { b with poller := b.poller.notify name .input })

/-- A left end stops writing. -/
def shut (b : PairBench) (name : String) : PairBench :=
  let b := b.setPair name { b.pair name with ended := true }
  { b with poller := b.poller.notify name .state }

/-- A left end is closed. -/
def close (b : PairBench) (name : String) : PairBench :=
  let b := b.setPair name { b.pair name with ended := true, closed := true }
  { b with poller := b.poller.notify name .state }

/-- Reads up to `n` bytes from a right end: none at the end of the stream. -/
def read (b : PairBench) (name : String) (n : Nat) : ReadAnswer × PairBench :=
  let p := b.pair name
  if p.unread.size = 0 ∧ !p.ended then (.error .wouldBlock, b)
  else
    let size := min n p.unread.size
    (.ok (p.unread.extract 0 size),
      b.setPair name { p with unread := p.unread.extract size p.unread.size })

/-- Waits for readiness with room for `capacity` events. -/
def wait (b : PairBench) (capacity : Nat) : Except LinkError WaitOutcome × PairBench :=
  match b.poller.wait capacity fun name => (b.pair name).condition with
  | .error fault => (.error (.poll fault), b)
  | .ok (events, poller) =>
    let b := { b with poller := poller }
    match waitOutcome (.ok events) with
    | .error fault => (.error (.poll fault), b)
    | .ok outcome => (.ok outcome, b)

end PairBench

end LineChat
