import LineChat.Loopback.Endpoint

/-!
# A Network Inside One Host

Listeners on ports, and connections between their diallers and acceptors.

Delivery is immediate: what one end writes waits at the other. A connection is
there as soon as it is dialled, and waits at its listener until it is accepted.
A listener may also be clogged; a connection to it never comes about. On a port
without a listener the dialler's end is broken from the start.

The interface may be down. Listening goes on as before, and nothing can be
dialled.

Whoever watches an end learns of it by the changes that every operation lists.

## Main definitions

* `EndId`, `Source`: Names of ends, and of what can be watched.
* `Network`: The connections and the listeners.
* `Moved`: A network after an operation, with the changes.
* `Network.listen`, `Network.dial`, `Network.accept`: Setting up connections.
* `Network.deliver`, `Network.consume`: Writing and reading.
* `Network.finish`, `Network.close`, `Network.abort`: Ending them.
-/

namespace LineChat

/-- The two ends of a connection. -/
inductive Side
  | dialler
  | acceptor
  deriving DecidableEq, Repr

/-- The other end. -/
def Side.other : Side → Side
  | dialler => acceptor
  | acceptor => dialler

/-- The name of an end: its connection, counted from zero, and its side. -/
structure EndId where
  connection : Nat
  side : Side
  deriving DecidableEq, Repr

/-- The other end of the same connection. -/
def EndId.other (id : EndId) : EndId := ⟨id.connection, id.side.other⟩

/-- Something that a poller can watch. -/
inductive Source
  | listener (port : UInt16)
  | stream (id : EndId)
  deriving DecidableEq, Repr

/-- A connection. -/
structure Circuit where
  dialler : Endpoint
  acceptor : Endpoint
  /-- The port that the dialler was given. -/
  origin : UInt16
  /-- The other side has answered. -/
  established : Bool

/-- The end on a side. -/
def Circuit.endpoint (c : Circuit) : Side → Endpoint
  | .dialler => c.dialler
  | .acceptor => c.acceptor

/-- The end on a side changes. -/
def Circuit.update (c : Circuit) (side : Side) (f : Endpoint → Endpoint) : Circuit :=
  match side with
  | .dialler => { c with dialler := f c.dialler }
  | .acceptor => { c with acceptor := f c.acceptor }

/-- Someone listens on a port. -/
structure Listener where
  port : UInt16
  /-- No connection to it ever comes about. -/
  clogged : Bool
  /-- The connections that were not accepted yet, oldest first. -/
  backlog : List Nat

/-- The connections and listeners of a host. -/
structure Network where
  /-- The interface is up. -/
  up : Bool
  circuits : Array Circuit
  listeners : List Listener
  /-- The next port to give to one who asks for any. -/
  nextPort : UInt16

/-- A network after an operation, with what has changed for those who watch. -/
structure Moved where
  network : Network
  changes : List (Source × Change)

namespace Network

/-- The first port that is given to one who asks for any. -/
def firstPort : UInt16 := 49152

/-- A network without connections. -/
def idle (up : Bool) : Network := ⟨up, #[], [], firstPort⟩

/-- The address of a port inside the host. -/
def localAddress (port : UInt16) : SocketAddress := .v4 ⟨127, 0, 0, 1⟩ port

/-- The address of a listener that takes connections to any address of the
    host. -/
def anyAddress (port : UInt16) : SocketAddress := .v4 ⟨0, 0, 0, 0⟩ port

/-- The listener on a port. -/
def listener? (n : Network) (port : UInt16) : Option Listener :=
  n.listeners.find? (·.port = port)

/-- An end of a connection. -/
def endpoint (n : Network) (id : EndId) : Endpoint :=
  match n.circuits[id.connection]? with
  | some c => c.endpoint id.side
  | none => Endpoint.fresh

/-- An end changes. -/
def update (n : Network) (id : EndId) (f : Endpoint → Endpoint) : Network :=
  { n with circuits := n.circuits.modify id.connection (·.update id.side f) }

/-- The room for what an end writes. -/
def roomFor (n : Network) (id : EndId) : Nat := (n.endpoint id.other).room

/-- The socket of an end. -/
def socket (n : Network) (id : EndId) : Socket := (n.endpoint id).socket (n.roomFor id)

/-- The other side of a connection has answered, or it is known that it never
    will. -/
def isSettled (n : Network) (id : EndId) : Bool :=
  match n.circuits[id.connection]? with
  | some c => c.established || (c.endpoint id.side).broken
  | none => false

/-- What holds of something that can be watched. -/
def condition (n : Network) : Source → Condition
  | .listener port =>
    let waits := match n.listener? port with
      | some l => !l.backlog.isEmpty
      | none => false
    ⟨waits, false, false, false, false⟩
  | .stream id =>
    if n.isSettled id then (n.endpoint id).condition (n.roomFor id)
    else ⟨false, false, false, false, false⟩

/-- Starts to listen on a port, or on any free one. -/
def listen (n : Network) (port? : Option UInt16) (clogged : Bool) :
    Except Fault (UInt16 × Network) :=
  let port := port?.getD n.nextPort
  match n.listener? port with
  | some _ => .error (.errno 98)
  | none => .ok (port, { n with
      listeners := n.listeners ++ [⟨port, clogged, []⟩]
      nextPort := if port = n.nextPort then n.nextPort + 1 else n.nextPort })

/-- Whether an address can be dialled. -/
def reach (n : Network) : SocketAddress → Except Fault Unit
  | .v4 ip _ =>
    if n.up && (ip.a = 127 || ip = ⟨0, 0, 0, 0⟩) then .ok () else .error (.errno 101)
  | .v6 _ _ _ => .error (.errno 99)

/-- Dials a port of the host. -/
def dial (n : Network) (port : UInt16) : EndId × Moved :=
  let k := n.circuits.size
  let add (dialler : Endpoint) (established : Bool) : Network :=
    { n with
      circuits := n.circuits.push ⟨dialler, Endpoint.fresh, n.nextPort, established⟩
      nextPort := n.nextPort + 1 }
  (⟨k, .dialler⟩,
    match n.listener? port with
    | none => ⟨add (Endpoint.fresh.breakOff (.errno 111)) false, []⟩
    | some l =>
      if l.clogged then ⟨add Endpoint.fresh false, []⟩
      else
        let n := add Endpoint.fresh true
        ⟨{ n with listeners := n.listeners.map fun l =>
            if l.port = port then { l with backlog := l.backlog ++ [k] } else l },
          [(.listener port, .input)]⟩)

/-- Accepts the oldest connection that waits at a port. -/
def accept (n : Network) (port : UInt16) : Option (EndId × Network) :=
  match n.listener? port with
  | none => none
  | some l =>
    match l.backlog with
    | [] => none
    | k :: later => some (⟨k, .acceptor⟩, { n with
        listeners := n.listeners.map fun l =>
          if l.port = port then { l with backlog := later } else l })

/-- The addresses of the diallers whose connections wait at a port. -/
def waitingAt (n : Network) (port : UInt16) : List SocketAddress :=
  match n.listener? port with
  | none => []
  | some l => l.backlog.filterMap fun k => n.circuits[k]?.map fun c => localAddress c.origin

/-- An end hears that the connection is broken off. -/
def breakOff (n : Network) (id : EndId) : Moved :=
  if (n.endpoint id).closed || (n.endpoint id).broken then ⟨n, []⟩
  else ⟨n.update id (·.breakOff (.errno 104)), [(.stream id, .state)]⟩

/-- An end hears that the other one writes nothing more. -/
def hearEnd (n : Network) (id : EndId) : Moved :=
  if (n.endpoint id).closed || (n.endpoint id).broken then ⟨n, []⟩
  else ⟨n.update id ({ · with ended := true }), [(.stream id, .state)]⟩

/-- What an end writes arrives at the other one. If nobody is there any more the
    connection is broken off. -/
def deliver (n : Network) (id : EndId) (data : ByteArray) : Moved :=
  let e := n.endpoint id
  if e.closed || e.shut || e.broken || data.size = 0 then ⟨n, []⟩
  else if (n.endpoint id.other).closed then n.breakOff id
  else
    ⟨n.update id.other (·.receive data), [(.stream id.other, .input)]⟩

/-- The owner of an end could not write. -/
def block (n : Network) (id : EndId) : Network := n.update id ({ · with blocked := true })

/-- The first `size` bytes that wait at an end are read, which makes room for
    more. -/
def consume (n : Network) (id : EndId) (size : Nat) : Moved :=
  let n := n.update id (·.consume size)
  if 0 < size && (n.endpoint id.other).blocked then
    ⟨n.update id.other ({ · with blocked := false }), [(.stream id.other, .output)]⟩
  else ⟨n, []⟩

/-- The fault of an end was told to its owner. -/
def clearFault (n : Network) (id : EndId) : Network := n.update id ({ · with fault := none })

/-- An end writes nothing more. -/
def finish (n : Network) (id : EndId) : Moved :=
  if (n.endpoint id).shut || (n.endpoint id).closed then ⟨n, []⟩
  else (n.update id ({ · with shut := true })).hearEnd id.other

/-- The owner of an end gives it up. -/
def release (n : Network) (id : EndId) : Network := n.update id (·.release)

/-- An end is given up and the connection broken off. -/
def abort (n : Network) (id : EndId) : Moved :=
  if (n.endpoint id).closed then ⟨n, []⟩ else (n.release id).breakOff id.other

/-- An end is given up. If something waits there that nobody will read, the
    connection is broken off. -/
def close (n : Network) (id : EndId) : Moved :=
  let e := n.endpoint id
  if e.closed then ⟨n, []⟩
  else if e.broken then ⟨n.release id, []⟩
  else if 0 < e.unreadSize then n.abort id
  else (n.release id).hearEnd id.other

/-- Breaks off connections that nobody has accepted. -/
def abortAll : List Nat → Network → Moved
  | [], n => ⟨n, []⟩
  | k :: ks, n =>
    let first := n.abort ⟨k, .acceptor⟩
    let more := abortAll ks first.network
    ⟨more.network, first.changes ++ more.changes⟩

/-- Stops listening on a port. -/
def closeListener (n : Network) (port : UInt16) : Moved :=
  match n.listener? port with
  | none => ⟨n, []⟩
  | some l => abortAll l.backlog { n with listeners := n.listeners.filter (·.port ≠ port) }

end Network

end LineChat
