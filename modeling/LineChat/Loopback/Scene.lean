import LineChat.Loopback.Network
import LineChat.Session.Client
import LineChat.Session.Server

/-!
# Engines on a Network

A server, clients, bare peers and bare listeners that share one network.

The engines do not know the network. Before an engine is asked for something,
its sockets are given the answers that the network is going to give; afterwards
what the engine did is read off its record and done to the network, in the same
order. Nothing else happens in between, so the foretold answers are the right
ones.

Each engine has a poller of its own, and whatever changes in the network is told
to all of them.

## Main definitions

* `Engine`: The engines by name.
* `Scene`: Everything that takes part.
* `Scene.call`, `Scene.perform`: What an engine did, done to the network.
* `Scene.serverListen`, `Scene.serverUpdate`, `Scene.serverFeed`
* `Scene.clientConnect`, `Scene.clientUpdate`, `Scene.clientFeed`
* `Scene.open?`, `Scene.send`, `Scene.receive`: Bare peers.
* `Scene.pump`, `Scene.drain`: Running the engines until nothing happens.
-/

namespace LineChat

/-- The engines by name. -/
inductive Engine
  | server
  | client (name : String)
  deriving DecidableEq, Repr

/-- What takes part in a network. -/
structure Scene where
  network : Network
  server : Option Server
  /-- The ends of the server's peers. -/
  seats : List (PeerId × EndId)
  /-- The clients, in the order of their names. -/
  clients : List (String × Client)
  /-- The ends of connected clients. -/
  lines : List (String × EndId)
  /-- The pollers of the engines. -/
  pollers : List (Engine × Poller Source)
  /-- The ends of bare peers. -/
  peers : List (String × EndId)
  /-- The ports of bare listeners. -/
  listeners : List (String × UInt16)

/-- The value under a key, the newest one first. -/
def lookUp {α β : Type} [DecidableEq α] (xs : List (α × β)) (key : α) : Option β :=
  (xs.find? (·.1 = key)).map (·.2)

/-- The value under a key is another one from now on. -/
def putUnder {α β : Type} [DecidableEq α] (xs : List (α × β)) (key : α) (value : β) :
    List (α × β) :=
  if xs.any (·.1 = key) then xs.map fun x => if x.1 = key then (key, value) else x
  else xs ++ [(key, value)]

namespace Scene

/-- A network without anyone on it, except a server that does not listen yet. -/
def start (up : Bool) (server : Option ServerConfig) : Scene :=
  { network := Network.idle up
    server := server.map Server.ofConfig
    seats := []
    clients := []
    lines := []
    pollers := []
    peers := []
    listeners := [] }

/-! ## The network and the pollers -/

/-- The poller of an engine. -/
def pollerOf (s : Scene) (who : Engine) : Poller Source :=
  (lookUp s.pollers who).getD Poller.empty

/-- The poller of an engine changes. -/
def setPoller (s : Scene) (who : Engine) (p : Poller Source) : Scene :=
  { s with pollers := putUnder s.pollers who p }

/-- Something has moved in the network; whoever watches is told. -/
def move (s : Scene) (m : Moved) : Scene :=
  { s with
    network := m.network
    pollers := s.pollers.map fun p =>
      (p.1, m.changes.foldl (fun poller c => poller.notify c.1 c.2) p.2) }

/-- An engine watches a source, or changes what it is interested in. -/
def watch (s : Scene) (who : Engine) (source : Source) (token : Nat) (interest : Interest) :
    Scene :=
  let p := s.pollerOf who
  let now := s.network.condition source
  let watched := match p.find? source with
    | none => p.register source token interest now
    | some _ => p.reregister source token interest now
  s.setPoller who (watched.toOption.getD p)

/-- An engine waits for readiness. -/
def wait (s : Scene) (who : Engine) (capacity : Nat) : WaitAnswer × Scene :=
  match (s.pollerOf who).wait capacity s.network.condition with
  | .error fault => (.error fault, s)
  | .ok (events, poller) => (.ok events, s.setPoller who poller)

/-- An engine has made a call on the socket of an end. -/
def call (s : Scene) (who : Engine) (token : Nat) (id : EndId) : SocketCall → Scene
  | .read (.ok data) => s.move (s.network.consume id data.size)
  | .read (.error fault) =>
    if fault.kind = .wouldBlock then s else { s with network := s.network.clearFault id }
  | .write offered (.ok n) => s.move (s.network.deliver id (offered.extract 0 n))
  | .write _ (.error fault) =>
    { s with network :=
        if fault.kind = .wouldBlock then s.network.block id else s.network.clearFault id }
  | .watch interest (.ok ()) => s.watch who (.stream id) token interest
  | .watch _ (.error _) => s
  | .unwatch =>
    s.setPoller who (((s.pollerOf who).deregister (.stream id)).toOption.getD (s.pollerOf who))

/-! ## The server -/

/-- The server has accepted the connection that waited longest: its end. -/
def acceptAt (s : Scene) (port : UInt16) : Option (EndId × Scene) :=
  (s.network.accept port).map fun (id, network) => (id, { s with network := network })

/-- A connection that waited longest at the server is given up. -/
def dropNext (s : Scene) (port : UInt16) : Scene :=
  match s.acceptAt port with
  | none => s
  | some (id, s) => s.move (s.network.close id)

/-- The server, which listens on `port`, has done a deed. -/
def perform (port : UInt16) (s : Scene) : Deed → Scene
  | .joined id _ =>
    match s.acceptAt port with
    | none => s
    | some (e, s) => { s with seats := (id, e) :: s.seats }
  | .turnedAway _ => s.dropNext port
  | .notRegistered _ _ _ => s.dropNext port
  | .acceptFault _ => s
  | .called id c =>
    match lookUp s.seats id with
    | none => s
    | some e => s.call .server id.token e c
  | .framed _ _ => s
  | .left id =>
    match lookUp s.seats id with
    | none => s
    | some e =>
      let s := s.move (s.network.close e)
      { s with seats := s.seats.filter (·.1 ≠ id) }

/-- The server's sockets answer as the network is going to. -/
def equipServer (s : Scene) (server : Server) : Server :=
  let arrivals := match server.localAddress? with
    | none => []
    | some a => (s.network.waitingAt a.port).map fun origin => .ok (Socket.idle, origin)
  server.equip arrivals fun id => (lookUp s.seats id).map s.network.socket

/-- The server has become another one by an operation. -/
def takeServer (s : Scene) (outcome : Server.Outcome) : Except SessionError Unit × Scene :=
  let s := { s with server := some outcome.server }
  match outcome.server.listening with
  | none => (outcome.answer, s)
  | some l => (outcome.answer, outcome.deeds.foldl (perform l.address.port) s)

/-- The server starts to listen on a port, or on any free one. -/
def serverListen (s : Scene) (server : Server) (port? : Option UInt16) :
    Except SessionError Unit × Scene :=
  match s.network.listen port? false with
  | .error fault =>
    let port := port?.getD 0
    let result := server.listen port (.error (.bind (Network.anyAddress port) fault))
    (result.1, { s with server := some result.2 })
  | .ok (port, network) =>
    let result := server.listen (port?.getD 0) (.ok (Network.anyAddress port, []))
    match result.1 with
    | .error e => (.error e, { s with server := some result.2 })
    | .ok () =>
      let s := { s with network := network, server := some result.2 }
      (.ok (), s.watch .server (.listener port) listenerToken .readable)

/-- One update of the server. -/
def serverUpdate (s : Scene) (server : Server) : Except SessionError Unit × Scene :=
  if server.listening.isSome then
    let server := s.equipServer server
    -- The answers are foretold before the wait: a wait moves nothing in the network.
    let (answer, s) := s.wait .server server.config.eventCapacity
    s.takeServer (server.update answer)
  else s.takeServer (server.update (.ok []))

/-- A line of the server's own. -/
def serverFeed (s : Scene) (server : Server) (data : ByteArray) :
    Except SessionError Unit × Scene :=
  s.takeServer ((s.equipServer server).feed data)

/-! ## The clients -/

/-- A client changes, or comes in. -/
def setClient (s : Scene) (name : String) (c : Client) : Scene :=
  if s.clients.any (·.1 = name) then { s with clients := putUnder s.clients name c }
  else
    { s with
      clients := s.clients.takeWhile (·.1 < name) ++ (name, c) ::
        s.clients.dropWhile (·.1 < name) }

/-- A new client comes in, in place of another one of its name. -/
def addClient (s : Scene) (name : String) (config : ClientConfig) : Scene :=
  let s := match lookUp s.lines name with
    | none => s
    | some e => s.move (s.network.close e)
  { s with
    lines := s.lines.filter (·.1 ≠ name)
    pollers := s.pollers.filter (·.1 ≠ Engine.client name) }.setClient name (Client.ofConfig config)

/-- The socket of a client answers as the network is going to. -/
def equipClient (s : Scene) (name : String) (c : Client) : Client :=
  c.equip ((lookUp s.lines name).map s.network.socket)

/-- A client has become another one by an operation. -/
def takeClient (s : Scene) (name : String) (outcome : Client.Outcome) :
    Except SessionError Unit × Scene :=
  let s := s.setClient name outcome.client
  match lookUp s.lines name with
  | none => (outcome.answer, s)
  | some e =>
    let s := outcome.calls.foldl (fun s c => s.call (.client name) clientToken e c) s
    (outcome.answer,
      if outcome.client.ended then
        let s := s.move (s.network.close e)
        { s with lines := s.lines.filter (·.1 ≠ name) }
      else s)

/-- How the network answers when a client connects. -/
def dialler (s : Scene) : Dialler :=
  { names := Directory.none
    prepare := .ok ()
    dial := fun address => (s.network.reach address).map fun _ => Socket.idle }

/-- A client starts to connect. -/
def clientConnect (s : Scene) (name : String) (c : Client) (target : String) :
    Except SessionError Unit × Scene :=
  let outcome := c.connect s.dialler target
  match outcome.answer, outcome.client.peerAddress? with
  | .ok (), some address =>
    let (e, moved) := s.network.dial address.port
    let s := s.move moved
    { s with lines := (name, e) :: s.lines }.takeClient name outcome
  | _, _ => s.takeClient name { outcome with calls := [] }

/-- One update of a client. -/
def clientUpdate (s : Scene) (name : String) (c : Client) : Except SessionError Unit × Scene :=
  let c := s.equipClient name c
  if c.connection.isSome then
    let (answer, s) := s.wait (.client name) c.config.eventCapacity
    s.takeClient name (c.update answer)
  else s.takeClient name (c.update (.ok []))

/-- A client queues bytes. -/
def clientFeed (s : Scene) (name : String) (c : Client) (data : ByteArray) :
    Except SessionError Unit × Scene :=
  s.takeClient name ((s.equipClient name c).feed data)

/-! ## Bare peers and listeners -/

/-- A bare peer is another one from now on. -/
def setPeer (s : Scene) (name : String) (id : EndId) : Scene :=
  { s with peers := (name, id) :: s.peers }

/-- A bare peer connects to a port. -/
def open? (s : Scene) (name : String) (port : UInt16) : Except Fault Scene :=
  match s.network.reach (Network.localAddress port) with
  | .error fault => .error fault
  | .ok () =>
    let (id, moved) := s.network.dial port
    match (moved.network.endpoint id).fault with
    | some fault => .error fault
    | none => .ok ((s.move moved).setPeer name id)

/-- A bare listener comes in. One that is to be clogged needs a connection for
    that. -/
def openListener (s : Scene) (name : String) (clogged : Bool) : Except Fault Scene :=
  match s.network.listen none clogged with
  | .error fault => .error fault
  | .ok (port, network) =>
    let next : Scene := { s with network := network, listeners := (name, port) :: s.listeners }
    if clogged then (network.reach (Network.localAddress port)).map fun _ => next else .ok next

/-- A bare listener goes. -/
def closeListener (s : Scene) (port : UInt16) : Scene := s.move (s.network.closeListener port)

/-- A bare listener accepts a connection, which becomes a bare peer. -/
def acceptPeer (s : Scene) (name : String) (port : UInt16) : Option Scene :=
  (s.acceptAt port).map fun (id, s) => s.setPeer name id

/-- A bare peer writes. -/
def send (s : Scene) (id : EndId) (data : ByteArray) : Scene := s.move (s.network.deliver id data)

/-- A bare peer writes nothing more. -/
def shut (s : Scene) (id : EndId) : Scene := s.move (s.network.finish id)

/-- A bare peer is closed. -/
def close (s : Scene) (id : EndId) : Scene := s.move (s.network.close id)

/-- A bare peer breaks its connection off. -/
def reset (s : Scene) (id : EndId) : Scene := s.move (s.network.abort id)

/-- The other side of a bare peer will send nothing more. -/
def isOver (s : Scene) (id : EndId) : Bool :=
  (s.network.endpoint id).ended || (s.network.endpoint id).broken

/-- A bare peer reads what waits, but at most `limit` bytes. -/
def receiveUpTo (s : Scene) (id : EndId) (limit : Nat) : ByteArray × Scene :=
  let e := s.network.endpoint id
  let size := min limit e.unreadSize
  (e.unread.extract 0 size, s.move (s.network.consume id size))

/-- A bare peer reads all that waits. -/
def receive (s : Scene) (id : EndId) : ByteArray × Scene :=
  s.receiveUpTo id (s.network.endpoint id).unreadSize

/-! ## Running the engines -/

/-- One round of updates: whether anything has happened, and the errors. -/
structure Round where
  scene : Scene
  progress : Bool
  errors : List (String × SessionError)

/-- An engine was updated in a round. -/
def Round.note (r : Round) (name : String) (ended : Bool)
    (updated : Except SessionError Unit × Scene) : Round :=
  match updated.1 with
  | .ok () => { r with scene := updated.2, progress := true }
  | .error e =>
    { scene := updated.2
      progress := r.progress || ended
      errors := if e.isTimeout then r.errors else r.errors ++ [(name, e)] }

/-- Whether a client is connected or connecting. -/
def isLive (c : Client) : Bool := c.connection.isSome && !c.ended

/-- Updates the server, if it listens. -/
def roundOfServer (s : Scene) : Round :=
  let r : Round := ⟨s, false, []⟩
  match s.server with
  | none => r
  | some server =>
    if server.listening.isSome then r.note "server" false (s.serverUpdate server) else r

/-- Updates the live clients of the given names. -/
def roundOfClients : List String → Round → Round
  | [], r => r
  | name :: names, r =>
    match lookUp r.scene.clients name with
    | none => roundOfClients names r
    | some c =>
      if isLive c then
        let updated := r.scene.clientUpdate name c
        let ended := match lookUp updated.2.clients name with
          | none => false
          | some c => c.ended
        roundOfClients names (r.note name ended updated)
      else roundOfClients names r

/-- Updates the server and then every live client, in the order of their
    names. -/
def round (s : Scene) : Round := roundOfClients (s.clients.map (·.1)) s.roundOfServer

/-- Errors behind earlier ones: the first of each name counts. -/
def firstErrors (earlier later : List (String × SessionError)) : List (String × SessionError) :=
  earlier ++ later.filter fun e => !(earlier.any (·.1 = e.1))

/-- Rounds of updates as long as something happens, at most `fuel` of them.
    `before` is what earlier rounds have come to. -/
def pumpFor : (fuel : Nat) → (before : Round) → Round
  | 0, before => before
  | fuel + 1, before =>
    let r := before.scene.round
    let after : Round :=
      ⟨r.scene, before.progress || r.progress, firstErrors before.errors r.errors⟩
    if r.progress then pumpFor fuel after else after

/-- More rounds than any exchange takes. -/
def pumpRounds : Nat := 10000000

/-- Rounds of updates until nothing happens any more: whether anything has
    happened, and the first error of each engine. -/
def pump (s : Scene) : Round := pumpFor pumpRounds ⟨s, false, []⟩

/-- Runs the engines and reads a bare peer in turns, at most `fuel` of them: the
    bytes that were read. -/
def drainFor : (fuel : Nat) → Scene → EndId → ByteArray → ByteArray × Scene
  | 0, s, _, read => (read, s)
  | fuel + 1, s, id, read =>
    let r := s.pump
    let got := r.scene.receive id
    let read := read ++ got.1
    if r.progress || 0 < got.1.size then drainFor fuel got.2 id read else (read, got.2)

/-- Runs the engines and reads a bare peer until nothing moves. -/
def drain (s : Scene) (id : EndId) : ByteArray × Scene :=
  drainFor pumpRounds s id ByteArray.empty

end Scene

end LineChat
