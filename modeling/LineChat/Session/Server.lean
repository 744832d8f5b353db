import LineChat.Session.Registry

/-!
# The Chat Server

Accepts peers and relays every line that one of them sends to all the others.

All work is done in batches: a wait for readiness gives events, and each is
dealt with in turn. An event of the listener accepts every connection that
waits. An event of a peer reads its messages; each is relayed to the other
peers before the next event is looked at, so all peers receive all messages in
one order. Peers that have ended are taken out when the batch is over, and
their faults are not the server's.

A line of the server's own goes to every peer. Its bytes are framed like those
of a peer.

What the server does to the outside, and the order in which it frames messages,
is told by a record of deeds that every operation gives along.

## Main definitions

* `ServerConfig`: Limits of a server.
* `AcceptAnswer`: What a listener gives.
* `Deed`: What the server has done.
* `Server`: Configuration, listener, peers and received messages.
* `Server.listen`, `Server.update`, `Server.feed`, `Server.pop`: Operations.
-/

namespace LineChat

/-- The number under which events tell of the listener. -/
def listenerToken : Nat := 0

/-- Limits of a server. -/
structure ServerConfig where
  /-- Connections beyond this number are closed at once. -/
  maxPeers : Nat
  /-- The limit of each record that comes in and of each queue that goes out. -/
  maxBuffer : Nat
  /-- How many events one batch has room for. -/
  eventCapacity : Nat
  deriving DecidableEq, Repr

namespace ServerConfig

/-- The limits when none are given. -/
def standard : ServerConfig := ⟨100, defaultLimit, 30⟩

/-- The limits as a developer sees them. -/
def text (c : ServerConfig) : String :=
  "ServerConfig \x7b max_peers: " ++ toString c.maxPeers ++ ", max_buffer_size: "
    ++ toString c.maxBuffer ++ ", event_capacity: " ++ toString c.eventCapacity ++ " \x7d"

end ServerConfig

/-- What a listener gives: the socket of a connection and the address of its
    other side, or a fault. -/
abbrev AcceptAnswer := Except Fault (Socket × SocketAddress)

/-- Something that the server has done. -/
inductive Deed
  /-- A connection was accepted and is a peer from now on. -/
  | joined (id : PeerId) (address : SocketAddress)
  /-- A connection was accepted and closed at once: there was no place. -/
  | turnedAway (address : SocketAddress)
  /-- A connection was accepted and lost: it could not be registered. -/
  | notRegistered (id : PeerId) (address : SocketAddress) (fault : Fault)
  /-- The listener gave a fault. -/
  | acceptFault (fault : Fault)
  /-- A call was made on the socket of a peer. -/
  | called (id : PeerId) (call : SocketCall)
  /-- A message was framed: from a peer, or one of the server's own. -/
  | framed (sender : Option PeerId) (message : Message)
  /-- A peer was taken out. -/
  | left (id : PeerId)

/-- What a server has while it is listening. -/
structure Listening where
  /-- What the listener is going to give. -/
  arrivals : List AcceptAnswer
  /-- The address that is listened on. -/
  address : SocketAddress
  registry : Registry

/-- A chat server. -/
structure Server where
  config : ServerConfig
  listening : Option Listening
  /-- Messages from peers that were not handed out yet, oldest first. -/
  messages : List Message
  /-- The framer of the server's own lines. -/
  outgoing : Framer

/-- The registry after a step, with the record of the deeds. -/
structure Served where
  registry : Registry
  deeds : List Deed

/-- The result of accepting what waits. -/
structure Accepted where
  registry : Registry
  /-- What the listener is still going to give. -/
  arrivals : List AcceptAnswer
  deeds : List Deed
  /-- The fault of the listener, if it was one that does not go away. -/
  fault : Option Fault

/-- Accepts until the listener has nothing more to give. Faults that belong to
    one connection are passed over. -/
def acceptAll (maxBuffer : Nat) : List AcceptAnswer → Registry → Accepted
  | [], r => ⟨r, [], [], none⟩
  | .error fault :: later, r =>
    match fault.kind with
    | .wouldBlock => ⟨r, later, [], none⟩
    | .interrupted | .connectionAborted | .connectionReset =>
      let more := acceptAll maxBuffer later r
      { more with deeds := .acceptFault fault :: more.deeds }
    | _ => ⟨r, later, [.acceptFault fault], some fault⟩
  | .ok (socket, address) :: later, r =>
    if r.isFull then
      let more := acceptAll maxBuffer later r
      { more with deeds := .turnedAway address :: more.deeds }
    else
      let (id, r) := r.allocate
      match Connection.accepted socket address id.token maxBuffer with
      | .error fault =>
        let more := acceptAll maxBuffer later r
        { more with deeds := .notRegistered id address fault :: more.deeds }
      | .ok c =>
        let more := acceptAll maxBuffer later (r.insert id c)
        { more with
          deeds := .joined id address :: .called id (.watch .readable (.ok ())) :: more.deeds }

/-- Marks a peer if it has ended. -/
def Registry.markEnded (r : Registry) (id : PeerId) (c : Connection) : Registry :=
  if c.isActive then r else r.mark id

/-- Queues a message on every active peer but its sender, in the order of their
    numbers. A peer that cannot take it is marked; the others still get it. -/
def fanOutTo (sender : Option PeerId) (m : Message) : List Peer → Registry → Served
  | [], r => ⟨r, []⟩
  | p :: peers, r =>
    if some p.id = sender || !p.connection.isActive then fanOutTo sender m peers r
    else
      -- The list was taken before the first message was queued, and queueing changes
      -- no peer but its own, so `p` is still what the registry has.
      let queued := p.connection.queueMessage m
      let r := (r.set p.id queued.connection).markEnded p.id queued.connection
      let more := fanOutTo sender m peers r
      ⟨more.registry, queued.calls.map (.called p.id) ++ more.deeds⟩

/-- Relays a message to every active peer but its sender. -/
def fanOut (sender : Option PeerId) (m : Message) (r : Registry) : Served :=
  fanOutTo sender m r.peers r

/-- Relays messages one after the other. -/
def fanOutAll (sender : Option PeerId) : List Message → Registry → Served
  | [], r => ⟨r, []⟩
  | m :: ms, r =>
    let first := fanOut sender m r
    let more := fanOutAll sender ms first.registry
    ⟨more.registry, first.deeds ++ more.deeds⟩

/-- Handles an event of a peer: the messages that came in, and the peers
    afterwards. Events of peers that are gone or have ended are nothing. -/
def dispatch (e : Event) (r : Registry) : List Message × Served :=
  let id := PeerId.ofToken e.token
  match r.get? id with
  | none => ([], ⟨r, []⟩)
  | some c =>
    if c.isActive then
      let received := c.handle e
      (received.messages,
        ⟨(r.set id received.connection).markEnded id received.connection,
          received.calls.map (.called id) ++ received.messages.map (.framed (some id))⟩)
    else ([], ⟨r, []⟩)

/-- Takes the marked peers out and releases each. -/
def releaseMarked : List PeerId → Registry → Served
  | [], r => ⟨r, []⟩
  | id :: ids, r =>
    match r.get? id with
    | none => releaseMarked ids r
    | some c =>
      let more := releaseMarked ids (r.erase id)
      ⟨more.registry, c.release.2.map (.called id) ++ .left id :: more.deeds⟩

/-- Ends a batch: takes out every marked peer. -/
def removeMarked (r : Registry) : Served :=
  releaseMarked r.marked { r with marked := [] }

/-- The state of a batch: the peers, the listener, the messages from peers in
    the order in which they were framed, the deeds, and the last fault of the
    listener. -/
structure Batch where
  registry : Registry
  arrivals : List AcceptAnswer
  messages : List Message
  deeds : List Deed
  fault : Option Fault

/-- Deals with one event of a batch. -/
def Batch.step (maxBuffer : Nat) (b : Batch) (e : Event) : Batch :=
  if e.token = listenerToken then
    let accepted := acceptAll maxBuffer b.arrivals b.registry
    { b with
      registry := accepted.registry
      arrivals := accepted.arrivals
      deeds := b.deeds ++ accepted.deeds
      fault := accepted.fault.or b.fault }
  else
    let (messages, served) := dispatch e b.registry
    let relayed := fanOutAll (some (PeerId.ofToken e.token)) messages served.registry
    { b with
      registry := relayed.registry
      messages := b.messages ++ messages
      deeds := b.deeds ++ served.deeds ++ relayed.deeds }

namespace Server

/-- A server that does not listen yet. -/
def ofConfig (config : ServerConfig) : Server :=
  ⟨config, none, [], Framer.ofLimit config.maxBuffer⟩

/-- Starts to listen on a port. The system answers with the address it bound
    and what the listener is going to give. -/
def listen (s : Server) (port : UInt16)
    (answer : Except LinkError (SocketAddress × List AcceptAnswer)) :
    Except SessionError Unit × Server :=
  match s.listening with
  | some _ => (.error .alreadyStarted, s)
  | none =>
    match answer with
    | .error (.bind address fault) =>
      (.error (if fault.kind = .addrInUse then .portBusy port
        else .ofLink (.bind address fault)), s)
    | .error e => (.error (.ofLink e), s)
    | .ok (address, arrivals) =>
      (.ok (), { s with listening := some ⟨arrivals, address, Registry.empty s.config.maxPeers⟩ })

/-- The listener and the sockets of the peers have other answers. -/
def equip (s : Server) (arrivals : List AcceptAnswer) (sockets : PeerId → Option Socket) :
    Server :=
  { s with listening := s.listening.map fun l =>
      { l with arrivals := arrivals, registry := l.registry.equip sockets } }

/-- The address that is listened on. -/
def localAddress? (s : Server) : Option SocketAddress := s.listening.map (·.address)

/-- The number of peers. -/
def peerCount (s : Server) : Nat :=
  match s.listening with
  | none => 0
  | some l => l.registry.size

/-- The result of an operation on a server. -/
structure Outcome where
  answer : Except SessionError Unit
  server : Server
  deeds : List Deed

/-- Deals with a batch of events. -/
def dispatchBatch (s : Server) (l : Listening) (events : List Event) : Outcome :=
  let start : Batch := ⟨l.registry, l.arrivals, [], [], none⟩
  let b := events.foldl (Batch.step s.config.maxBuffer) start
  let removed := removeMarked b.registry
  { answer := match b.fault with
      | none => .ok ()
      | some fault => .error (.ofLink (.accept fault))
    server := { s with
      listening := some { l with registry := removed.registry, arrivals := b.arrivals }
      messages := s.messages ++ b.messages }
    deeds := b.deeds ++ removed.deeds }

/-- Deals with what a wait for readiness has given. -/
def update (s : Server) (wait : WaitAnswer) : Outcome :=
  match s.listening with
  | none => ⟨.error .notStarted, s, []⟩
  | some l =>
    match waitOutcome wait with
    | .error fault => ⟨.error (.ofLink (.poll fault)), s, []⟩
    | .ok .timeout => ⟨.error .timeout, s, []⟩
    | .ok (.ready e es) => s.dispatchBatch l (e :: es)

/-- The oldest message from a peer that was not handed out yet. -/
def pop (s : Server) : Option Message × Server :=
  match s.messages with
  | [] => (none, s)
  | m :: ms => (some m, { s with messages := ms })

/-- Sends lines of the server's own to every peer. What follows the last newline
    is kept for the next call. -/
def feed (s : Server) (data : ByteArray) : Outcome :=
  match s.listening with
  | none => ⟨.error .notStarted, s, []⟩
  | some l =>
    let fed := s.outgoing.feed data
    let relayed := fanOutAll none fed.messages.toList l.registry
    { answer := match fed.refusal with
        | none => .ok ()
        | some o => .error (.ofLine (.overflow o))
      server := { s with
        listening := some { l with registry := relayed.registry }
        outgoing := fed.framer }
      deeds := fed.messages.toList.map (.framed none) ++ relayed.deeds }

/-- What the server is waiting for. -/
def pendingEvents (s : Server) : PendingEvents :=
  match s.listening with
  | none => .none
  | some l => ⟨true, l.registry.hasPendingOutput⟩

/-- Whether there is something that readiness can be waited for on. -/
def hasDescriptor (s : Server) : Bool := s.listening.isSome

/-- The server as a developer sees it. -/
def text (s : Server) : String :=
  let address := match s.localAddress? with
    | none => "None"
    | some a => "Some(" ++ a.text ++ ")"
  "ChatServer \x7b local_addr: " ++ address ++ ", peers: " ++ toString s.peerCount
    ++ ", queued_messages: " ++ toString s.messages.length ++ " \x7d"

end Server

end LineChat
