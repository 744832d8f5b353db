import LineChat.Line.Encoding
import LineChat.Line.Framer
import LineChat.Readiness.Event
import LineChat.Session.Error
import LineChat.Session.Socket

/-!
# Connections

One socket together with the stream that comes in, the bytes that wait to go
out, and its registration.

A connection moves through its states in one direction only. While it is
connecting or open it is *active*. The first fault, the end of the stream, a
record that is too long or a queue that is full makes it *closing*: from then
on the socket is not touched, and at the end of the batch the connection is
released. A release gives up the registration and drops what was buffered.

Readiness is told of once per change, so reading and writing go on until the
socket would block. The interest in writing follows the queue: it is registered
when bytes are queued and given up when the queue has run dry.

Every operation gives the connection afterwards and the record of the calls
that it made.

## Main definitions

* `ConnectionState`: The four states.
* `Connection`: A socket and what belongs to it.
* `Connection.readReady`, `Connection.flushReady`: Input and output.
* `Connection.queueMessage`, `Connection.queueBytes`: Queueing output.
* `Connection.release`: The end.
-/

namespace LineChat

/-- The most bytes that one read call on a connection asks for. -/
def connectionChunk : Nat := 1024

/-- How far a connection has come. -/
inductive ConnectionState
  /-- It is not known yet whether the other side answers. -/
  | connecting
  /-- Bytes go both ways. -/
  | opened
  /-- Nothing is read or written any more. -/
  | closing
  /-- It has been released. -/
  | removed
  deriving DecidableEq, Repr

namespace ConnectionState

/-- Bytes may still be read and written. -/
def isActive : ConnectionState → Bool
  | connecting => true
  | opened => true
  | closing => false
  | removed => false

/-- The position of a state in the life of a connection. -/
def rank : ConnectionState → Nat
  | connecting => 0
  | opened => 1
  | closing => 2
  | removed => 3

/-- The state as a developer sees it. -/
def text : ConnectionState → String
  | connecting => "Connecting"
  | opened => "Open"
  | closing => "Closing"
  | removed => "Removed"

end ConnectionState

/-- One socket with what belongs to it. -/
structure Connection where
  socket : Socket
  /-- The address of the other side. -/
  address : SocketAddress
  /-- The stream that comes in. -/
  inbound : Framer
  /-- The bytes that wait to go out. -/
  outbound : Buffer
  /-- The registration, until the connection is released. -/
  registration : Option Registration
  state : ConnectionState
  /-- The first fault that was met. -/
  failure : Option Fault

namespace Connection

/-- A socket becomes a connection by being registered. -/
def register (s : Socket) (address : SocketAddress) (token : Nat) (interest : Interest)
    (state : ConnectionState) (limit : Nat) : Except Fault Connection :=
  match s.watch with
  | (.error fault, _) => .error fault
  | (.ok (), s) => .ok {
      socket := s
      address := address
      inbound := Framer.ofLimit limit
      outbound := Buffer.empty limit
      registration := some ⟨token, interest⟩
      state := state
      failure := none }

/-- The connection of a socket that a listener has accepted. -/
def accepted (s : Socket) (address : SocketAddress) (token limit : Nat) :
    Except Fault Connection :=
  register s address token .readable .opened limit

/-- The connection of a socket that is still connecting. -/
def dialled (s : Socket) (address : SocketAddress) (token limit : Nat) :
    Except Fault Connection :=
  register s address token .both .connecting limit

/-- The connection on a socket that has other answers, if one is given. -/
def equip (c : Connection) : Option Socket → Connection
  | none => c
  | some s => { c with socket := s }

/-- Bytes may still be read and written. -/
def isActive (c : Connection) : Bool := c.state.isActive

/-- The number of bytes that wait to go out. -/
def pendingOutput (c : Connection) : Nat := c.outbound.size

/-- The other side has answered. -/
def markOpen (c : Connection) : Connection :=
  if c.state = .connecting then { c with state := .opened } else c

/-- No more is read or written. -/
def close (c : Connection) : Connection :=
  if c.isActive then { c with state := .closing } else c

/-- A fault ends the connection; the first one is kept. -/
def fail (c : Connection) (fault : Fault) : Connection :=
  { c with failure := c.failure.or (some fault) }.close

/-- Asks for an interest; the connection ends if the system refuses it. -/
def setInterest (c : Connection) (interest : Interest) : Connection × List SocketCall :=
  match c.registration with
  | none => (c, [])
  | some r =>
    let change := r.setInterest c.socket interest
    let c := { c with registration := some change.registration, socket := change.socket }
    match change.answer with
    | .ok _ => (c, change.calls)
    | .error _ => (c.close, change.calls)

/-- The input side of a connection after reading: the connection, the messages
    that came in, and the calls. -/
structure Received where
  connection : Connection
  messages : List Message
  calls : List SocketCall

/-- Reads as long as the connection is active and the answers last. -/
def readFrom : List ReadAnswer → Connection → Received
  | [], c =>
    if c.isActive then ⟨{ c with socket := { c.socket with reads := [] } }, [],
      [.read (.error .wouldBlock)]⟩
    else ⟨{ c with socket := { c.socket with reads := [] } }, [], []⟩
  | answer :: later, c =>
    if c.isActive then
      let stop (c : Connection) (messages : List Message) : Received :=
        ⟨{ c with socket := { c.socket with reads := later } }, messages, [.read answer]⟩
      let goOn (c : Connection) (messages : List Message) : Received :=
        let more := readFrom later c
        ⟨more.connection, messages ++ more.messages, .read answer :: more.calls⟩
      match answer with
      | .error fault =>
        -- Only a socket that would block tells of the next input again.
        if fault.kind = .wouldBlock then stop c []
        else if fault.kind = .interrupted then goOn c []
        else goOn (c.fail fault) []
      | .ok data =>
        if data.size = 0 then goOn c.close []
        else
          let fed := c.inbound.feed data
          let c := { c with inbound := fed.framer }
          match fed.refusal with
          -- The messages before the record that was too long still count.
          | some _ => goOn c.close fed.messages.toList
          | none => goOn c fed.messages.toList
    else ⟨{ c with socket := { c.socket with reads := answer :: later } }, [], []⟩

/-- Reads until the socket would block. -/
def readReady (c : Connection) : Received := readFrom c.socket.reads c

/-- Writes as long as the connection is active, bytes are queued and the answers
    last. -/
def flushFrom : List (Except Fault Nat) → Connection → Connection × List SocketCall
  | [], c =>
    let c' := { c with socket := { c.socket with writes := [] } }
    if c.isActive && !c.outbound.isEmpty then
      (c', [.write c.outbound.bytes (.error .wouldBlock)])
    else (c', [])
  | answer :: later, c =>
    if c.isActive && !c.outbound.isEmpty then
      match answer with
      | .error fault =>
        let call := SocketCall.write c.outbound.bytes (.error fault)
        if fault.kind = .wouldBlock then
          ({ c with socket := { c.socket with writes := later } }, [call])
        else
          let more := flushFrom later (if fault.kind = .interrupted then c else c.fail fault)
          (more.1, call :: more.2)
      | .ok n =>
        let taken := min n c.outbound.size
        let call := SocketCall.write c.outbound.bytes (.ok taken)
        let more := flushFrom later
          (if taken = 0 then c.close else { c with outbound := c.outbound.consume taken })
        (more.1, call :: more.2)
    else ({ c with socket := { c.socket with writes := answer :: later } }, [])

/-- Writes what is queued until nothing is left or the socket would block. With
    nothing left, readiness to write is of no interest any more. -/
def flushReady (c : Connection) : Connection × List SocketCall :=
  let flushed := flushFrom c.socket.writes c
  if flushed.1.isActive && flushed.1.outbound.isEmpty then
    let set := flushed.1.setInterest .readable
    (set.1, flushed.2 ++ set.2)
  else flushed

/-- The result of queueing output. -/
structure Queued where
  connection : Connection
  calls : List SocketCall
  refusal : Option LineError

/-- Queues a message as one line. A message that does not fit ends the
    connection. -/
def queueMessage (c : Connection) (m : Message) : Queued :=
  match c.outbound.appendLine m.bytes with
  | .error e => ⟨c.close, [], some e⟩
  | .ok appended =>
    let wasEmpty := c.outbound.isEmpty
    let c := { c with outbound := appended.getD c.outbound }
    if wasEmpty then
      let set := c.setInterest .both
      ⟨set.1, set.2, none⟩
    else ⟨c, [], none⟩

/-- Queues bytes as they are. Bytes that do not fit end the connection. -/
def queueBytes (c : Connection) (data : ByteArray) : Queued :=
  match c.outbound.append data with
  | .error o => ⟨c.close, [], some (.overflow o)⟩
  | .ok outbound =>
    let set := { c with outbound := outbound }.setInterest .both
    ⟨set.1, set.2, none⟩

/-- Handles one event: reads, writes, and ends the connection on an error or a
    hangup. -/
def handle (c : Connection) (e : Event) : Received :=
  let received : Received :=
    if e.readable || e.hangup || e.error then c.readReady else ⟨c, [], []⟩
  let flushed :=
    if e.writable then received.connection.flushReady else (received.connection, [])
  let c := if e.error || e.hangup then flushed.1.close else flushed.1
  ⟨c, received.messages, received.calls ++ flushed.2⟩

/-- Gives up the registration and drops both buffers. Only the first release
    does anything. -/
def release (c : Connection) : Connection × List SocketCall :=
  match c.registration with
  | none => (c, [])
  | some _ =>
    ({ c with
      registration := none
      inbound := c.inbound.reset
      outbound := c.outbound.clear
      state := .removed }, [.unwatch])

/-- Why the connection has ended: the fault that was met, or the one that the
    socket remembers, or else that it was closed. -/
def cause (c : Connection) : SessionError :=
  match c.failure.or c.socket.remembered with
  | some fault => .system fault
  | none => .closed

end Connection

end LineChat
