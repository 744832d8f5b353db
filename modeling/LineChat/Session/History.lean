import LineChat.Session.Client
import LineChat.Session.Server

/-!
# Histories

What becomes of a connection, a server or a client over many operations.

An operation is given together with the answers that the system has for the
calls it makes. A history is the list of them, and what it comes to is the
state at its end together with the whole record: calls on sockets, deeds of a
server, messages that were handed out. A statement about every run is one about
every such list.

## Main definitions

* `ConnectionStep`, `Connection.runAll`: Histories of a connection.
* `ServerRequest`, `ServerHistory.serveAll`: Histories of a server.
* `ClientRequest`, `ClientHistory.serveAll`: Histories of a client.

## Theorems

* `serveAll_append`: A history of a server in two parts.
-/

namespace LineChat

/-! ## Connections -/

/-- An operation on a connection. -/
inductive ConnectionStep
  | markOpen
  | close
  | readReady
  | flushReady
  | queueMessage (m : Message)
  | queueBytes (data : ByteArray)
  | release

namespace Connection

/-- One operation on a connection whose socket has the given answers. -/
def run (c : Connection) (socket : Socket) (step : ConnectionStep) : Received :=
  let c := c.equip (some socket)
  match step with
  | .markOpen => ⟨c.markOpen, [], []⟩
  | .close => ⟨c.close, [], []⟩
  | .readReady => c.readReady
  | .flushReady => ⟨c.flushReady.1, [], c.flushReady.2⟩
  | .queueMessage m => ⟨(c.queueMessage m).connection, [], (c.queueMessage m).calls⟩
  | .queueBytes data => ⟨(c.queueBytes data).connection, [], (c.queueBytes data).calls⟩
  | .release => ⟨c.release.1, [], c.release.2⟩

/-- Operations one after the other. -/
def runAll : List (Socket × ConnectionStep) → Connection → Received
  | [], c => ⟨c, [], []⟩
  | s :: steps, c =>
    let first := c.run s.1 s.2
    let more := runAll steps first.connection
    ⟨more.connection, first.messages ++ more.messages, first.calls ++ more.calls⟩

end Connection

/-! ## Servers -/

/-- An operation on a server, with what the system answers meanwhile. -/
inductive ServerRequest
  /-- An update: what the listener gives, the sockets, and the wait. -/
  | update (arrivals : List AcceptAnswer) (sockets : PeerId → Option Socket) (wait : WaitAnswer)
  /-- Bytes of the server's own, and the sockets. -/
  | feed (data : ByteArray) (sockets : PeerId → Option Socket)
  /-- The oldest message is handed out. -/
  | pop

/-- What has become of a server. -/
structure ServerHistory where
  server : Server
  /-- All that it has done. -/
  deeds : List Deed
  /-- The messages that were handed out, oldest first. -/
  popped : List Message

namespace ServerHistory

/-- A server at the start of its history. -/
def start (s : Server) : ServerHistory := ⟨s, [], []⟩

/-- One operation. -/
def serve (h : ServerHistory) : ServerRequest → ServerHistory
  | .update arrivals sockets wait =>
    let o := (h.server.equip arrivals sockets).update wait
    { h with server := o.server, deeds := h.deeds ++ o.deeds }
  | .feed data sockets =>
    let o := (h.server.equip [] sockets).feed data
    { h with server := o.server, deeds := h.deeds ++ o.deeds }
  | .pop =>
    match h.server.pop with
    | (none, s) => { h with server := s }
    | (some m, s) => { h with server := s, popped := h.popped ++ [m] }

/-- Operations one after the other. -/
def serveAll (requests : List ServerRequest) (h : ServerHistory) : ServerHistory :=
  requests.foldl serve h

theorem serveAll_append (a b : List ServerRequest) (h : ServerHistory) :
    serveAll (a ++ b) h = serveAll b (serveAll a h) := by
  simp [serveAll, List.foldl_append]

end ServerHistory

/-! ## Clients -/

/-- An operation on a client, with what the system answers meanwhile. -/
inductive ClientRequest
  | connect (dialler : Dialler) (target : String)
  | update (socket : Socket) (wait : WaitAnswer)
  | feed (socket : Socket) (data : ByteArray)
  /-- The oldest message is handed out. -/
  | pop

/-- What has become of a client. -/
structure ClientHistory where
  client : Client
  /-- The calls on its socket. -/
  calls : List SocketCall
  /-- What the operations answered, oldest first. -/
  answers : List (Except SessionError Unit)
  /-- The bytes of all calls that queued something. -/
  queued : ByteArray
  /-- The messages that were handed out, oldest first. -/
  popped : List Message

namespace ClientHistory

/-- A client at the start of its history. -/
def start (c : Client) : ClientHistory := ⟨c, [], [], ByteArray.empty, []⟩

/-- An operation has come to an outcome. -/
def note (h : ClientHistory) (o : Client.Outcome) : ClientHistory :=
  { h with client := o.client, calls := h.calls ++ o.calls, answers := h.answers ++ [o.answer] }

/-- One operation. -/
def serve (h : ClientHistory) : ClientRequest → ClientHistory
  | .connect dialler target => h.note (h.client.connect dialler target)
  | .update socket wait => h.note ((h.client.equip (some socket)).update wait)
  | .feed socket data =>
    let o := (h.client.equip (some socket)).feed data
    { h.note o with queued := match o.answer with
        | .ok () => h.queued ++ data
        | .error _ => h.queued }
  | .pop =>
    match h.client.pop with
    | (none, c) => { h with client := c }
    | (some m, c) => { h with client := c, popped := h.popped ++ [m] }

/-- Operations one after the other. -/
def serveAll (requests : List ClientRequest) (h : ClientHistory) : ClientHistory :=
  requests.foldl serve h

end ClientHistory

end LineChat
