import LineChat.Session.Connection

/-!
# The Chat Client

One connection to a chat server.

A client is connected once. Bytes that are fed to it are queued and go out when
the socket is ready, or at the latest when a wait for readiness has given
nothing. When the connection has ended the client is closed for good and says
why; the messages that came before stay to be taken.

Every operation gives the record of the calls on the socket along.

## Main definitions

* `ClientConfig`: Limits of a client.
* `Dialler`: How the system answers attempts to connect.
* `Client`: Configuration, connection and received messages.
* `Client.connect`, `Client.update`, `Client.feed`, `Client.pop`: Operations.
-/

namespace LineChat

/-- The number under which events tell of the socket of a client. -/
def clientToken : Nat := 1

/-- Limits of a client. -/
structure ClientConfig where
  /-- The limit of each record that comes in and of the queue that goes out. -/
  maxBuffer : Nat
  /-- How many events one batch has room for. -/
  eventCapacity : Nat
  deriving DecidableEq, Repr

namespace ClientConfig

/-- The limits when none are given. -/
def standard : ClientConfig := ⟨defaultLimit, 1⟩

/-- The limits as a developer sees them. -/
def text (c : ClientConfig) : String :=
  "ClientConfig \x7b max_buffer_size: " ++ toString c.maxBuffer ++ ", event_capacity: "
    ++ toString c.eventCapacity ++ " \x7d"

end ClientConfig

/-- How the system answers when a client connects. -/
structure Dialler where
  /-- Looks up host names. -/
  names : Directory
  /-- Sets up waiting for readiness. -/
  prepare : Except Fault Unit
  /-- Starts a connection to an address. -/
  dial : SocketAddress → Except Fault Socket

/-- A chat client. -/
structure Client where
  config : ClientConfig
  /-- The connection, from connecting until its end. -/
  connection : Option Connection
  /-- Messages that were not handed out yet, oldest first. -/
  messages : List Message
  /-- The connection has ended. -/
  ended : Bool

namespace Client

/-- A client that is not connected yet. -/
def ofConfig (config : ClientConfig) : Client := ⟨config, none, [], false⟩

/-- The result of an operation on a client. -/
structure Outcome where
  answer : Except SessionError Unit
  client : Client
  calls : List SocketCall

/-- Starts a connection to the first address for which a socket can be had.
    `last` is the failure of the address before. -/
def dialFirst (d : Dialler) (limit : Nat) (last : SessionError) :
    List SocketAddress → Except SessionError Connection
  | [] => .error last
  | address :: addresses =>
    match d.dial address with
    | .error fault => dialFirst d limit (.ofLink (.connect address fault)) addresses
    | .ok socket =>
      match Connection.dialled socket address clientToken limit with
      | .error fault => .error (.ofLink (.poll fault))
      | .ok c => .ok c

/-- Starts to connect to a target. -/
def connect (c : Client) (d : Dialler) (target : String) : Outcome :=
  if c.connection.isSome || c.ended then ⟨.error .alreadyStarted, c, []⟩
  else
    match resolve d.names target with
    | .error e => ⟨.error (.ofLink e), c, []⟩
    | .ok addresses =>
      match d.prepare with
      | .error fault => ⟨.error (.ofLink (.poll fault)), c, []⟩
      | .ok () =>
        match dialFirst d c.config.maxBuffer (.badAddress target) addresses with
        | .error e => ⟨.error e, c, []⟩
        | .ok connection =>
          ⟨.ok (), { c with connection := some connection }, [.watch .both (.ok ())]⟩

/-- The socket has other answers, if some are given. -/
def equip (c : Client) (socket : Option Socket) : Client :=
  { c with connection := c.connection.map (·.equip socket) }

/-- The address of the server. -/
def peerAddress? (c : Client) : Option SocketAddress := c.connection.map (·.address)

/-- How far the connection has come. -/
def state? (c : Client) : Option ConnectionState :=
  if c.ended then some .removed else c.connection.map (·.state)

/-- The connection has ended: it is released, and the client closed for good.
    The calls come behind those that were made before. -/
def shutDown (c : Client) (connection : Connection) (before : List SocketCall) :
    Client × List SocketCall :=
  ({ c with connection := none, ended := true }, before ++ connection.release.2)

/-- Handles the events of a batch, one after the other. -/
def handleAll : List Event → Connection → Connection.Received
  | [], connection => ⟨connection, [], []⟩
  | e :: es, connection =>
    let first := connection.markOpen.handle e
    let more := handleAll es first.connection
    ⟨more.connection, first.messages ++ more.messages, first.calls ++ more.calls⟩

/-- Deals with how a wait for readiness has ended. -/
def advance (outcome : WaitOutcome) (connection : Connection) : Connection.Received :=
  match outcome with
  | .ready e es => handleAll (e :: es) connection
  | .timeout =>
    if connection.state = .opened && 0 < connection.pendingOutput then
      let flushed := connection.flushReady
      ⟨flushed.1, [], flushed.2⟩
    else ⟨connection, [], []⟩

/-- Deals with what a wait for readiness has given. -/
def update (c : Client) (wait : WaitAnswer) : Outcome :=
  if c.ended then ⟨.error .closed, c, []⟩
  else
    match c.connection with
    | none => ⟨.error .notStarted, c, []⟩
    | some connection =>
      match waitOutcome wait with
      | .error fault => ⟨.error (.ofLink (.poll fault)), c, []⟩
      | .ok outcome =>
        let received := advance outcome connection
        let c := { c with
          connection := some received.connection
          messages := c.messages ++ received.messages }
        if received.connection.isActive then
          ⟨match outcome with
            | .timeout => .error .timeout
            | .ready _ _ => .ok (), c, received.calls⟩
        else
          let down := c.shutDown received.connection received.calls
          ⟨.error received.connection.cause, down.1, down.2⟩

/-- Queues bytes for the server, exactly as they are. -/
def feed (c : Client) (data : ByteArray) : Outcome :=
  if c.ended then ⟨.error .closed, c, []⟩
  else
    match c.connection with
    | none => ⟨.error .notStarted, c, []⟩
    | some connection =>
      if data.size = 0 then ⟨.ok (), c, []⟩
      else
        let queued := connection.queueBytes data
        match queued.refusal with
        | none => ⟨.ok (), { c with connection := some queued.connection }, queued.calls⟩
        | some e =>
          let down := c.shutDown queued.connection queued.calls
          ⟨.error (.ofLine e), down.1, down.2⟩

/-- The oldest message that was not handed out yet. -/
def pop (c : Client) : Option Message × Client :=
  match c.messages with
  | [] => (none, c)
  | m :: ms => (some m, { c with messages := ms })

/-- What the client is waiting for. -/
def pendingEvents (c : Client) : PendingEvents :=
  match c.connection with
  | none => .none
  | some connection => ⟨true, 0 < connection.pendingOutput⟩

/-- Whether there is something that readiness can be waited for on. -/
def hasDescriptor (c : Client) : Bool := c.connection.isSome

/-- The client as a developer sees it. -/
def text (c : Client) : String :=
  let address := match c.peerAddress? with
    | none => "None"
    | some a => "Some(" ++ a.text ++ ")"
  let state := match c.state? with
    | none => "None"
    | some s => "Some(" ++ s.text ++ ")"
  "ChatClient \x7b peer_addr: " ++ address ++ ", state: " ++ state ++ ", queued_messages: "
    ++ toString c.messages.length ++ " \x7d"

end Client

end LineChat
