import LineChat.Proofs.Session.Account
import LineChat.Proofs.Session.Intake
import LineChat.Proofs.Session.Relay
import Mathlib.Logic.Relation

/-!
# A Conversation

One server and any number of clients, joined by byte streams.

A `Room` is a server and a seat for each client. A seat holds the client, the
bytes that are under way in either direction, and the messages that were said
there. The streams are reliable and keep their order: what an engine writes
comes behind what is under way, and what it reads is what has been under way
for the longest. They cut nowhere in particular, so a read or a write may end in
the middle of a line on each of the two hops.

The server knows a seat by the address of its connection, and the peer of the
seat is the first one that came in from there. Everything else is free: the
order of the steps, the events of every batch, how much every call transfers,
and all faults; also what else connects to the server.

A message is in six places one after the other: the queue of the client, the
stream to the server, what the framer of the server holds, the queue of the
server, the stream to the other client, and what the framer there holds. The
accounts of the engines speak of the queues and the framers, and `Linked` joins
them: what one engine has sent is what the other has received and what is under
way.

## Main definitions

* `Act`, `Seat`, `Room`: Clients and streams around a server.
* `Room.Step`: One operation of one of them.
* `peerAt`: The peer of an address.
* `callsAt`, `framedAt`, `heardAt`: What the record says about it.
* `Linked`: The streams join the records of their two ends.
* `Room.Kept`: Server and clients have their accounts, and the streams join them.
* `Room.Quiet`: Nothing has ended at a seat, and no bytes are on the way.

## Theorems

* `callsAt_append`: The calls at an address add up.
* `linked_serve`, `linked_act`: A step keeps the streams and the records joined.
* `kept_of_reached`: The accounts of every room that can be reached.
* `conversation_in_order`: Everybody hears everybody, in one order.
-/

namespace LineChat

/-- Something that is done at a seat. -/
inductive Act
  | connect (dialler : Dialler) (target : String)
  | update (socket : Socket) (wait : WaitAnswer)
  /-- A message is fed to the client as one line. -/
  | say (socket : Socket) (m : Message)
  | pop

namespace Act

/-- The operation of the client. -/
def request : Act → ClientRequest
  | connect dialler target => .connect dialler target
  | update socket wait => .update socket wait
  | say socket m => .feed socket m.wire
  | pop => .pop

/-- The message that the client has agreed to send. -/
def told (h : ClientHistory) : Act → List Message
  | say socket m =>
    match ((h.client.equip (some socket)).feed m.wire).answer with
    | .ok () => [m]
    | .error _ => []
  | _ => []

end Act

/-- A client and its two streams. -/
structure Seat where
  /-- Where the server sees its connection come from. -/
  address : SocketAddress
  client : ClientHistory
  /-- The bytes under way to the server. -/
  uplink : ByteArray
  /-- The bytes under way to the client. -/
  downlink : ByteArray
  /-- The messages that the client has agreed to send, oldest first. -/
  told : List Message

namespace Seat

/-- The calls that an act comes to. -/
def calls (seat : Seat) (a : Act) : List SocketCall :=
  (seat.client.serve a.request).calls.drop seat.client.calls.length

/-- The seat after an act that has left some bytes under way to the client. -/
def act (seat : Seat) (a : Act) (left : ByteArray) : Seat :=
  { seat with
    client := seat.client.serve a.request
    uplink := seat.uplink ++ sentBytes (seat.calls a)
    downlink := left
    told := seat.told ++ a.told seat.client }

/-- The messages that have come to the client, taken or not, oldest first. -/
def received (seat : Seat) : List Message := seat.client.popped ++ seat.client.client.messages

end Seat

/-- The peer that came in from an address, the first if there were several. -/
def peerAt (address : SocketAddress) (ds : List Deed) : Option PeerId :=
  ds.findSome? fun
    | .joined id a => if a = address then some id else none
    | _ => none

/-- The calls in `es` on the socket of the peer of an address. -/
def callsAt (address : SocketAddress) (ds es : List Deed) : List SocketCall :=
  match peerAt address ds with
  | none => []
  | some p => callsOn p es

/-- The messages that were framed from the peer of an address. -/
def framedAt (address : SocketAddress) (ds : List Deed) : List Message :=
  match peerAt address ds with
  | none => []
  | some p => fromPeer p (framings ds)

/-- The messages that the peer of an address has to receive. -/
def heardAt (address : SocketAddress) (ds : List Deed) : List Message :=
  match peerAt address ds with
  | none => []
  | some p => heardBy p ds

/-- A server and the seats around it. -/
structure Room (κ : Type) where
  server : ServerHistory
  seats : κ → Seat

namespace Room

variable {κ : Type}

/-- The calls of an operation of the server on the socket of a seat. -/
def calls (room : Room κ) (request : ServerRequest) (k : κ) : List SocketCall :=
  callsAt (room.seats k).address (room.server.serve request).deeds
    ((room.server.serve request).deeds.drop room.server.deeds.length)

/-- The room after an operation of the server that has left some bytes under way
    to it. -/
def serve (room : Room κ) (request : ServerRequest) (left : κ → ByteArray) : Room κ :=
  { server := room.server.serve request
    seats := fun k => { room.seats k with
      uplink := left k
      downlink := (room.seats k).downlink ++ sentBytes (room.calls request k) } }

/-- The room after an act at a seat. -/
def act [DecidableEq κ] (room : Room κ) (k : κ) (a : Act) (left : ByteArray) : Room κ :=
  { room with seats := Function.update room.seats k ((room.seats k).act a left) }

/-- One operation of the server or of a client. What it reads was under way. -/
inductive Step [DecidableEq κ] : Room κ → Room κ → Prop
  | serve (room : Room κ) (request : ServerRequest) (left : κ → ByteArray)
      (hread : ∀ k, (room.seats k).uplink = receivedBytes (room.calls request k) ++ left k) :
      Step room (room.serve request left)
  | act (room : Room κ) (k : κ) (a : Act) (left : ByteArray)
      (hread : (room.seats k).downlink = receivedBytes ((room.seats k).calls a) ++ left) :
      Step room (room.act k a left)

/-- A server that listens, and clients that have not been connected yet. -/
def opened (config : ServerConfig) (port : UInt16) (address : SocketAddress)
    (arrivals : List AcceptAnswer) (addresses : κ → SocketAddress) (clients : κ → ClientConfig) :
    Room κ :=
  ⟨ServerHistory.opened config port address arrivals, fun k =>
    ⟨addresses k, .start (.ofConfig (clients k)), ByteArray.empty, ByteArray.empty, []⟩⟩

/-- Nothing has ended at the seat, and no bytes are in a queue or under way. -/
structure Quiet (room : Room κ) (k : κ) : Prop where
  stays : (room.seats k).client.client.ended = false
  client : ∀ c ∈ (room.seats k).client.client.connection,
    c.isActive = true ∧ c.outbound.isEmpty = true
  peer : ∀ p ∈ peerAt (room.seats k).address room.server.deeds,
    ∃ l ∈ room.server.server.listening, ∃ c ∈ l.registry.get? p,
      c.isActive = true ∧ c.outbound.isEmpty = true
  uplink : (room.seats k).uplink = ByteArray.empty
  downlink : (room.seats k).downlink = ByteArray.empty

end Room

/-! ## The records go on -/

-- An operation adds to the record of the client and takes nothing away.
theorem ClientHistory.calls_prefix_serve (h : ClientHistory) (request : ClientRequest) :
    h.calls <+: (h.serve request).calls := by
  cases request with
  | connect dialler target => exact List.prefix_append _ _
  | update socket wait => exact List.prefix_append _ _
  | feed socket data => exact List.prefix_append _ _
  | pop =>
      unfold serve Client.pop
      cases h.client.messages with
      | nil => exact List.prefix_refl _
      | cons m ms => exact List.prefix_refl _

namespace Seat

theorem calls_act (seat : Seat) (a : Act) :
    (seat.client.serve a.request).calls = seat.client.calls ++ seat.calls a :=
  (List.prefix_iff_eq_append.mp (seat.client.calls_prefix_serve a.request)).symm

-- Only a message that was agreed to is queued, as one line.
theorem queued_act (seat : Seat) (a : Act) : (seat.client.serve a.request).queued
    = seat.client.queued ++ wires (a.told seat.client) := by
  cases a with
  | connect dialler target => exact ByteArray.append_empty.symm
  | update socket wait => exact ByteArray.append_empty.symm
  | say socket m =>
      rw [Act.request, ClientHistory.serve_feed, Act.told]
      cases ((seat.client.client.equip (some socket)).feed m.wire).answer with
      | ok => rw [wires_cons, wires_nil, ByteArray.append_empty]
      | error e => rfl
  | pop =>
      rw [show Act.pop.told seat.client = [] from rfl, wires_nil, ByteArray.append_empty,
        Act.request]
      unfold ClientHistory.serve Client.pop
      cases seat.client.client.messages with
      | nil => rfl
      | cons m ms => rfl

end Seat

theorem mem_newcomers_of_peerAt {address : SocketAddress} {ds : List Deed} {p : PeerId}
    (h : peerAt address ds = some p) : p ∈ newcomers ds := by
  rcases List.exists_of_findSome?_eq_some h with ⟨d, hd, hp⟩
  refine List.mem_filterMap.mpr ⟨d, hd, ?_⟩
  cases d with
  | joined id a =>
      by_cases ha : a = address
      · simp only [if_pos ha] at hp
        exact hp
      · simp only [if_neg ha] at hp
        cases hp
  | _ => cases hp

theorem peerAt_append (address : SocketAddress) (ds es : List Deed) :
    peerAt address (ds ++ es) = (peerAt address ds).or (peerAt address es) :=
  List.findSome?_append

-- A peer that comes in has made no calls before, so the calls at an address add
-- up although the peer of the address is only known later.
theorem callsAt_append {s s' : Stage} {ds es : List Deed} (hn : Numbered s ds)
    (hn' : Numbered s' (ds ++ es)) (address : SocketAddress) :
    callsAt address (ds ++ es) (ds ++ es)
      = callsAt address ds ds ++ callsAt address (ds ++ es) es := by
  unfold callsAt
  rw [peerAt_append]
  cases hbefore : peerAt address ds with
  | some p =>
      rw [Option.some_or]
      exact callsOn_append p ds es
  | none =>
      rw [Option.none_or]
      cases hcomes : peerAt address es with
      | none => rfl
      | some p =>
          -- The peer has come in just now, so the record before is silent about it.
          have hnot := hn'.not_mem_of_newcomer (mem_newcomers_of_peerAt hcomes)
          simp only [callsOn_append, (hn.silent p hnot).1]

/-! ## The streams join the records -/

/-- What the client has sent is what the server has received from its address and
    what is under way, and the same in the other direction. The client was given
    the lines of the messages that were said. -/
structure Linked (ds : List Deed) (seat : Seat) : Prop where
  up : sentBytes seat.client.calls
    = receivedBytes (callsAt seat.address ds ds) ++ seat.uplink
  down : sentBytes (callsAt seat.address ds ds)
    = receivedBytes seat.client.calls ++ seat.downlink
  said : seat.client.queued = wires seat.told

/-- The server and the clients of a room have their accounts, and the streams
    join them. -/
structure Room.Kept {κ : Type} (config : ServerConfig) (clients : κ → ClientConfig)
    (room : Room κ) : Prop where
  server : ∃ l, room.server.server.listening = some l ∧ room.server.server.config = config ∧
    Course config.maxBuffer ⟨Registry.empty config.maxPeers, []⟩ room.server.deeds
      ⟨l.registry, []⟩
  clients : ∀ k, (room.seats k).client.Sound (clients k).maxBuffer
  linked : ∀ k, Linked room.server.deeds (room.seats k)

-- What the server sends comes behind what is under way, and what it reads was in
-- front.
theorem linked_serve {ds es : List Deed} {seat : Seat} (hl : Linked ds seat)
    (hcalls : callsAt seat.address (ds ++ es) (ds ++ es)
      = callsAt seat.address ds ds ++ callsAt seat.address (ds ++ es) es) {left : ByteArray}
    (hread : seat.uplink = receivedBytes (callsAt seat.address (ds ++ es) es) ++ left) :
    Linked (ds ++ es) { seat with
      uplink := left
      downlink := seat.downlink ++ sentBytes (callsAt seat.address (ds ++ es) es) } := by
  refine ⟨?_, ?_, hl.said⟩
  · change sentBytes seat.client.calls
      = receivedBytes (callsAt seat.address (ds ++ es) (ds ++ es)) ++ left
    rw [hcalls, receivedBytes_append, ByteArray.append_assoc, ← hread]
    exact hl.up
  · change sentBytes (callsAt seat.address (ds ++ es) (ds ++ es))
      = receivedBytes seat.client.calls
        ++ (seat.downlink ++ sentBytes (callsAt seat.address (ds ++ es) es))
    rw [hcalls, sentBytes_append, hl.down, ByteArray.append_assoc]

theorem linked_act {ds : List Deed} {seat : Seat} (hl : Linked ds seat) {a : Act}
    {left : ByteArray} (hread : seat.downlink = receivedBytes (seat.calls a) ++ left) :
    Linked ds (seat.act a left) := by
  refine ⟨?_, ?_, ?_⟩
  · change sentBytes (seat.client.serve a.request).calls
      = receivedBytes (callsAt seat.address ds ds) ++ (seat.uplink ++ sentBytes (seat.calls a))
    rw [seat.calls_act, sentBytes_append, hl.up, ByteArray.append_assoc]
  · change sentBytes (callsAt seat.address ds ds)
      = receivedBytes (seat.client.serve a.request).calls ++ left
    rw [seat.calls_act, receivedBytes_append, ByteArray.append_assoc, ← hread]
    exact hl.down
  · change (seat.client.serve a.request).queued = wires (seat.told ++ a.told seat.client)
    rw [seat.queued_act, wires_append, hl.said]

theorem kept_opened {κ : Type} (config : ServerConfig) (port : UInt16) (address : SocketAddress)
    (arrivals : List AcceptAnswer) (addresses : κ → SocketAddress) (clients : κ → ClientConfig) :
    (Room.opened config port address arrivals addresses clients).Kept config clients :=
  ⟨⟨_, rfl, rfl, .rest⟩, fun k => ClientHistory.sound_start (clients k), fun _ => ⟨rfl, rfl, rfl⟩⟩

section Reached

variable {κ : Type} [DecidableEq κ] {config : ServerConfig} {clients : κ → ClientConfig}

theorem kept_step (hlimits : ∀ k, (clients k).maxBuffer < wordBound) {room room' : Room κ}
    (h : room.Step room') (hk : room.Kept config clients) : room'.Kept config clients := by
  rcases hk with ⟨⟨l, hl, hconfig, hcourse⟩, hclients, hlinked⟩
  cases h with
  | serve request left hread =>
      rcases ServerHistory.course_serve room.server hl request with
        ⟨l', es, hl', hconfig', hes, hmore⟩
      rw [hconfig] at hmore
      have hall := hcourse.trans hmore
      refine ⟨⟨l', hl', hconfig'.trans hconfig, ?_⟩, hclients, fun k => ?_⟩
      · change Course _ _ (room.server.serve request).deeds _
        rw [hes]
        exact hall
      · have hcalls : room.calls request k
            = callsAt (room.seats k).address (room.server.deeds ++ es) es := by
          unfold Room.calls
          rw [hes, List.drop_left]
        have hadd := callsAt_append (numbered_of_course hcourse) (numbered_of_course hall)
          (room.seats k).address
        have hreadk := hread k
        rw [hcalls] at hreadk
        have hlink := linked_serve (hlinked k) hadd hreadk
        rw [← hcalls, ← hes] at hlink
        exact hlink
  | act k a left hread =>
      -- Only the seat of the act has changed.
      refine ⟨⟨l, hl, hconfig, hcourse⟩, ?_, ?_⟩
      · have hsound := ClientHistory.sound_serve (hlimits k) (hclients k) a.request
        exact (Function.forall_update_iff room.seats fun j seat =>
          seat.client.Sound (clients j).maxBuffer).mpr ⟨hsound, fun j _ => hclients j⟩
      · have hlink := linked_act (hlinked k) hread
        exact (Function.forall_update_iff room.seats fun _ seat =>
          Linked room.server.deeds seat).mpr ⟨hlink, fun j _ => hlinked j⟩

/-- In every room that can be reached the accounts are kept and joined. -/
theorem kept_of_reached (hlimits : ∀ k, (clients k).maxBuffer < wordBound) {port : UInt16}
    {address : SocketAddress} {arrivals : List AcceptAnswer} {addresses : κ → SocketAddress}
    {room : Room κ}
    (h : Relation.ReflTransGen Room.Step
      (Room.opened config port address arrivals addresses clients) room) :
    room.Kept config clients := by
  induction h with
  | refl => exact kept_opened config port address arrivals addresses clients
  | tail _ last ih => exact kept_step hlimits last ih

end Reached

/-! ## The server's side of a seat -/

-- A part of the bytes is a beginning that can be completed.
theorem exists_append_of_octets {a b : ByteArray} (h : octets a <+: octets b) :
    ∃ rest, a ++ rest = b := by
  rcases h with ⟨rest, hrest⟩
  refine ⟨⟨rest.toArray⟩, octets_injective ?_⟩
  rw [octets_append, ← hrest]
  rfl

section Server

variable {limit maxPeers : Nat} {r : Registry} {ds : List Deed}

-- What was sent to an address begins the stream of the messages that its peer
-- has to receive.
theorem sent_at (h : Course limit ⟨Registry.empty maxPeers, []⟩ ds ⟨r, []⟩)
    (address : SocketAddress) :
    ∃ rest, sentBytes (callsAt address ds ds) ++ rest = wires (heardAt address ds) := by
  unfold callsAt heardAt
  cases peerAt address ds with
  | none => exact ⟨ByteArray.empty, rfl⟩
  | some p =>
      have hs := supplied_of_course h p
      cases hget : r.get? p with
      | none => exact exists_append_of_octets (hs.gone hget)
      | some c =>
          -- What is missing waits in the queue, or was never queued.
          rcases hs.here c hget with ⟨ms, ⟨later, hms⟩, hsent, _⟩
          refine ⟨c.outbound.bytes ++ wires later, ?_⟩
          rw [← ByteArray.append_assoc, hsent, ← wires_append, hms]

theorem framed_at (hlimit : limit < wordBound)
    (h : Course limit ⟨Registry.empty maxPeers, []⟩ ds ⟨r, []⟩) (address : SocketAddress) :
    framedAt address ds
      = messagesOf ((split (receivedBytes (callsAt address ds ds))).within limit) := by
  unfold callsAt framedAt
  cases peerAt address ds with
  | none => exact (messagesOf_split_empty limit).symm
  | some p =>
      have hu := understood_of_course hlimit h p
      cases hget : r.get? p with
      | none => exact hu.gone hget
      | some c =>
          rcases hu.here c hget with ⟨hin, hheard⟩
          rw [← hin]
          exact hheard.messages

-- A peer that is active and has an empty queue was sent everything, and no line
-- of it was too long.
theorem idle_at (hlimit : limit < wordBound)
    (h : Course limit ⟨Registry.empty maxPeers, []⟩ ds ⟨r, []⟩) (address : SocketAddress)
    (hidle : ∀ p, peerAt address ds = some p →
      ∃ c, r.get? p = some c ∧ c.isActive = true ∧ c.outbound.isEmpty = true) :
    sentBytes (callsAt address ds ds) = wires (heardAt address ds) ∧
      (split (receivedBytes (callsAt address ds ds))).Fits limit := by
  unfold callsAt heardAt
  cases hp : peerAt address ds with
  | none => exact ⟨rfl, fits_split_empty limit⟩
  | some p =>
      rcases hidle p hp with ⟨c, hget, hactive, hempty⟩
      have hsent := (supplied_of_course h p).whole hget hactive
      rcases (understood_of_course hlimit h p).here c hget with ⟨hin, hheard⟩
      rw [c.outbound.isEmpty_iff.mp hempty, ByteArray.append_empty] at hsent
      rw [← hin]
      exact ⟨hsent, (hheard.held hactive).1⟩

end Server

/-- However a server and its clients take turns, and wherever the streams
    between them are cut: what a client has received are the first of the
    messages that were framed since its peer came in and that it has not sent
    itself, in the order of framing, and what was framed from it are the first of
    the messages that were said there. When nothing has ended and no bytes are in
    a queue or under way, both are all of them. -/
theorem conversation_in_order {κ : Type} [DecidableEq κ] (config : ServerConfig) (port : UInt16)
    (address : SocketAddress) (arrivals : List AcceptAnswer) (addresses : κ → SocketAddress)
    (clients : κ → ClientConfig) (hlimit : config.maxBuffer < wordBound)
    (hlimits : ∀ k, (clients k).maxBuffer < wordBound) (room : Room κ)
    (hreached : Relation.ReflTransGen Room.Step
      (Room.opened config port address arrivals addresses clients) room) (k : κ) :
    let seat := room.seats k
    let ds := room.server.deeds
    seat.received <+: heardAt seat.address ds ∧ framedAt seat.address ds <+: seat.told ∧
      (room.Quiet k → seat.received = heardAt seat.address ds ∧
        framedAt seat.address ds = seat.told) := by
  intro seat ds
  rcases kept_of_reached hlimits hreached with ⟨⟨l, hl, _, hcourse⟩, hclients, hlinked⟩
  have hsound := hclients k
  have hlink := hlinked k
  have hreceived : seat.received
      = messagesOf ((split (receivedBytes seat.client.calls)).within (clients k).maxBuffer) :=
    hsound.messages
  have hframed := framed_at hlimit hcourse seat.address
  have hserver : room.Quiet k → _ := fun hquiet =>
    idle_at hlimit hcourse seat.address fun p hp => by
      rcases hquiet.peer p hp with ⟨l', hl', c, hc, hidle⟩
      rw [hl, Option.mem_some_iff] at hl'
      rw [hl']
      exact ⟨c, hc, hidle⟩
  refine ⟨?_, ?_, fun hquiet => ⟨?_, ?_⟩⟩
  · -- The bytes that the client has read begin those that the server has sent.
    rcases sent_at hcourse seat.address with ⟨rest, hrest⟩
    rw [hlink.down, ByteArray.append_assoc] at hrest
    rw [hreceived]
    exact messagesOf_within_prefix hrest
  · -- And the bytes that the server has read begin those that were queued.
    rcases hsound.sent with ⟨rest, hrest⟩
    rw [hlink.said, hlink.up, ByteArray.append_assoc] at hrest
    rw [hframed]
    exact messagesOf_within_prefix hrest
  · -- Nothing is left on the way, so the client has read every line whole.
    have hall : receivedBytes seat.client.calls = wires (heardAt seat.address ds) := by
      rw [← (hserver hquiet).1, hlink.down, hquiet.downlink, ByteArray.append_empty]
    have hfits := (hsound.idle hquiet.stays hquiet.client).2
    rw [hall] at hfits
    rw [hreceived, hall]
    exact messagesOf_of_fits hfits
  · have hall : receivedBytes (callsAt seat.address ds ds) = wires seat.told := by
      rw [← hlink.said, ← (hsound.idle hquiet.stays hquiet.client).1, hlink.up, hquiet.uplink,
        ByteArray.append_empty]
    have hfits := (hserver hquiet).2
    rw [hall] at hfits
    rw [hframed, hall]
    exact messagesOf_of_fits hfits

namespace Room

/-- Two clients of a server that listens. All limits are eight bytes. -/
def pair : Room Bool :=
  opened ⟨2, 8, 4⟩ 9 (.v4 ⟨127, 0, 0, 1⟩ 9) []
    (fun k => .v4 ⟨127, 0, 0, 1⟩ (if k then 1 else 2)) (fun _ => ⟨8, 1⟩)

/-- Both have been connected. -/
def met : Room Bool :=
  let connect : Act := .connect ⟨Directory.none, .ok (), fun _ => .ok Socket.idle⟩ "127.0.0.1:9"
  (pair.act true connect .empty).act false connect .empty

/-- One of them has said a word, and sent it in two parts. -/
def spoken : Room Bool :=
  let word : Message := ⟨⟨"hi".toUTF8, by decide⟩, by decide, by decide, by decide⟩
  (met.act true (.say Socket.idle word) .empty).act true
    (.update ⟨[], [.ok 2, .ok 1], [], none⟩ (.ok [⟨1, false, true, false, false⟩])) .empty

/-- The server has accepted both, read the word in two parts and passed it on in
    two other parts. -/
def passedOn : Room Bool :=
  let speaker : Socket := ⟨[.ok "h".toUTF8, .ok "i\n".toUTF8], [], [], none⟩
  let listener : Socket := ⟨[], [.ok 1, .ok 2], [], none⟩
  spoken.serve (.update
    [.ok (speaker, .v4 ⟨127, 0, 0, 1⟩ 1), .ok (listener, .v4 ⟨127, 0, 0, 1⟩ 2)] (fun _ => none)
    (.ok [⟨0, true, false, false, false⟩, ⟨1, true, false, false, false⟩,
      ⟨2, false, true, false, false⟩])) (fun _ => .empty)

/-- The other has read it. -/
def heard : Room Bool :=
  passedOn.act false (.update ⟨[.ok "hi\n".toUTF8], [], [], none⟩
    (.ok [⟨1, true, false, false, false⟩])) .empty

theorem heard_reached : Relation.ReflTransGen Step pair heard := by
  have hmet : Relation.ReflTransGen Step pair met :=
    .tail (.single (.act _ true _ _ (by decide +kernel))) (.act _ false _ _ (by decide +kernel))
  have hspoken : Relation.ReflTransGen Step met spoken :=
    .tail (.single (.act _ true _ _ (by decide +kernel))) (.act _ true _ _ (by decide +kernel))
  have hpassed : Step spoken passedOn := .serve _ _ _ (by decide +kernel)
  have hheard : Step passedOn heard := .act _ false _ _ (by decide +kernel)
  exact ((hmet.trans hspoken).tail hpassed).tail hheard

theorem heard_quiet (k : Bool) : heard.Quiet k := by
  cases k <;> exact ⟨by decide +kernel, by decide +kernel, by decide +kernel, by decide +kernel,
    by decide +kernel⟩

end Room

/-- The word that was said at one seat has come to the other one, and both sides
    agree on it. -/
theorem conversation_of_two :
    (Room.heard.seats false).received.map Message.bytes = ["hi".toUTF8] ∧
    (Room.heard.seats false).received
      = heardAt (Room.heard.seats false).address Room.heard.server.deeds ∧
    framedAt (Room.heard.seats true).address Room.heard.server.deeds
      = (Room.heard.seats true).told := by
  have hwide : (8 : Nat) < wordBound := by decide
  have hall := conversation_in_order ⟨2, 8, 4⟩ 9 (.v4 ⟨127, 0, 0, 1⟩ 9) []
    (fun k : Bool => .v4 ⟨127, 0, 0, 1⟩ (if k then 1 else 2)) (fun _ => ⟨8, 1⟩) hwide
    (fun _ => hwide) Room.heard Room.heard_reached
  refine ⟨by decide +kernel, ?_, ?_⟩
  · exact ((hall false).2.2 (Room.heard_quiet false)).1
  · exact ((hall true).2.2 (Room.heard_quiet true)).2

end LineChat
