import LineChat.Proofs.Session.Account
import LineChat.Proofs.Session.Removal

/-!
# No Wake-up Is Lost

Whoever waits for room is told of it.

Readiness is told of once per change, and only of what an interest is registered
for. So two things must never happen: that bytes wait in a queue while nobody
asks for room, and that a loop stops while its socket has more to give or to
take. The second is a law about one loop (`readFrom_blocks`, `flushFrom_blocks`).
The first is an invariant. The interest is changed only where the queue becomes
empty or stops being empty, and what a connection believes to be registered is
kept apart from what the system has, so both must be followed through every
operation: `Attends` says that the record and the belief agree on the changes,
and that a connection whose interest fits its queue stays so. A message is never
blank, so queueing one always leaves something to ask room for.

A server and a client differ in one point. A peer has the interest in writing
only while bytes are queued. A client begins with both interests and an empty
queue, so nothing is asked of its interest while nothing is queued. `Tuned`
leaves that open.

## Main definitions

* `Connection.interest?`: The interest that a connection takes to be registered.
* `Connection.Tuned`: The interest fits the queue.
* `Connection.Attends`: What an operation does to the registration.
* `Connection.Registered`: The connection and the system agree on an interest.

## Theorems

* `attends_readReady`, `attends_flushReady`, `attends_queueMessage`: One operation.
* `Touch.attends`, `Acts.attends`: The peers of a server, and a client.
* `attended_of_course`: Every peer at every moment.
* `wake_ups_are_not_lost`: Every run.
-/

namespace LineChat

theorem registeredInterest?_append (before : Option Interest) (a b : List SocketCall) :
    registeredInterest? before (a ++ b) = registeredInterest? (registeredInterest? before a) b := by
  induction a generalizing before with
  | nil => rfl
  | cons call a ih =>
      cases call with
      | read answer => exact ih before
      | write offered answer => exact ih before
      | watch interest answer =>
          cases answer with
          | ok => exact ih (some interest)
          | error fault => exact ih before
      | unwatch => exact ih none

-- Reading and writing change no registration.
theorem registeredInterest?_of_transfers (before : Option Interest) {calls : List SocketCall}
    (h : ∀ call ∈ calls, call.transfers = true) : registeredInterest? before calls = before := by
  induction calls with
  | nil => rfl
  | cons call calls ih =>
      rcases List.forall_mem_cons.mp h with ⟨hcall, hcalls⟩
      cases call with
      | read answer => exact ih hcalls
      | write offered answer => exact ih hcalls
      | watch interest answer => cases hcall
      | unwatch => cases hcall

namespace Connection

/-- The interest that the connection takes to be registered. -/
def interest? (c : Connection) : Option Interest := c.registration.map (·.interest)

/-- The interest of an active connection fits its queue: it is for both as long
    as bytes wait, and one of the `quiet` ones if none do. -/
def Tuned (quiet : Interest → Prop) (c : Connection) : Prop :=
  c.isActive = true → ∃ i, c.interest? = some i ∧
    if c.outbound.isEmpty then quiet i else i = .both

/-- An operation that led from `c` to `c'`: the changes that the system has made
    are those that the connection knows of, and the interest goes on to fit. -/
structure Attends (quiet : Interest → Prop) (c : Connection) (calls : List SocketCall)
    (c' : Connection) : Prop where
  record : registeredInterest? c.interest? calls = c'.interest?
  tuned : c.Tuned quiet → c'.Tuned quiet

variable {quiet : Interest → Prop} {c c' c'' : Connection} {calls calls' : List SocketCall}

theorem Attends.trans (h : c.Attends quiet calls c') (h' : c'.Attends quiet calls' c'') :
    c.Attends quiet (calls ++ calls') c'' := by
  refine ⟨?_, fun hc => h'.tuned (h.tuned hc)⟩
  rw [registeredInterest?_append, h.record, h'.record]

-- Whatever leaves the registration and the queue as they are.
theorem attends_of_same (hcalls : ∀ call ∈ calls, call.transfers = true)
    (hregistration : c'.registration = c.registration) (hout : c'.outbound = c.outbound)
    (hactive : c'.isActive = true → c.isActive = true) : c.Attends quiet calls c' := by
  have hinterest : c'.interest? = c.interest? := congrArg (Option.map _) hregistration
  refine ⟨?_, fun hc hc' => ?_⟩
  · rw [registeredInterest?_of_transfers _ hcalls, hinterest]
  · rw [hinterest, hout]
    exact hc (hactive hc')

theorem attends_refl (c : Connection) : c.Attends quiet [] c :=
  attends_of_same (List.forall_mem_nil _) rfl rfl id

theorem attends_equip (c : Connection) (socket : Option Socket) :
    c.Attends quiet [] (c.equip socket) := by
  cases socket with
  | none => exact c.attends_refl
  | some s => exact attends_of_same (List.forall_mem_nil _) rfl rfl id

theorem attends_markOpen (c : Connection) : c.Attends quiet [] c.markOpen := by
  have hactive := c.carries_markOpen.active
  unfold markOpen at hactive ⊢
  split at hactive
  · rename_i hstate
    rw [if_pos hstate]
    exact attends_of_same (List.forall_mem_nil _) rfl rfl hactive
  · rename_i hstate
    rw [if_neg hstate]
    exact c.attends_refl

theorem registration_close (c : Connection) : c.close.registration = c.registration := by
  unfold close
  split <;> rfl

theorem attends_close (c : Connection) : c.Attends quiet [] c.close :=
  attends_of_same (List.forall_mem_nil _) c.registration_close c.outbound_close active_of_close

/-! ## Reading and writing -/

theorem attends_readReady (c : Connection) :
    c.Attends quiet c.readReady.calls c.readReady.connection := by
  have hsame : c.readReady.connection.registration = c.registration ∧
      c.readReady.connection.outbound = c.outbound :=
    readFrom_keeps (P := fun c' => c'.registration = c.registration ∧ c'.outbound = c.outbound)
      (fun _ _ h => h)
      (fun c' h => ⟨c'.registration_close.trans h.1, c'.outbound_close.trans h.2⟩)
      (fun c' _ h => ⟨(registration_close _).trans h.1, (outbound_close _).trans h.2⟩)
      (fun _ _ h => h) c.socket.reads ⟨rfl, rfl⟩
  refine attends_of_same (fun call hcall => ?_) hsame.1 hsame.2 active_of_readFrom
  rcases mem_calls_readFrom _ _ call hcall with ⟨answer, rfl⟩
  rfl

theorem outbound_setInterest (c : Connection) (interest : Interest) :
    (c.setInterest interest).1.outbound = c.outbound := by
  rcases c.setInterest_cases interest with ⟨h, _⟩ | ⟨_, _, _, _, h⟩ | ⟨_, _, _, _, _, h⟩
  · rw [h]
  · rw [h]
  · rw [h]
    exact outbound_close _

-- Asking for an interest gives the connection that interest, or closes it.
theorem interest_of_setInterest {interest i : Interest} (hi : c.interest? = some i)
    (hactive : (c.setInterest interest).1.isActive = true) :
    (c.setInterest interest).1.interest? = some interest := by
  rcases Option.map_eq_some_iff.mp hi with ⟨r, hr, _⟩
  rcases c.setInterest_cases interest with ⟨h, hsame⟩ | ⟨_, _, _, _, h⟩ | ⟨_, _, _, _, _, h⟩
  · rw [h, interest?, hr, Option.map_some, hsame r hr]
  · rw [h]
    rfl
  · rw [h] at hactive
    exact active_of_close hactive

theorem record_setInterest (c : Connection) (interest : Interest) :
    registeredInterest? c.interest? (c.setInterest interest).2
      = (c.setInterest interest).1.interest? := by
  rcases c.setInterest_cases interest with ⟨h, _⟩ | ⟨r, _, _, _, h⟩ | ⟨r, _, _, _, _, h⟩
  · rw [h]
    rfl
  · rw [h]
    rfl
  · rw [h]
    exact (congrArg (Option.map _)
      (registration_close { c with socket := c.socket.watch.2 })).symm

-- What a write loop leaves behind.
theorem flushFrom_same (answers : List (Except Fault Nat)) (c : Connection) :
    (flushFrom answers c).1.registration = c.registration ∧
      ((flushFrom answers c).1.isActive = true → c.isActive = true) ∧
      (c.outbound.isEmpty = true → (flushFrom answers c).1.outbound.isEmpty = true) :=
  flushFrom_keeps
    (P := fun c' => c'.registration = c.registration ∧ (c'.isActive = true → c.isActive = true) ∧
      (c.outbound.isEmpty = true → c'.outbound.isEmpty = true))
    (fun _ _ h => h)
    (fun c' h => ⟨c'.registration_close.trans h.1, active_of_close,
      fun hempty => by rw [outbound_close]; exact h.2.2 hempty⟩)
    (fun c' _ h => ⟨(registration_close _).trans h.1, active_of_close,
      fun hempty => (congrArg Buffer.isEmpty (outbound_close _)).trans (h.2.2 hempty)⟩)
    (fun c' n _ hsome h => ⟨h.1, h.2.1,
      fun hempty => absurd ((h.2.2 hempty).symm.trans hsome) Bool.true_eq_false.mp⟩)
    answers ⟨rfl, id, id⟩

theorem transfers_of_mem_flushFrom (answers : List (Except Fault Nat)) (c : Connection) :
    ∀ call ∈ (flushFrom answers c).2, call.transfers = true := by
  intro call hcall
  rcases mem_calls_flushFrom answers c call hcall with ⟨offered, answer, rfl⟩
  rfl

-- A queue that has run dry gives up the interest in writing, and one that has not
-- was not empty before either, so that the interest is registered already.
theorem attends_flushReady (hquiet : quiet .readable) (c : Connection) :
    c.Attends quiet c.flushReady.2 c.flushReady.1 := by
  rcases flushFrom_same c.socket.writes c with ⟨hregistration, hactive, hempty⟩
  have hinterest : (flushFrom c.socket.writes c).1.interest? = c.interest? :=
    congrArg (Option.map _) hregistration
  have hrecord := registeredInterest?_of_transfers c.interest?
    (transfers_of_mem_flushFrom c.socket.writes c)
  unfold flushReady
  dsimp only
  by_cases hdry : ((flushFrom c.socket.writes c).1.isActive
      && (flushFrom c.socket.writes c).1.outbound.isEmpty) = true
  · rw [if_pos hdry]
    rw [Bool.and_eq_true] at hdry
    refine ⟨?_, fun hc hset => ?_⟩
    · rw [registeredInterest?_append, hrecord, ← hinterest, record_setInterest]
    · rcases hc (hactive hdry.1) with ⟨i, hi, _⟩
      refine ⟨.readable, interest_of_setInterest (hinterest.trans hi) hset, ?_⟩
      rw [outbound_setInterest, if_pos hdry.2]
      exact hquiet
  · rw [if_neg hdry]
    refine ⟨hrecord.trans hinterest.symm, fun hc hgoes => ?_⟩
    have hleft : (flushFrom c.socket.writes c).1.outbound.isEmpty = false := by
      rw [Bool.and_eq_true, not_and, Bool.not_eq_true] at hdry
      exact hdry hgoes
    have hsome : ¬ c.outbound.isEmpty = true := fun h => by
      rw [hempty h] at hleft
      cases hleft
    rcases hc (hactive hgoes) with ⟨i, hi, hboth⟩
    rw [if_neg hsome] at hboth
    refine ⟨i, hinterest.trans hi, ?_⟩
    rw [hleft, if_neg Bool.false_ne_true]
    exact hboth

/-- A connection that was written and still has bytes was told that its socket
    would block. -/
theorem flushReady_blocks (hactive : c.flushReady.1.isActive = true)
    (hleft : c.flushReady.1.outbound.isEmpty = false) :
    ∃ before offered fault, c.flushReady.2 = before ++ [.write offered (.error fault)] ∧
      fault.kind = .wouldBlock := by
  unfold flushReady at hactive hleft ⊢
  dsimp only at hactive hleft ⊢
  by_cases hdry : ((flushFrom c.socket.writes c).1.isActive
      && (flushFrom c.socket.writes c).1.outbound.isEmpty) = true
  · rw [if_pos hdry, outbound_setInterest] at hleft
    rw [hleft, Bool.and_false] at hdry
    cases hdry
  · rw [if_neg hdry] at hactive hleft ⊢
    exact flushFrom_blocks _ hactive hleft

/-- An event is attended to. -/
theorem attends_handle (hquiet : quiet .readable) (c : Connection) (e : Event) :
    c.Attends quiet (c.handle e).calls (c.handle e).connection :=
  handle_law (R := fun c _ calls c' => c.Attends quiet calls c') attends_refl Attends.trans
    attends_readReady (attends_flushReady hquiet) attends_close c e

/-! ## Queueing -/

-- Something is queued and both interests are asked for.
theorem attends_of_queue {queue : Buffer} (hboth : queue.isEmpty = true → quiet .both) :
    c.Attends quiet ({ c with outbound := queue }.setInterest .both).2
      ({ c with outbound := queue }.setInterest .both).1 := by
  refine ⟨record_setInterest { c with outbound := queue } .both, fun hc hset => ?_⟩
  have hactive : c.isActive = true :=
    (carries_setInterest { c with outbound := queue } .both).active hset
  rcases hc hactive with ⟨i, hi, _⟩
  have hqueued : { c with outbound := queue }.interest? = some i := hi
  refine ⟨.both, interest_of_setInterest hqueued hset, ?_⟩
  rw [outbound_setInterest]
  split
  · exact hboth ‹_›
  · rfl

theorem attends_queueMessage (c : Connection) (m : Message) :
    c.Attends quiet (c.queueMessage m).calls (c.queueMessage m).connection := by
  rcases c.queueMessage_cases m with
    ⟨_, hclosed, hcalls⟩ | ⟨_, queue, hbytes, _, hconnection, hcalls⟩
  · rw [hclosed, hcalls]
    exact c.attends_close
  · -- A message is not blank, so the queue is not empty with it.
    have hsome : ¬ queue.isEmpty = true := by
      intro hempty
      have hwire := congrArg ByteArray.size (hbytes.symm.trans (queue.isEmpty_iff.mp hempty))
      rw [ByteArray.size_append, m.size_wire, ByteArray.size_empty] at hwire
      omega
    rw [hconnection, hcalls]
    by_cases hempty : c.outbound.isEmpty = true
    · rw [if_pos hempty, if_pos hempty]
      exact attends_of_queue fun h => absurd h hsome
    · rw [if_neg hempty, if_neg hempty]
      refine ⟨rfl, fun hc hactive => ?_⟩
      rcases hc hactive with ⟨i, hi, hboth⟩
      rw [if_neg hempty] at hboth
      refine ⟨i, hi, ?_⟩
      change if queue.isEmpty = true then quiet i else i = .both
      rw [if_neg hsome]
      exact hboth

theorem attends_queueBytes (hboth : quiet .both) (c : Connection) (data : ByteArray) :
    c.Attends quiet (c.queueBytes data).calls (c.queueBytes data).connection := by
  rcases c.queueBytes_cases data with ⟨_, hrefused⟩ | ⟨_, queue, _, _, hqueued⟩
  · rw [hrefused]
    exact c.attends_close
  · rw [hqueued]
    exact attends_of_queue fun _ => hboth

/-! ## Peers and clients -/

/-- The interest of a peer is for both exactly while bytes are queued. -/
theorem Touch.attends (h : c.Touch calls c') : c.Attends (· = .readable) calls c' := by
  cases h with
  | still => exact c.attends_refl
  | equip socket => exact c.attends_equip socket
  | event e =>
      refine attends_handle ?_ c e
      rfl
  | message m => exact c.attends_queueMessage m

/-- The interest of a client is for both at least while bytes are queued. -/
theorem Acts.attends {ms : List Message} {queued : ByteArray} (h : c.Acts ms calls queued c') :
    c.Attends (fun _ => True) calls c' := by
  induction h with
  | rest => exact c.attends_refl
  | act _ last ih =>
      refine ih.trans ?_
      cases last with
      | equip socket => exact attends_equip _ socket
      | answered => exact attends_markOpen _
      | read => exact attends_readReady _
      | write => exact attends_flushReady trivial _
      | queue data => exact attends_queueBytes trivial _ data
      | close => exact attends_close _

theorem interest_of_register {s : Socket} {address : SocketAddress} {token limit : Nat}
    {interest : Interest} {state : ConnectionState}
    (h : register s address token interest state limit = .ok c) :
    c.interest? = some interest ∧ c.outbound.isEmpty = true := by
  unfold register at h
  split at h
  · cases h
  · rw [Except.ok.injEq] at h
    rw [← h]
    exact ⟨rfl, rfl⟩

/-- After the calls that were made, an interest is registered with the system
    and the connection knows of it. -/
def Registered (c : Connection) (calls : List SocketCall) (interest : Interest) : Prop :=
  c.interest? = some interest ∧ registeredInterest? none calls = some interest

end Connection

/-! ## Every run -/

/-- The interest of the peer `q` fits its queue, and the system has made all the
    changes that the peer knows of. -/
def Attended (q : PeerId) (s : Stage) (ds : List Deed) : Prop :=
  ∀ c, s.registry.get? q = some c →
    registeredInterest? none (callsOn q ds) = c.interest? ∧ c.Tuned (· = .readable)

theorem attended_step {limit : Nat} {s s' : Stage} {ds es : List Deed} (h : Step limit s es s')
    (hn : Numbered s ds) {q : PeerId} (hw : Attended q s ds) : Attended q s' (ds ++ es) := by
  have hfate := fate_of_step h hn.orderly q
  have hcomes := (numbered_step h hn).not_mem_of_newcomer (q := q)
  unfold Attended at hw ⊢
  generalize s.registry.get? q = before at hfate hw
  intro c hc
  rw [hc] at hfate
  rw [callsOn_append, registeredInterest?_append]
  cases hfate with
  | comes socket address c hjoined hes =>
      -- Nobody has called a peer before it came in.
      have hnew : q ∉ newcomers ds := hcomes (by rw [hes]; exact List.mem_cons_self)
      have hcalls : callsOn q es = [.watch .readable (.ok ())] := by
        rw [hes]
        simp [callsOn, Deed.call?]
      rcases Connection.interest_of_register hjoined with ⟨hinterest, hempty⟩
      rw [(hn.silent q hnew).1, hcalls, hinterest]
      refine ⟨rfl, fun _ => ⟨.readable, hinterest, ?_⟩⟩
      rw [if_pos hempty]
  | stays c₀ c htouch =>
      rcases hw c₀ rfl with ⟨hrecord, htuned⟩
      rw [hrecord]
      exact ⟨htouch.attends.record, htouch.attends.tuned htuned⟩

/-- Every peer is attended to at every moment of every course. -/
theorem attended_of_course {limit maxPeers : Nat} {s : Stage} {ds : List Deed}
    (h : Course limit ⟨Registry.empty maxPeers, []⟩ ds s) (q : PeerId) : Attended q s ds := by
  induction h with
  | rest =>
      intro c hc
      cases hc
  | step before last ih => exact attended_step last (numbered_of_course before) ih

theorem Attended.registered {q : PeerId} {s : Stage} {ds : List Deed} (h : Attended q s ds)
    {c : Connection} (hc : s.registry.get? q = some c) (hactive : c.isActive = true) :
    c.Registered (callsOn q ds) (if c.outbound.isEmpty then .readable else .both) := by
  rcases h c hc with ⟨hrecord, htuned⟩
  rcases htuned hactive with ⟨i, hi, hfits⟩
  have hwanted : i = if c.outbound.isEmpty then .readable else .both := by
    by_cases hempty : c.outbound.isEmpty = true
    · rwa [if_pos hempty] at hfits ⊢
    · rwa [if_neg hempty] at hfits ⊢
  rw [← hwanted]
  exact ⟨hi, hrecord.trans hi⟩

-- The whole life of a client, and whatever acts it goes on with.
theorem Client.Life.registered {cl : Client} {calls more : List SocketCall} (h : cl.Life calls)
    {c c' : Connection} (hc : cl.connection = some c) {ms : List Message} {queued : ByteArray}
    (hacts : c.Acts ms more queued c') (hactive : c'.isActive = true)
    (hwaits : c'.outbound.isEmpty = false) : c'.Registered (calls ++ more) .both := by
  cases h with
  | fresh hnone =>
      rw [hnone] at hc
      cases hc
  | live c₀ c₁ ms₀ calls queued₀ hdialled hacts₀ hthere =>
      rw [hthere, Option.some.injEq] at hc
      subst hc
      rcases hdialled with ⟨socket, address, hdialled⟩
      rcases Connection.interest_of_register hdialled with ⟨hinterest, hempty⟩
      have hattends := (hacts₀.trans hacts).attends
      have htuned : c₀.Tuned fun _ => True := by
        refine fun _ => ⟨.both, hinterest, ?_⟩
        rw [if_pos hempty]
        trivial
      rcases hattends.tuned htuned hactive with ⟨i, hi, hboth⟩
      rw [hwaits, if_neg Bool.false_ne_true] at hboth
      subst hboth
      refine ⟨hi, ?_⟩
      rw [← hi, ← hattends.record, hinterest]
      rfl
  | past c₀ c₁ ms₀ calls queued₀ _ _ hnone =>
      rw [hnone] at hc
      cases hc

/-- In every history of a server, also behind each event of a batch, an active
    peer is registered for both interests if bytes wait for it, and else for
    reading only. In every history of a client, also behind each event of a
    batch, it is registered for both as long as bytes wait. Each time the system
    and the connection agree on it. And a connection that was read and is still
    active, or was written and still has bytes, was told by its socket that it
    would block. -/
theorem wake_ups_are_not_lost :
    (∀ (config : ServerConfig) (port : UInt16) (address : SocketAddress)
        (arrivals : List AcceptAnswer) (requests : List ServerRequest),
      let h := ServerHistory.serveAll requests (.opened config port address arrivals)
      ∃ l, h.server.listening = some l ∧
        (∀ q c, l.registry.get? q = some c → c.isActive = true →
          c.Registered (callsOn q h.deeds) (if c.outbound.isEmpty then .readable else .both)) ∧
        ∀ arrivals sockets events,
          let b := l.during config.maxBuffer arrivals sockets events
          ∀ q c, b.registry.get? q = some c → c.isActive = true →
            c.Registered (callsOn q (h.deeds ++ b.deeds))
              (if c.outbound.isEmpty then .readable else .both)) ∧
    (∀ (config : ClientConfig) (requests : List ClientRequest),
      let h := ClientHistory.serveAll requests (.start (Client.ofConfig config))
      ∀ c, h.client.connection = some c →
        (c.isActive = true → c.outbound.isEmpty = false → c.Registered h.calls .both) ∧
        ∀ socket events,
          let b := Client.handleAll events (c.equip socket)
          b.connection.isActive = true → b.connection.outbound.isEmpty = false →
            b.connection.Registered (h.calls ++ b.calls) .both) ∧
    ∀ c : Connection,
      (c.readReady.connection.isActive = true →
        ∃ before fault, c.readReady.calls = before ++ [.read (.error fault)] ∧
          fault.kind = .wouldBlock) ∧
      (c.flushReady.1.isActive = true → c.flushReady.1.outbound.isEmpty = false →
        ∃ before offered fault, c.flushReady.2 = before ++ [.write offered (.error fault)] ∧
          fault.kind = .wouldBlock) := by
  refine ⟨?_, ?_, ?_⟩
  · intro config port address arrivals requests h
    rcases ServerHistory.course_of_opened config port address arrivals requests with
      ⟨l, hl, hcourse⟩
    refine ⟨l, hl, ?_, ?_⟩
    · intro q c hc hactive
      exact (attended_of_course hcourse q).registered hc hactive
    · intro arrivals sockets events b q c hc hactive
      have hduring := l.course_during hcourse arrivals sockets events
      exact (attended_of_course hduring q).registered hc hactive
  · intro config requests h c hc
    have hlife : h.client.Life h.calls := ClientHistory.life_serveAll requests _ (.fresh rfl rfl)
    refine ⟨?_, ?_⟩
    · intro hactive hwaits
      have hnow := hlife.registered hc .rest hactive hwaits
      rwa [List.append_nil] at hnow
    · intro socket events b hactive hwaits
      have hequip : c.Acts [] [] ByteArray.empty (c.equip socket) := .of_act (.equip socket)
      exact hlife.registered hc (hequip.trans (Client.acts_handleAll events _)) hactive hwaits
  · intro c
    exact ⟨Connection.readFrom_blocks c.socket.reads, Connection.flushReady_blocks⟩

/-- A peer that has been sent a line, and a client that has been fed one, wait
    for room. When the peer is read it has nothing to give, and when it is
    written its socket takes a part of the line. -/
theorem wake_ups_are_not_lost_after_feed :
    let address : UInt16 → SocketAddress := .v4 ⟨127, 0, 0, 1⟩
    let requests : List ServerRequest := [
      .update [.ok (Socket.idle, address 1)] (fun _ => none)
        (.ok [⟨0, true, false, false, false⟩]),
      .feed "hi\n".toUTF8 (fun _ => some ⟨[], [.ok 2], [], none⟩)]
    let h := ServerHistory.serveAll requests (.opened ⟨2, 8, 4⟩ 9 (address 9) [])
    let dialler : Dialler := ⟨Directory.none, .ok (), fun _ => .ok Socket.idle⟩
    let k := ClientHistory.serveAll
      [.connect dialler "127.0.0.1:9", .feed Socket.idle "hi\n".toUTF8]
      (.start (Client.ofConfig ⟨8, 1⟩))
    (∃ l c, h.server.listening = some l ∧ l.registry.get? ⟨1⟩ = some c ∧
      c.Registered (callsOn ⟨1⟩ h.deeds) .both ∧
      (∃ before fault, c.readReady.calls = before ++ [.read (.error fault)] ∧
        fault.kind = .wouldBlock) ∧
      ∃ before offered fault, c.flushReady.2 = before ++ [.write offered (.error fault)] ∧
        fault.kind = .wouldBlock) ∧
    ∃ c, k.client.connection = some c ∧ c.Registered k.calls .both := by
  intro address requests h dialler k
  rcases wake_ups_are_not_lost with ⟨hserver, hclient, hloops⟩
  refine ⟨?_, ?_⟩
  · rcases hserver ⟨2, 8, 4⟩ 9 (address 9) [] requests with ⟨l, hl, hpeers, _⟩
    have hlook : (h.server.listening.bind (·.registry.get? ⟨1⟩)).map (fun c =>
        (c.isActive, c.outbound.isEmpty, c.readReady.connection.isActive,
          c.flushReady.1.isActive, c.flushReady.1.outbound.isEmpty))
        = some (true, false, true, true, false) := by decide +kernel
    rw [hl, Option.bind_some] at hlook
    rcases Option.map_eq_some_iff.mp hlook with ⟨c, hc, hall⟩
    simp only [Prod.mk.injEq] at hall
    rcases hall with ⟨hactive, hwaits, hread, hwritten, hleft⟩
    have hregistered := hpeers ⟨1⟩ c hc hactive
    rw [hwaits, if_neg Bool.false_ne_true] at hregistered
    exact ⟨l, c, hl, hc, hregistered, (hloops c).1 hread, (hloops c).2 hwritten hleft⟩
  · have hnow := hclient ⟨8, 1⟩
      [.connect dialler "127.0.0.1:9", .feed Socket.idle "hi\n".toUTF8]
    have hlook : k.client.connection.map (fun c => (c.isActive, c.outbound.isEmpty))
        = some (true, false) := by decide +kernel
    rcases Option.map_eq_some_iff.mp hlook with ⟨c, hc, hall⟩
    rw [Prod.mk.injEq] at hall
    exact ⟨c, hc, (hnow c hc).1 hall.1 hall.2⟩

end LineChat
