import LineChat.Proofs.Session.Account
import LineChat.Proofs.Session.Fate

/-!
# The Life of a Client

A client is fresh, then live, then closed, and it can be each of them once.

The end can begin in many places: in a read, in a write, by what an event says,
when a wait has come to nothing and output is tried, or when bytes are fed that
do not fit. All of them are acts on the one connection (`Connection.Act`), so
what has to be shown of each is shown for an act: that a connection keeps its
registration, and that it remembers the first fault of its calls. The first
fault of many calls is the first of one part or else of the other, so the law
composes (`Recalls.trans`), and a client that gives up its connection finds in
it the first fault that its socket has ever met.

A client that is closed has no connection, and every operation looks for that
first. So it is closed for good (`over_of_closed`), and what it has received
only waits to be handed out.

## Main definitions

* `firstFault`: The first fault of a record of calls.
* `Connection.Recalls`: An operation has remembered the first fault.
* `Client.Phase`: Fresh, live or closed.
* `Client.Over`: A client that is closed for good.
* `ClientHistory.Proceeds`: How a request moves a client.

## Theorems

* `recalls_advance`: What a wait leads to remembers the first fault.
* `Life.recalls`, `Life.unwatched`: The laws for the life of a client.
* `proceeds_serve`: How every request moves a client.
* `over_of_closed`: A closed client answers so.
* `client_lives_once`: The law for every history.
-/

namespace LineChat

/-! ## The first fault -/

/-- The first fault that the calls of a record have met. -/
def firstFault (calls : List SocketCall) : Option Fault := calls.findSome? SocketCall.fault?

theorem firstFault_append (a b : List SocketCall) :
    firstFault (a ++ b) = (firstFault a).or (firstFault b) := List.findSome?_append

theorem firstFault_cons (call : SocketCall) (calls : List SocketCall) :
    firstFault (call :: calls) = call.fault?.or (firstFault calls) := by
  have hone : firstFault [call] = call.fault? := by
    unfold firstFault
    rw [List.findSome?_cons]
    cases call.fault? <;> rfl
  rw [← hone, ← firstFault_append]
  rfl

theorem firstFault_of_fault? {call : SocketCall} (h : call.fault? = none) :
    firstFault [call] = none := by
  rw [firstFault_cons, h]
  rfl

namespace Connection

/-- An operation with these calls has remembered the first fault, unless another
    was remembered before. What the socket itself remembers is the same. -/
structure Recalls (c : Connection) (calls : List SocketCall) (c' : Connection) : Prop where
  failure : c'.failure = c.failure.or (firstFault calls)
  remembered : c'.socket.remembered = c.socket.remembered

section Recalls

variable {c c' c'' : Connection} {calls calls' : List SocketCall}

theorem Recalls.trans (h : c.Recalls calls c') (h' : c'.Recalls calls' c'') :
    c.Recalls (calls ++ calls') c'' := by
  refine ⟨?_, h'.remembered.trans h.remembered⟩
  rw [h'.failure, h.failure, firstFault_append, Option.or_assoc]

-- Calls that meet no fault, and a connection that remembers what it did before.
theorem recalls_of_same (hnone : firstFault calls = none) (hfailure : c'.failure = c.failure)
    (hremembered : c'.socket.remembered = c.socket.remembered) : c.Recalls calls c' := by
  refine ⟨?_, hremembered⟩
  rw [hnone, hfailure, Option.or_none]

theorem recalls_refl (c : Connection) : c.Recalls [] c := recalls_of_same rfl rfl rfl

theorem failure_close (c : Connection) : c.close.failure = c.failure := by
  unfold close
  split <;> rfl

theorem socket_close (c : Connection) : c.close.socket = c.socket := by
  unfold close
  split <;> rfl

theorem recalls_close (c : Connection) : c.Recalls [] c.close :=
  recalls_of_same rfl (failure_close c) (congrArg _ (socket_close c))

theorem recalls_markOpen (c : Connection) : c.Recalls [] c.markOpen := by
  unfold markOpen
  split
  · exact recalls_of_same rfl rfl rfl
  · exact recalls_refl c

theorem Socket.remembered_watch (s : Socket) : s.watch.2.remembered = s.remembered := by
  unfold Socket.watch
  split <;> rfl

-- A refused interest closes the connection, but it is no fault of the socket.
theorem recalls_setInterest (c : Connection) (interest : Interest) :
    c.Recalls (c.setInterest interest).2 (c.setInterest interest).1 := by
  have hwatched := Socket.remembered_watch c.socket
  rcases c.setInterest_cases interest with ⟨h, _⟩ | ⟨r, _, _, _, h⟩ | ⟨r, fault, _, _, _, h⟩
  · rw [h]
    exact recalls_refl c
  · rw [h]
    exact recalls_of_same rfl rfl hwatched
  · rw [h]
    exact recalls_of_same rfl (failure_close _) ((congrArg _ (socket_close _)).trans hwatched)

/-! ## Reading and writing -/

-- A pass has remembered what its one call has met. A call that may be made again
-- has met no fault.
theorem recalls_readPass {answer : ReadAnswer} {ms : List Message} (h : c.ReadPass answer c' ms) :
    c.Recalls [.read answer] c' := by
  cases h with
  | again fault hagain =>
      exact recalls_of_same (firstFault_of_fault? (if_pos (Or.inr hagain))) rfl rfl
  | fails fault hfault =>
      refine ⟨?_, congrArg _ (socket_close _)⟩
      rw [firstFault_cons, hfault]
      exact failure_close _
  | ends data => exact recalls_of_same rfl (failure_close c) (congrArg _ (socket_close c))
  | refused data o => exact recalls_of_same rfl (failure_close _) (congrArg _ (socket_close _))
  | fed data => exact recalls_of_same rfl rfl rfl

theorem recalls_writePass {answer result : Except Fault Nat} (h : c.WritePass answer c' result) :
    c.Recalls [.write c.outbound.bytes result] c' := by
  cases h with
  | again fault hagain =>
      exact recalls_of_same (firstFault_of_fault? (if_pos (Or.inr hagain))) rfl rfl
  | fails fault hfault =>
      refine ⟨?_, congrArg _ (socket_close _)⟩
      rw [firstFault_cons, hfault]
      exact failure_close _
  | ends n => exact recalls_of_same rfl (failure_close c) (congrArg _ (socket_close c))
  | taken n => exact recalls_of_same rfl rfl rfl

theorem recalls_readFrom (answers : List ReadAnswer) (c : Connection) :
    c.Recalls (readFrom answers c).calls (readFrom answers c).connection :=
  readFrom_law (R := fun c _ calls c' => c.Recalls calls c') Recalls.trans
    (fun _ _ => recalls_of_same rfl rfl rfl)
    (fun _ _ _ hblock => recalls_of_same (firstFault_of_fault? (if_pos (Or.inl hblock))) rfl rfl)
    (fun _ hpass => recalls_readPass hpass) answers c

theorem recalls_flushFrom (answers : List (Except Fault Nat)) (c : Connection) :
    c.Recalls (flushFrom answers c).2 (flushFrom answers c).1 :=
  flushFrom_law (R := fun c calls c' => c.Recalls calls c') Recalls.trans
    (fun _ _ => recalls_of_same rfl rfl rfl)
    (fun _ _ _ hblock => recalls_of_same (firstFault_of_fault? (if_pos (Or.inl hblock))) rfl rfl)
    (fun _ _ hpass => recalls_writePass hpass) answers c

theorem recalls_flushReady (c : Connection) : c.Recalls c.flushReady.2 c.flushReady.1 := by
  unfold flushReady
  have hflushed := recalls_flushFrom c.socket.writes c
  dsimp only
  split
  · exact hflushed.trans (recalls_setInterest _ .readable)
  · exact hflushed

theorem recalls_queueBytes (c : Connection) (data : ByteArray) :
    c.Recalls (c.queueBytes data).calls (c.queueBytes data).connection := by
  rcases c.queueBytes_cases data with ⟨_, hrefused⟩ | ⟨_, queue, _, _, hqueued⟩
  · rw [hrefused]
    exact recalls_close c
  · rw [hqueued]
    have hset := recalls_setInterest { c with outbound := queue } .both
    exact ⟨hset.failure, hset.remembered⟩

theorem recalls_handle (c : Connection) (e : Event) :
    c.Recalls (c.handle e).calls (c.handle e).connection :=
  handle_law (R := fun c _ calls c' => c.Recalls calls c') recalls_refl Recalls.trans
    (fun c => recalls_readFrom c.socket.reads c) recalls_flushReady recalls_close c e

end Recalls

/-! ## Acts -/

section Acts

variable {c c' : Connection} {ms : List Message} {calls : List SocketCall} {queued : ByteArray}

/-- A connection on which work goes on is registered, its calls do not change
    that, and it remembers the first fault of them. -/
structure Lasts (c : Connection) (calls : List SocketCall) (c' : Connection) : Prop where
  failure : c'.failure = c.failure.or (firstFault calls)
  unreleased : c.Unreleased → c'.Unreleased
  watched : ∀ call ∈ calls, call.isUnwatch = false

theorem Act.lasts (h : c.Act ms calls queued c') : c.Lasts calls c' := by
  cases h with
  | equip socket =>
      cases socket with
      | none => exact ⟨(recalls_refl c).failure, id, List.forall_mem_nil _⟩
      | some socket =>
          exact ⟨(Option.or_none).symm, fun hc => hc.of_eq rfl rfl, List.forall_mem_nil _⟩
  | answered =>
      exact ⟨(recalls_markOpen c).failure, fun hc => hc.markOpen, List.forall_mem_nil _⟩
  | read =>
      refine ⟨(recalls_readFrom _ c).failure, fun hc => hc.readFrom _, fun call hcall => ?_⟩
      rcases mem_calls_readFrom _ c call hcall with ⟨answer, rfl⟩
      rfl
  | write =>
      exact ⟨(recalls_flushReady c).failure, fun hc => hc.flushReady,
        fun call hcall => (outward_flushReady c call hcall).2⟩
  | queue data =>
      exact ⟨(recalls_queueBytes c data).failure, fun hc => hc.queueBytes data,
        fun call hcall => (outward_queueBytes c data call hcall).2⟩
  | close => exact ⟨(recalls_close c).failure, fun hc => hc.close, List.forall_mem_nil _⟩

theorem Acts.lasts (h : c.Acts ms calls queued c') : c.Lasts calls c' := by
  induction h with
  | rest => exact ⟨(recalls_refl c).failure, id, List.forall_mem_nil _⟩
  | act _ last ih =>
      have hlast := last.lasts
      refine ⟨?_, fun hc => hlast.unreleased (ih.unreleased hc), ?_⟩
      · rw [hlast.failure, ih.failure, firstFault_append, Option.or_assoc]
      · exact List.forall_mem_append.mpr ⟨ih.watched, hlast.watched⟩

end Acts

end Connection

namespace Client

/-! ## A wait -/

theorem recalls_handleAll (es : List Event) (c : Connection) :
    c.Recalls (handleAll es c).calls (handleAll es c).connection := by
  induction es generalizing c with
  | nil => exact c.recalls_refl
  | cons e es ih =>
      exact ((c.recalls_markOpen.trans (c.markOpen.recalls_handle e)).trans (ih _))

/-- What a wait leads to remembers the first fault. -/
theorem recalls_advance (outcome : WaitOutcome) (c : Connection) :
    c.Recalls (advance outcome c).calls (advance outcome c).connection := by
  cases outcome with
  | ready e es => exact recalls_handleAll (e :: es) c
  | timeout =>
      unfold advance
      dsimp only
      split
      · exact c.recalls_flushReady
      · exact c.recalls_refl

/-! ## Phases -/

/-- Where a client is in its life. -/
inductive Phase
  /-- It has not connected yet. -/
  | fresh
  /-- It has a connection. -/
  | live
  /-- Its connection has ended. -/
  | closed
  deriving DecidableEq

/-- The phase of a client. One with a connection that has ended would be in
    none. -/
def phase? (cl : Client) : Option Phase :=
  match cl.connection, cl.ended with
  | none, false => some .fresh
  | some _, false => some .live
  | none, true => some .closed
  | some _, true => none

section Phases

variable {cl : Client}

theorem phase?_eq_fresh : cl.phase? = some .fresh ↔ cl.connection = none ∧ cl.ended = false := by
  unfold phase?
  cases cl.connection <;> cases cl.ended <;> simp

theorem phase?_eq_live :
    cl.phase? = some .live ↔ (∃ c, cl.connection = some c) ∧ cl.ended = false := by
  unfold phase?
  cases cl.connection <;> cases cl.ended <;> simp

theorem phase?_eq_closed : cl.phase? = some .closed ↔ cl.connection = none ∧ cl.ended = true := by
  unfold phase?
  cases cl.connection <;> cases cl.ended <;> simp

theorem phase?_equip (cl : Client) (socket : Option Socket) :
    (cl.equip socket).phase? = cl.phase? := by
  unfold phase? equip
  cases cl.connection <;> cases cl.ended <;> rfl

/-- A client that is closed for good. It has no connection, and whatever it is
    asked for, it answers that it is gone and does nothing. -/
structure Over (cl : Client) : Prop where
  state : cl.state? = some .removed
  descriptor : cl.hasDescriptor = false
  pending : cl.pendingEvents = .none
  connect : ∀ d target, cl.connect d target = ⟨.error .alreadyStarted, cl, []⟩
  update : ∀ socket wait, (cl.equip socket).update wait
    = ⟨.error (.system (.custom .connectionAborted "connection closed")), cl, []⟩
  feed : ∀ socket data, (cl.equip socket).feed data
    = ⟨.error (.system (.custom .connectionAborted "connection closed")), cl, []⟩

theorem over_of_closed (h : cl.phase? = some .closed) : cl.Over := by
  rcases phase?_eq_closed.mp h with ⟨hnone, hended⟩
  have hequip : ∀ socket, cl.equip socket = cl := by
    intro socket
    unfold equip
    rw [hnone, Option.map_none, ← hnone]
  refine ⟨?_, ?_, ?_, fun d target => ?_, fun socket wait => ?_, fun socket data => ?_⟩
  · unfold state?
    rw [if_pos hended]
  · unfold hasDescriptor
    rw [hnone]
    rfl
  · unfold pendingEvents
    rw [hnone]
  · unfold Client.connect
    rw [hended, Bool.or_true, if_pos rfl]
  · rw [hequip]
    unfold Client.update
    rw [if_pos hended]
    rfl
  · rw [hequip]
    unfold Client.feed
    rw [if_pos hended]
    rfl

end Phases

/-! ## Operations -/

/-- A client connects only while it is fresh. If it cannot, it is as it was. -/
theorem connect_proceeds {cl : Client} {p : Phase} (h : cl.phase? = some p) (d : Dialler)
    (target : String) :
    (p = .fresh ∧ (cl.connect d target).answer = .ok () ∧
        (cl.connect d target).client.phase? = some .live) ∨
      (∃ e, cl.connect d target = ⟨.error e, cl, []⟩ ∧ (p ≠ .fresh → e = .alreadyStarted)) := by
  unfold connect
  by_cases hstarted : (cl.connection.isSome || cl.ended) = true
  · rw [if_pos hstarted]
    exact Or.inr ⟨_, rfl, fun _ => rfl⟩
  · rw [if_neg hstarted]
    have hfresh : cl.phase? = some .fresh := phase?_eq_fresh.mpr (by simpa using hstarted)
    rw [h, Option.some.injEq] at hfresh
    subst hfresh
    cases resolve d.names target with
    | error e => exact Or.inr ⟨_, rfl, fun hp => absurd rfl hp⟩
    | ok addresses =>
        cases d.prepare with
        | error fault => exact Or.inr ⟨_, rfl, fun hp => absurd rfl hp⟩
        | ok =>
            cases hdial : dialFirst d cl.config.maxBuffer (.badAddress target) addresses with
            | error e =>
                simp only [hdial]
                exact Or.inr ⟨_, rfl, fun hp => absurd rfl hp⟩
            | ok c =>
                simp only [hdial]
                refine Or.inl ⟨trivial, trivial, phase?_eq_live.mpr ⟨⟨c, rfl⟩, ?_⟩⟩
                exact (phase?_eq_fresh.mp h).2

/-- An update leaves the phase of a client, or it closes a live one. It answers
    then with the fault that the connection remembers. -/
theorem update_proceeds {cl : Client} {p : Phase} (h : cl.phase? = some p) (wait : WaitAnswer) :
    (cl.update wait).client.phase? = some p ∨
      (p = .live ∧ (cl.update wait).client.phase? = some .closed ∧
        ∃ c outcome, cl.connection = some c ∧
          (cl.update wait).answer = .error (advance outcome c).connection.cause ∧
          (cl.update wait).calls
            = (advance outcome c).calls ++ (advance outcome c).connection.release.2) := by
  unfold update
  cases hended : cl.ended with
  | true => exact Or.inl h
  | false =>
      cases hc : cl.connection with
      | none => exact Or.inl h
      | some c =>
          have hlive : cl.phase? = some .live := phase?_eq_live.mpr ⟨⟨c, hc⟩, hended⟩
          rw [h, Option.some.injEq] at hlive
          subst hlive
          cases hwait : waitOutcome wait with
          | error fault => exact Or.inl h
          | ok outcome =>
              by_cases hactive : (advance outcome c).connection.isActive = true
              · left
                simp only [hactive, Bool.false_eq_true, if_false, if_true]
                exact phase?_eq_live.mpr ⟨⟨_, rfl⟩, rfl⟩
              · right
                simp only [hactive, Bool.false_eq_true, if_false]
                exact ⟨trivial, rfl, c, outcome, rfl, rfl, rfl⟩

/-- A feed leaves the phase of a client, or it is refused and closes a live one. -/
theorem feed_proceeds {cl : Client} {p : Phase} (h : cl.phase? = some p) (data : ByteArray) :
    (cl.feed data).client.phase? = some p ∨
      (p = .live ∧ (cl.feed data).client.phase? = some .closed ∧
        ∃ e, (cl.feed data).answer = .error e) := by
  unfold feed
  cases hended : cl.ended with
  | true => exact Or.inl h
  | false =>
      cases hc : cl.connection with
      | none => exact Or.inl h
      | some c =>
          have hlive : cl.phase? = some .live := phase?_eq_live.mpr ⟨⟨c, hc⟩, hended⟩
          rw [h, Option.some.injEq] at hlive
          subst hlive
          by_cases hsize : data.size = 0
          · simp only [hsize, Bool.false_eq_true, if_false, if_true]
            exact Or.inl h
          · simp only [hsize, Bool.false_eq_true, if_false]
            cases (c.queueBytes data).refusal with
            | none => exact Or.inl (phase?_eq_live.mpr ⟨⟨_, rfl⟩, rfl⟩)
            | some e => exact Or.inr ⟨trivial, rfl, _, rfl⟩

/-! ## Lives -/

section Lives

variable {cl : Client} {calls : List SocketCall}

theorem failure_of_dialled {limit : Nat} {c : Connection} (h : c.Dialled limit) :
    c.failure = none ∧ c.Unreleased := by
  rcases h with ⟨socket, address, hdialled⟩
  refine ⟨?_, Connection.unreleased_of_register hdialled (by decide)⟩
  unfold Connection.dialled Connection.register at hdialled
  split at hdialled
  · cases hdialled
  · cases hdialled
    rfl

/-- The connection of a client remembers the first fault that its socket has ever
    met. -/
theorem Life.recalls (h : cl.Life calls) {c : Connection} (hc : cl.connection = some c) :
    c.failure = firstFault calls := by
  cases h with
  | fresh hnone =>
      rw [hnone] at hc
      cases hc
  | live c₀ c ms calls queued hdialled hacts hthere =>
      rw [hthere, Option.some.injEq] at hc
      subst hc
      rw [hacts.lasts.failure, (failure_of_dialled hdialled).1, firstFault_cons]
      rfl
  | past c₀ c ms calls queued _ _ hnone =>
      rw [hnone] at hc
      cases hc

/-- A client has given up its registration once if it is closed, and not at all
    before. -/
theorem Life.unwatched (h : cl.Life calls) {p : Phase} (hp : cl.phase? = some p) :
    calls.countP SocketCall.isUnwatch = if p = .closed then 1 else 0 := by
  have hnone : ∀ {calls : List SocketCall}, (∀ call ∈ calls, call.isUnwatch = false) →
      calls.countP SocketCall.isUnwatch = 0 := by
    intro calls hcalls
    rw [List.countP_eq_zero]
    exact fun call hcall => Bool.eq_false_iff.mp (hcalls call hcall)
  cases h with
  | fresh hconnection hended =>
      rw [phase?_eq_fresh.mpr ⟨hconnection, hended⟩, Option.some.injEq] at hp
      subst hp
      rfl
  | live c₀ c ms calls queued hdialled hacts hthere =>
      have hne : p ≠ .closed := by
        rintro rfl
        rw [(phase?_eq_closed.mp hp).1] at hthere
        cases hthere
      rw [if_neg hne]
      exact hnone (List.forall_mem_cons.mpr ⟨rfl, hacts.lasts.watched⟩)
  | past c₀ c ms calls queued hdialled hacts hconnection hended =>
      rw [phase?_eq_closed.mpr ⟨hconnection, hended⟩, Option.some.injEq] at hp
      subst hp
      have hkept := hacts.lasts.unreleased (failure_of_dialled hdialled).2
      rw [if_pos rfl, ← List.cons_append, List.countP_append, hkept.release_calls,
        hnone (List.forall_mem_cons.mpr ⟨rfl, hacts.lasts.watched⟩)]
      rfl

end Lives

end Client

namespace ClientHistory

open Client

/-- Why a client that has made these calls has lost its connection: the first
    fault that the socket has met, or the one that it remembers itself, or else
    that the connection is gone. -/
def lossOf (calls : List SocketCall) (socket : Socket) : SessionError :=
  match (firstFault calls).or socket.remembered with
  | some fault => .system fault
  | none => .closed

/-- How a request moves a client from one phase to another. Only connecting makes
    a fresh client live, only an update or a feed closes it, and a client that
    cannot connect is as it was. -/
inductive Proceeds (h : ClientHistory) : ClientRequest → Phase → Phase → Prop
  | connects (d : Dialler) (target : String) (hok : (h.client.connect d target).answer = .ok ()) :
      Proceeds h (.connect d target) .fresh .live
  | fails (d : Dialler) (target : String) (e : SessionError)
      (hfails : h.client.connect d target = ⟨.error e, h.client, []⟩) :
      Proceeds h (.connect d target) .fresh .fresh
  | started (d : Dialler) (target : String) (p : Phase) (hp : p ≠ .fresh)
      (hstarted : h.client.connect d target = ⟨.error .alreadyStarted, h.client, []⟩) :
      Proceeds h (.connect d target) p p
  | updates (socket : Socket) (wait : WaitAnswer) (p : Phase) :
      Proceeds h (.update socket wait) p p
  | loses (socket : Socket) (wait : WaitAnswer)
      (hanswer : ((h.client.equip (some socket)).update wait).answer
        = .error (lossOf (h.serve (.update socket wait)).calls socket)) :
      Proceeds h (.update socket wait) .live .closed
  | feeds (socket : Socket) (data : ByteArray) (p : Phase) : Proceeds h (.feed socket data) p p
  | overflows (socket : Socket) (data : ByteArray) (e : SessionError)
      (hanswer : ((h.client.equip (some socket)).feed data).answer = .error e) :
      Proceeds h (.feed socket data) .live .closed
  | pops (p : Phase) : Proceeds h .pop p p

section Proceeds

variable {h : ClientHistory} {p : Phase}

theorem firstFault_release (c : Connection) : firstFault c.release.2 = none := by
  unfold Connection.release
  cases c.registration <;> rfl

-- The connection that is given up remembers the first fault of all calls, those of
-- this update included.
theorem loses_update (hlife : h.client.Life h.calls) {socket : Socket} {wait : WaitAnswer}
    {c : Connection} {outcome : WaitOutcome}
    (hc : (h.client.equip (some socket)).connection = some c)
    (hanswer : ((h.client.equip (some socket)).update wait).answer
      = .error (advance outcome c).connection.cause)
    (hcalls : ((h.client.equip (some socket)).update wait).calls
      = (advance outcome c).calls ++ (advance outcome c).connection.release.2) :
    h.Proceeds (.update socket wait) .live .closed := by
  refine .loses socket wait (hanswer.trans (congrArg _ ?_))
  have hsocket : c.socket = socket := by
    rcases Option.map_eq_some_iff.mp hc with ⟨c₀, _, rfl⟩
    rfl
  have hrecalls := recalls_advance outcome c
  have hall : (h.serve (.update socket wait)).calls
      = h.calls ++ ((advance outcome c).calls ++ (advance outcome c).connection.release.2) :=
    congrArg _ hcalls
  have hfailure : (advance outcome c).connection.failure
      = firstFault (h.serve (.update socket wait)).calls := by
    rw [hall, firstFault_append, firstFault_append, firstFault_release, Option.or_none,
      hrecalls.failure, (hlife.equip (some socket)).recalls hc]
  unfold Connection.cause lossOf
  rewrite [hfailure, hrecalls.remembered, hsocket]
  rfl

/-- Every request moves a client from its phase to one that may follow. -/
theorem proceeds_serve (hlife : h.client.Life h.calls) (hp : h.client.phase? = some p)
    (request : ClientRequest) :
    ∃ p', (h.serve request).client.phase? = some p' ∧ h.Proceeds request p p' := by
  cases request with
  | connect d target =>
      rcases connect_proceeds hp d target with ⟨rfl, hok, hlive⟩ | ⟨e, hsame, hstarted⟩
      · exact ⟨.live, hlive, .connects d target hok⟩
      · have hclient : (h.client.connect d target).client = h.client := congrArg _ hsame
        refine ⟨p, (congrArg _ hclient).trans hp, ?_⟩
        by_cases hfresh : p = .fresh
        · subst hfresh
          exact .fails d target e hsame
        · rw [hstarted hfresh] at hsame
          exact .started d target p hfresh hsame
  | update socket wait =>
      rw [← phase?_equip h.client (some socket)] at hp
      rcases update_proceeds hp wait with hsame | ⟨rfl, hclosed, c, outcome, hc, hanswer, hcalls⟩
      · exact ⟨p, hsame, .updates socket wait p⟩
      · exact ⟨.closed, hclosed, loses_update hlife hc hanswer hcalls⟩
  | feed socket data =>
      rw [← phase?_equip h.client (some socket)] at hp
      rcases feed_proceeds hp data with hsame | ⟨rfl, hclosed, e, hanswer⟩
      · exact ⟨p, hsame, .feeds socket data p⟩
      · exact ⟨.closed, hclosed, .overflows socket data e hanswer⟩
  | pop =>
      refine ⟨p, ?_, .pops p⟩
      unfold serve Client.pop
      cases h.client.messages with
      | nil => exact hp
      | cons m ms => exact hp

theorem phase_serveAll (requests : List ClientRequest) (hlife : h.client.Life h.calls)
    (hp : h.client.phase? = some p) : ∃ p', (serveAll requests h).client.phase? = some p' := by
  induction requests generalizing h p with
  | nil => exact ⟨p, hp⟩
  | cons request requests ih =>
      rcases proceeds_serve hlife hp request with ⟨p', hp', _⟩
      exact ih (life_serve hlife request) hp'

/-- All messages that have come in, whether they were handed out or not. -/
def inbox (h : ClientHistory) : List Message := h.popped ++ h.client.messages

theorem inbox_pop (h : ClientHistory) : (h.serve .pop).inbox = h.inbox := by
  unfold inbox serve Client.pop
  cases hmessages : h.client.messages with
  | nil =>
      dsimp only
      rw [hmessages]
  | cons m ms =>
      dsimp only
      rw [List.append_assoc]
      rfl

/-- No request loses a message that has come in. -/
theorem inbox_prefix_serve (h : ClientHistory) (request : ClientRequest) :
    h.inbox <+: (h.serve request).inbox := by
  have hsame : ∀ ms, ms = h.client.messages → h.inbox <+: h.popped ++ ms := by
    rintro ms rfl
    exact List.prefix_rfl
  have hworks : ∀ {cl cl' : Client} {c : Connection} {queued : ByteArray}
      {calls : List SocketCall}, cl.Works c queued cl' calls → cl.messages = h.client.messages →
      h.inbox <+: h.popped ++ cl'.messages := by
    intro cl cl' c queued calls hworks hmessages
    rcases hworks.moves with ⟨_, ms, _, hmore, _⟩
    rw [hmore, hmessages, ← List.append_assoc]
    exact List.prefix_append _ _
  cases request with
  | connect d target =>
      rcases h.client.connect_cases d target with ⟨hclient, _⟩ | ⟨_, _, c, _, hclient, _⟩
      · have hmessages := congrArg Client.messages hclient
        exact hsame _ hmessages
      · have hmessages := congrArg Client.messages hclient
        exact hsame _ hmessages
  | update socket wait =>
      rcases (h.client.equip (some socket)).update_works wait with ⟨hclient, _⟩ | ⟨c, _, hmoved⟩
      · have hmessages := congrArg Client.messages hclient
        exact hsame _ hmessages
      · exact hworks hmoved rfl
  | feed socket data =>
      rcases (h.client.equip (some socket)).feed_works data with ⟨hclient, _⟩ | ⟨c, _, hmoved⟩
      · have hmessages := congrArg Client.messages hclient
        exact hsame _ hmessages
      · exact hworks hmoved rfl
  | pop =>
      rewrite [inbox_pop]
      exact List.prefix_rfl

-- A closed client stays closed. Its socket is not called any more, and no message
-- comes in or is lost.
theorem closed_serve (hp : h.client.phase? = some .closed) (request : ClientRequest) :
    (h.serve request).client.phase? = some .closed ∧ (h.serve request).calls = h.calls ∧
      (h.serve request).inbox = h.inbox := by
  have hover := over_of_closed hp
  have hnote : ∀ o : Client.Outcome, o.client = h.client → o.calls = [] →
      (h.note o).client.phase? = some .closed ∧ (h.note o).calls = h.calls ∧
        (h.note o).inbox = h.inbox := by
    intro o hclient hcalls
    refine ⟨(congrArg _ hclient).trans hp, ?_, ?_⟩
    · exact (congrArg _ hcalls).trans (List.append_nil _)
    · exact congrArg (h.popped ++ ·) (congrArg Client.messages hclient)
  cases request with
  | connect d target =>
      have hsame := hover.connect d target
      exact hnote _ (congrArg _ hsame) (congrArg _ hsame)
  | update socket wait =>
      have hsame := hover.update (some socket) wait
      exact hnote _ (congrArg _ hsame) (congrArg _ hsame)
  | feed socket data =>
      have hsame := hover.feed (some socket) data
      exact hnote _ (congrArg _ hsame) (congrArg _ hsame)
  | pop =>
      refine ⟨?_, ?_, h.inbox_pop⟩
      · unfold serve Client.pop
        cases h.client.messages <;> exact hp
      · unfold serve Client.pop
        cases h.client.messages <;> rfl

theorem closed_serveAll (requests : List ClientRequest) (hp : h.client.phase? = some .closed) :
    (serveAll requests h).client.phase? = some .closed ∧ (serveAll requests h).calls = h.calls ∧
      (serveAll requests h).inbox = h.inbox := by
  induction requests generalizing h with
  | nil => exact ⟨hp, rfl, rfl⟩
  | cons request requests ih =>
      rcases closed_serve hp request with ⟨hp', hcalls, hinbox⟩
      rcases ih hp' with ⟨hp'', hcalls', hinbox'⟩
      exact ⟨hp'', hcalls'.trans hcalls, hinbox'.trans hinbox⟩

end Proceeds

end ClientHistory

/-- In every history a client is in one phase, and a request moves it only from
    fresh to live and from live to closed, or not at all. Whoever closes it with
    an update is told the first fault that the socket has met. The registration
    was given up once if the client is closed, and not at all before. All
    messages of the bytes that were read are there or were handed out, and no
    request loses one. A closed client answers that it is gone, whatever is
    asked later. -/
theorem client_lives_once (config : ClientConfig) (hlimit : config.maxBuffer < wordBound)
    (requests : List ClientRequest) :
    let h := ClientHistory.serveAll requests (.start (Client.ofConfig config))
    ∃ p, h.client.phase? = some p ∧
      (∀ request, ∃ p', (h.serve request).client.phase? = some p' ∧ h.Proceeds request p p') ∧
      h.calls.countP SocketCall.isUnwatch = (if p = .closed then 1 else 0) ∧
      h.inbox = messagesOf ((split (receivedBytes h.calls)).within config.maxBuffer) ∧
      (∀ request, h.inbox <+: (h.serve request).inbox) ∧
      (p = .closed → h.client.Over ∧ ∀ later,
        let h' := ClientHistory.serveAll later h
        h'.client.phase? = some .closed ∧ h'.client.Over ∧ h'.calls = h.calls ∧
          h'.inbox = h.inbox) := by
  intro h
  have hfresh : (Client.ofConfig config).Life [] := .fresh rfl rfl
  have hlife : h.client.Life h.calls := ClientHistory.life_serveAll requests _ hfresh
  have hsound : h.Sound config.maxBuffer :=
    ClientHistory.sound_serveAll hlimit requests (ClientHistory.sound_start config)
  rcases ClientHistory.phase_serveAll (h := .start (Client.ofConfig config)) requests hfresh rfl
    with ⟨p, hp⟩
  refine ⟨p, hp, ClientHistory.proceeds_serve hlife hp, hlife.unwatched hp, hsound.messages,
    h.inbox_prefix_serve, ?_⟩
  rintro rfl
  refine ⟨Client.over_of_closed hp, fun later => ?_⟩
  rcases ClientHistory.closed_serveAll later hp with ⟨hp', hcalls, hinbox⟩
  exact ⟨hp', Client.over_of_closed hp', hcalls, hinbox⟩

/-- A client whose first connect was refused connects, feeds a line and reads one,
    and in the same update its connection is reset. It is told so, has given up its
    registration once, and keeps the line. -/
theorem client_lives_once_until_reset :
    let refusing : Dialler := ⟨Directory.none, .ok (), fun _ => .error (.errno 111)⟩
    let dialler : Dialler := ⟨Directory.none, .ok (), fun _ => .ok Socket.idle⟩
    let requests : List ClientRequest := [.connect refusing "127.0.0.1:9",
      .connect dialler "127.0.0.1:9", .feed Socket.idle "hi\n".toUTF8]
    let socket : Socket := ⟨[.ok "ok\n".toUTF8, .error (.errno 104)], [], [], none⟩
    let wait : WaitAnswer := .ok [⟨1, true, false, false, false⟩]
    let h := ClientHistory.serveAll requests (.start (Client.ofConfig ⟨8, 1⟩))
    let h' := ClientHistory.serveAll (requests ++ [.update socket wait])
      (.start (Client.ofConfig ⟨8, 1⟩))
    8 < wordBound ∧ h.client.phase? = some .live ∧ h'.client.phase? = some .closed ∧
      ((h.client.equip (some socket)).update wait).answer = .error (.system (.errno 104)) ∧
      h'.calls.countP SocketCall.isUnwatch = 1 ∧ h'.inbox.map Message.bytes = ["ok".toUTF8] ∧
      h'.client.Over := by
  intro refusing dialler requests socket wait h h'
  have hlimit : 8 < wordBound := by decide
  have hlive : h.client.phase? = some .live := by decide +kernel
  have hclosed : h'.client.phase? = some .closed := by decide +kernel
  have hreceived : receivedBytes h'.calls = "ok\n".toUTF8 := by decide +kernel
  have hname : ClientHistory.serveAll requests (.start (Client.ofConfig ⟨8, 1⟩)) = h := rfl
  have hname' : ClientHistory.serveAll (requests ++ [.update socket wait])
      (.start (Client.ofConfig ⟨8, 1⟩)) = h' := rfl
  have hnext : h.serve (.update socket wait) = h' := rfl
  rcases client_lives_once ⟨8, 1⟩ hlimit requests with ⟨p, hp, hproceeds, _⟩
  rcases client_lives_once ⟨8, 1⟩ hlimit (requests ++ [.update socket wait]) with
    ⟨p', hp', _, hunwatched, hinbox, _, hover⟩
  rw [hname] at hp hproceeds
  rw [hname'] at hp' hunwatched hinbox hover
  rw [hlive, Option.some.injEq] at hp
  rw [hclosed, Option.some.injEq] at hp'
  subst hp hp'
  rcases hproceeds (.update socket wait) with ⟨p', hp', hstep⟩
  rw [hnext, hclosed, Option.some.injEq] at hp'
  subst hp'
  cases hstep with
  | loses _ _ hanswer =>
      have hloss : ClientHistory.lossOf h'.calls socket = .system (.errno 104) := by decide +kernel
      rw [hnext, hloss] at hanswer
      refine ⟨hlimit, hlive, hclosed, hanswer, hunwatched, ?_, (hover rfl).1⟩
      rw [hinbox, hreceived]
      decide +kernel

end LineChat
