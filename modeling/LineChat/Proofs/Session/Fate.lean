import LineChat.Proofs.Session.Course

/-!
# What Becomes of a Peer

Everything that a step of the server can do to one peer.

The account of the two streams (`Connection.Carries`) says what goes through a
connection. It leaves out which calls were made and what became of the
registration, so here a step is followed for one peer with nothing left out. A
peer that stays was touched in one of four ways: not at all, by other answers of
its socket, by an event, by a message. The last two happen to an active peer
only, so a peer that has ended is not called any more until it is released.

A law about one connection is therefore proved for four touches, and `fate_of_step`
makes it a law about every step. Two such laws are here. A registration is
given up in a release and nowhere else, and every read call is made while what
has been read so far keeps to the limit.

## Main definitions

* `SocketCall.Outward`: Calls that write or register.
* `Connection.Unreleased`: A connection that was not released.
* `Connection.ReadsFit`: The reads of an operation stop at a line too long.
* `Connection.Touch`: What may be done to a connection between two steps.
* `Fate`: What a step does to one peer.

## Theorems

* `calls_handle`: The calls of an event.
* `Touch.unreleased`, `Touch.keeps_watch`, `Touch.reads`: Laws of every touch.
* `count_departures_releaseMarked`: Who is taken out leaves once.
* `fate_of_step`: Every step is a fate for every peer.
-/

namespace LineChat

namespace SocketCall

/-- The call reads. -/
def isRead : SocketCall → Bool
  | read _ => true
  | _ => false

/-- The call gives up the registration. -/
def isUnwatch : SocketCall → Bool
  | unwatch => true
  | _ => false

/-- The call writes, or asks for an interest. -/
def Outward (call : SocketCall) : Prop := call.isRead = false ∧ call.isUnwatch = false

end SocketCall

namespace Connection

/-! ## Calls -/

theorem isRead_of_mem_readFrom (answers : List ReadAnswer) (c : Connection) :
    ∀ call ∈ (readFrom answers c).calls, call.isRead = true := by
  intro call hcall
  rcases mem_calls_readFrom answers c call hcall with ⟨answer, rfl⟩
  rfl

theorem outward_setInterest (c : Connection) (interest : Interest) :
    ∀ call ∈ (c.setInterest interest).2, call.Outward := by
  rcases c.setInterest_cases interest with ⟨h, _⟩ | ⟨r, _, _, _, h⟩ | ⟨r, fault, _, _, _, h⟩
  · simp [h]
  · simp [h, SocketCall.Outward, SocketCall.isRead, SocketCall.isUnwatch]
  · simp [h, SocketCall.Outward, SocketCall.isRead, SocketCall.isUnwatch]

theorem outward_flushFrom (answers : List (Except Fault Nat)) (c : Connection) :
    ∀ call ∈ (flushFrom answers c).2, call.Outward := by
  intro call hcall
  rcases mem_calls_flushFrom answers c call hcall with ⟨offered, answer, rfl⟩
  exact ⟨rfl, rfl⟩

theorem outward_flushReady (c : Connection) : ∀ call ∈ c.flushReady.2, call.Outward := by
  unfold flushReady
  dsimp only
  split
  · intro call hcall
    rcases List.mem_append.mp hcall with hflush | hset
    · exact outward_flushFrom _ _ call hflush
    · exact outward_setInterest _ _ call hset
  · exact outward_flushFrom _ _

theorem outward_queueMessage (c : Connection) (m : Message) :
    ∀ call ∈ (c.queueMessage m).calls, call.Outward := by
  rcases c.queueMessage_cases m with ⟨_, _, hcalls⟩ | ⟨_, queue, _, _, _, hcalls⟩
  · simp [hcalls]
  · rw [hcalls]
    split
    · exact outward_setInterest _ _
    · simp

theorem outward_queueBytes (c : Connection) (data : ByteArray) :
    ∀ call ∈ (c.queueBytes data).calls, call.Outward := by
  rcases c.queueBytes_cases data with ⟨_, hrefused⟩ | ⟨_, queue, _, _, hqueued⟩
  · rw [hrefused]
    exact List.forall_mem_nil _
  · rw [hqueued]
    exact outward_setInterest _ .both

-- An event is read for first, and what is called after that does not read.
theorem calls_handle (c : Connection) (e : Event) :
    ∃ reads others, (c.handle e).calls = reads ++ others ∧
      (reads = c.readReady.calls ∨ reads = []) ∧ ∀ call ∈ others, call.Outward := by
  rcases c.handle_parts e with ⟨received, flushed, hread, hwrite, _, _, hcalls⟩
  refine ⟨received.calls, flushed.2, hcalls, ?_, ?_⟩
  · rcases hread with rfl | rfl
    · exact Or.inl rfl
    · exact Or.inr rfl
  · rcases hwrite with rfl | rfl
    · exact outward_flushReady _
    · exact List.forall_mem_nil _

/-! ## Registrations -/

/-- The connection is registered and was not released. -/
structure Unreleased (c : Connection) : Prop where
  registered : c.registration.isSome = true
  present : c.state ≠ .removed

-- A connection that is not released is active, or else it is closing.
theorem Unreleased.isActive_iff {c : Connection} (h : c.Unreleased) :
    c.isActive = true ↔ c.state ≠ .closing := by
  have hpresent := h.present
  unfold isActive ConnectionState.isActive
  cases hstate : c.state with
  | connecting => simp
  | opened => simp
  | closing => simp
  | removed => exact absurd hstate hpresent

theorem Unreleased.of_eq {c c' : Connection} (h : c.Unreleased)
    (hregistration : c'.registration = c.registration) (hstate : c'.state = c.state) :
    c'.Unreleased := by
  refine ⟨?_, ?_⟩
  · rw [hregistration]
    exact h.registered
  · rw [hstate]
    exact h.present

theorem unreleased_of_register {s : Socket} {address : SocketAddress} {token limit : Nat}
    {interest : Interest} {state : ConnectionState} {c : Connection}
    (h : register s address token interest state limit = .ok c) (hstate : state ≠ .removed) :
    c.Unreleased := by
  unfold register at h
  split at h
  · cases h
  · rw [Except.ok.injEq] at h
    rw [← h]
    exact ⟨rfl, hstate⟩

theorem Unreleased.close {c : Connection} (h : c.Unreleased) : c.close.Unreleased := by
  unfold Connection.close
  split
  · exact ⟨h.registered, by simp⟩
  · exact h

theorem Unreleased.fail {c : Connection} (h : c.Unreleased) (fault : Fault) :
    (c.fail fault).Unreleased :=
  Unreleased.close (h.of_eq rfl rfl)

theorem Unreleased.markOpen {c : Connection} (h : c.Unreleased) : c.markOpen.Unreleased := by
  unfold Connection.markOpen
  split
  · exact ⟨h.registered, ConnectionState.noConfusion⟩
  · exact h

theorem Unreleased.setInterest {c : Connection} (h : c.Unreleased) (interest : Interest) :
    (c.setInterest interest).1.Unreleased := by
  rcases c.setInterest_cases interest with ⟨hset, _⟩ | ⟨r, _, _, _, hset⟩ | ⟨r, fault, _, _, _, hset⟩
  · rw [hset]
    exact h
  · rw [hset]
    exact ⟨rfl, h.present⟩
  · rw [hset]
    exact Unreleased.close (h.of_eq rfl rfl)

theorem Unreleased.readFrom {c : Connection} (h : c.Unreleased) (answers : List ReadAnswer) :
    (Connection.readFrom answers c).connection.Unreleased :=
  readFrom_keeps (fun _ _ hc => hc.of_eq rfl rfl) (fun _ hc => hc.close)
    (fun _ fault hc => hc.fail fault) (fun _ _ hc => hc.of_eq rfl rfl) answers h

theorem Unreleased.flushFrom {c : Connection} (h : c.Unreleased)
    (answers : List (Except Fault Nat)) : (Connection.flushFrom answers c).1.Unreleased :=
  flushFrom_keeps (fun _ _ hc => hc.of_eq rfl rfl) (fun _ hc => hc.close)
    (fun _ fault hc => hc.fail fault) (fun _ _ _ _ hc => hc.of_eq rfl rfl) answers h

theorem Unreleased.flushReady {c : Connection} (h : c.Unreleased) :
    c.flushReady.1.Unreleased := by
  unfold Connection.flushReady
  have hflushed := h.flushFrom c.socket.writes
  dsimp only
  split
  · exact hflushed.setInterest .readable
  · exact hflushed

theorem Unreleased.handle {c : Connection} (h : c.Unreleased) (e : Event) :
    (c.handle e).connection.Unreleased :=
  handle_law (R := fun c _ _ c' => c.Unreleased → c'.Unreleased) (fun _ hc => hc)
    (fun h h' hc => h' (h hc)) (fun _ hc => hc.readFrom _) (fun _ hc => hc.flushReady)
    (fun _ hc => hc.close) c e h

theorem Unreleased.queueMessage {c : Connection} (h : c.Unreleased) (m : Message) :
    (c.queueMessage m).connection.Unreleased := by
  rcases c.queueMessage_cases m with ⟨_, hclosed, _⟩ | ⟨_, queue, _, _, hconnection, _⟩
  · rw [hclosed]
    exact h.close
  · have hqueued : { c with outbound := queue }.Unreleased := h.of_eq rfl rfl
    rw [hconnection]
    split
    · exact hqueued.setInterest .both
    · exact hqueued

theorem Unreleased.queueBytes {c : Connection} (h : c.Unreleased) (data : ByteArray) :
    (c.queueBytes data).connection.Unreleased := by
  rcases c.queueBytes_cases data with ⟨_, hrefused⟩ | ⟨_, queue, _, _, hqueued⟩
  · rw [hrefused]
    exact h.close
  · have hqueue : { c with outbound := queue }.Unreleased := h.of_eq rfl rfl
    rw [hqueued]
    exact hqueue.setInterest .both

-- The registration of a connection that was not released is still there to be given up.
theorem Unreleased.release_calls {c : Connection} (h : c.Unreleased) :
    c.release.2 = [.unwatch] := by
  unfold release
  cases hregistration : c.registration with
  | none =>
      have hsome := h.registered
      rw [hregistration] at hsome
      cases hsome
  | some r => rfl

/-! ## Reads -/

/-- Every read call is made while the stream fits the limit. The stream is `s`
    before the calls, and grows by what they bring in. -/
def ReadsFit (limit : Nat) (s : ByteArray) (calls : List SocketCall) : Prop :=
  ∀ before answer after, calls = before ++ .read answer :: after →
    (split (s ++ receivedBytes before)).Fits limit

theorem readsFit_of_not_isRead {limit : Nat} {s : ByteArray} {calls : List SocketCall}
    (h : ∀ call ∈ calls, call.isRead = false) : ReadsFit limit s calls := by
  intro before answer after hcalls
  have hread := h (.read answer) (by simp [hcalls])
  cases hread

theorem readsFit_nil (limit : Nat) (s : ByteArray) : ReadsFit limit s [] :=
  readsFit_of_not_isRead (by simp)

theorem readsFit_cons {limit : Nat} {s : ByteArray} {call : SocketCall} {calls : List SocketCall}
    (hfirst : call.isRead = true → (split s).Fits limit)
    (hmore : ReadsFit limit (s ++ call.received) calls) : ReadsFit limit s (call :: calls) := by
  intro before answer after hcalls
  cases before with
  | nil =>
      rw [List.nil_append, List.cons.injEq] at hcalls
      rw [receivedBytes, ByteArray.append_empty]
      exact hfirst (by rw [hcalls.1]; rfl)
  | cons call' before =>
      rw [List.cons_append, List.cons.injEq] at hcalls
      rw [receivedBytes, ← ByteArray.append_assoc, ← hcalls.1]
      exact hmore before answer after hcalls.2

theorem ReadsFit.append {limit : Nat} {s : ByteArray} {a b : List SocketCall}
    (ha : ReadsFit limit s a) (hb : ReadsFit limit (s ++ receivedBytes a) b) :
    ReadsFit limit s (a ++ b) := by
  induction a generalizing s with
  | nil =>
      rw [receivedBytes, ByteArray.append_empty] at hb
      exact hb
  | cons call a ih =>
      rw [receivedBytes, ← ByteArray.append_assoc] at hb
      refine readsFit_cons (fun hread => ?_) (ih ?_ hb)
      · cases call with
        | read answer =>
            have hfits := ha [] answer a rfl
            rwa [receivedBytes, ByteArray.append_empty] at hfits
        | write data answer => cases hread
        | watch interest answer => cases hread
        | unwatch => cases hread
      · intro before answer after hsplit
        have hfits := ha (call :: before) answer after (by rw [hsplit]; rfl)
        rwa [receivedBytes, ← ByteArray.append_assoc] at hfits

-- Every pass of the loop begins with an active connection, and such a one has
-- read nothing that does not fit.
theorem readsFit_readFrom (answers : List ReadAnswer) {c : Connection}
    (hlimit : c.inbound.limit < wordBound) {s : ByteArray} {ms : List Message} (h : c.Heard s ms) :
    ReadsFit c.inbound.limit s (readFrom answers c).calls := by
  induction answers generalizing c s ms with
  | nil =>
      rw [readFrom]
      split
      · rename_i hactive
        exact readsFit_cons (fun _ => (h.held hactive).1) (readsFit_nil _ _)
      · exact readsFit_nil _ _
  | cons answer later ih =>
      by_cases hactive : c.isActive = true
      · have hfits := (h.held hactive).1
        rcases readFrom_cons answer later hactive with ⟨_, _, _, hstop⟩ | ⟨c', ms', hread, hgo⟩
        · rw [hstop]
          exact readsFit_cons (fun _ => hfits) (readsFit_nil _ _)
        · have hpass := carries_readPass hactive hread
          have hheard := hpass.heard hlimit s ms h
          rw [receivedBytes, receivedBytes, ByteArray.append_empty] at hheard
          have hmore := ih (by rw [hpass.inLimit]; exact hlimit) hheard
          rw [hpass.inLimit] at hmore
          rw [hgo]
          exact readsFit_cons (fun _ => hfits) hmore
      · rw [readFrom, if_neg hactive]
        exact readsFit_nil _ _

theorem readsFit_handle {c : Connection} (hlimit : c.inbound.limit < wordBound) {s : ByteArray}
    {ms : List Message} (h : c.Heard s ms) (e : Event) :
    ReadsFit c.inbound.limit s (c.handle e).calls := by
  rcases c.calls_handle e with ⟨reads, others, hcalls, hreads, houtward⟩
  have hothers : ReadsFit c.inbound.limit (s ++ receivedBytes reads) others :=
    readsFit_of_not_isRead fun call hcall => (houtward call hcall).1
  rw [hcalls]
  rcases hreads with rfl | rfl
  · exact (readsFit_readFrom _ hlimit h).append hothers
  · exact (readsFit_nil _ _).append hothers

/-! ## Touches -/

/-- What is done to the connection of a peer that stays, with the calls. -/
inductive Touch : Connection → List SocketCall → Connection → Prop
  | still (c : Connection) : Touch c [] c
  | equip (c : Connection) (socket : Option Socket) : Touch c [] (c.equip socket)
  | event (c : Connection) (e : Event) (hactive : c.isActive = true) :
      Touch c (c.handle e).calls (c.handle e).connection
  | message (c : Connection) (m : Message) (hactive : c.isActive = true) :
      Touch c (c.queueMessage m).calls (c.queueMessage m).connection

theorem Touch.unreleased {c c' : Connection} {calls : List SocketCall} (h : c.Touch calls c')
    (hc : c.Unreleased) : c'.Unreleased := by
  cases h with
  | still => exact hc
  | equip socket =>
      cases socket with
      | none => exact hc
      | some s => exact hc.of_eq rfl rfl
  | event e hactive => exact hc.handle e
  | message m hactive => exact hc.queueMessage m

theorem Touch.keeps_watch {c c' : Connection} {calls : List SocketCall} (h : c.Touch calls c') :
    ∀ call ∈ calls, call.isUnwatch = false := by
  cases h with
  | still => simp
  | equip socket => simp
  | event e hactive =>
      rcases c.calls_handle e with ⟨reads, others, hcalls, hreads, houtward⟩
      rw [hcalls]
      intro call hcall
      rcases List.mem_append.mp hcall with hread | hother
      · rcases hreads with rfl | rfl
        · have hread := isRead_of_mem_readFrom _ _ call hread
          cases call with
          | unwatch => cases hread
          | read answer => rfl
          | write data answer => rfl
          | watch interest answer => rfl
        · cases hread
      · exact (houtward call hother).2
  | message m hactive => exact fun call hcall => (c.outward_queueMessage m call hcall).2

theorem Touch.reads {c c' : Connection} {calls : List SocketCall} (h : c.Touch calls c')
    (hlimit : c.inbound.limit < wordBound) {s : ByteArray} {ms : List Message} (hs : c.Heard s ms) :
    ReadsFit c.inbound.limit s calls := by
  cases h with
  | still => exact readsFit_nil _ _
  | equip socket => exact readsFit_nil _ _
  | event e hactive => exact readsFit_handle hlimit hs e
  | message m hactive =>
      exact readsFit_of_not_isRead fun call hcall => (c.outward_queueMessage m call hcall).1

-- Whoever does not take a message is left as it is.
theorem touch_offer (c : Connection) (q : PeerId) (sender : Option PeerId) (m : Message) :
    c.Touch (c.offer q sender m).2 (c.offer q sender m).1 := by
  unfold offer
  by_cases hskip : (decide (some q = sender) || !c.isActive) = true
  · rw [if_pos hskip]
    exact .still c
  · rw [if_neg hskip]
    dsimp only
    exact .message c m (isActive_of_not_passed hskip)

end Connection

/-! ## Departures -/

theorem departures_dispatch (e : Event) (r : Registry) :
    departures (dispatch e r).2.deeds = [] := by
  rcases dispatch_cases e r with ⟨hnothing, _⟩ | ⟨c, _, _, hhandled⟩
  · rw [hnothing]
    rfl
  · simp [hhandled]

theorem departures_fanOutTo (sender : Option PeerId) (m : Message) (ps : List Peer) (r : Registry) :
    departures (fanOutTo sender m ps r).deeds = [] := by
  induction ps generalizing r with
  | nil => rfl
  | cons p ps ih =>
      rw [fanOutTo]
      split
      · exact ih r
      · simp [ih]

/-- Releasing takes out each peer that is there, once, however often its number
    comes up. -/
theorem count_departures_releaseMarked (ids : List PeerId) (r : Registry) (q : PeerId) :
    (departures (releaseMarked ids r).deeds).count q
      = if q ∈ ids ∧ (r.get? q).isSome then 1 else 0 := by
  induction ids generalizing r with
  | nil => simp [releaseMarked]
  | cons id ids ih =>
      rw [releaseMarked]
      cases hget : r.get? id with
      | none =>
          dsimp only
          rw [ih r]
          by_cases hq : q = id
          · simp [hq, hget]
          · simp [hq]
      | some c =>
          have hleft : departures (.left id :: (releaseMarked ids (r.erase id)).deeds)
              = id :: departures (releaseMarked ids (r.erase id)).deeds := rfl
          dsimp only
          rw [departures_append, departures_map_called, List.nil_append, hleft, List.count_cons,
            ih, Registry.get?_erase]
          by_cases hq : q = id
          · simp [hq, hget]
          · simp [hq, Ne.symm hq]

/-! ## Every step is a fate -/

/-- What a step does to the peer `q`, where `marked` are the peers that are to be
    taken out: it stays away, comes in, is touched, or is released and leaves. -/
inductive Fate (limit : Nat) (q : PeerId) (marked : List PeerId) (es : List Deed) :
    Option Connection → Option Connection → Prop
  | away (hcalls : callsOn q es = []) (hnew : q ∉ newcomers es)
      (hleft : (departures es).count q = 0) : Fate limit q marked es none none
  | comes (socket : Socket) (address : SocketAddress) (c : Connection)
      (hjoined : Connection.accepted socket address q.token limit = .ok c)
      (hes : es = [.joined q address, .called q (.watch .readable (.ok ()))]) :
      Fate limit q marked es none (some c)
  | stays (c c' : Connection) (htouch : c.Touch (callsOn q es) c') (hnew : q ∉ newcomers es)
      (hleft : (departures es).count q = 0) : Fate limit q marked es (some c) (some c')
  | goes (c : Connection) (hmarked : q ∈ marked) (hcalls : callsOn q es = c.release.2)
      (hnew : q ∉ newcomers es) (hleft : (departures es).count q = 1) :
      Fate limit q marked es (some c) none

-- Who comes in was away, and is there afterwards.
theorem Fate.newcomer_iff {limit : Nat} {q : PeerId} {marked : List PeerId} {es : List Deed}
    {before after : Option Connection} (h : Fate limit q marked es before after) :
    q ∈ newcomers es ↔ before.isNone ∧ after.isSome := by
  cases h with
  | away hcalls hnew hleft => simp [hnew]
  | comes socket address c hjoined hes =>
      rw [hes]
      simp [newcomers, Deed.newcomer?]
  | stays c c' htouch hnew hleft => simp [hnew]
  | goes c hmarked hcalls hnew hleft => simp [hnew]

-- A step that does not call the peer leaves it as it is.
theorem fate_of_unmoved {limit : Nat} {q : PeerId} {marked : List PeerId} {es : List Deed}
    (c? : Option Connection) (hcalls : callsOn q es = []) (hnew : q ∉ newcomers es)
    (hleft : (departures es).count q = 0) : Fate limit q marked es c? c? := by
  cases c? with
  | none => exact .away hcalls hnew hleft
  | some c =>
      refine .stays c c ?_ hnew hleft
      rw [hcalls]
      exact .still c

theorem fate_of_join {limit : Nat} {r : Registry} (h : r.Orderly) (q : PeerId) (socket : Socket)
    (address : SocketAddress) (c : Connection)
    (hjoined : Connection.accepted socket address r.allocate.1.token limit = .ok c) :
    Fate limit q r.marked
      [.joined r.allocate.1 address, .called r.allocate.1 (.watch .readable (.ok ()))]
      (r.get? q) ((r.allocate.2.insert r.allocate.1 c).get? q) := by
  have hlook : (r.allocate.2.insert r.allocate.1 c).get? q
      = (r.get? q).or (if r.allocate.1 = q then some c else none) := Registry.get?_insert _ _ _ _
  rw [hlook]
  by_cases hq : r.allocate.1 = q
  · subst hq
    have hnone : r.get? r.allocate.1 = none := Registry.get?_eq_none_of_le h (Nat.le_refl _)
    rw [if_pos rfl, hnone]
    exact .comes socket address c hjoined rfl
  · rw [if_neg hq, Option.or_none]
    refine fate_of_unmoved _ ?_ ?_ rfl
    · simp [callsOn, Deed.call?, hq]
    · simp [newcomers, Deed.newcomer?, Ne.symm hq]

theorem fate_of_dispatch (limit : Nat) (r : Registry) (e : Event) (q : PeerId) :
    Fate limit q r.marked (dispatch e r).2.deeds (r.get? q)
      ((dispatch e r).2.registry.get? q) := by
  have hnew : q ∉ newcomers (dispatch e r).2.deeds := by
    rw [(record_dispatch e r).2.1]
    exact List.not_mem_nil
  have hleft : (departures (dispatch e r).2.deeds).count q = 0 := by
    rw [departures_dispatch]
    rfl
  rcases dispatch_cases e r with ⟨hnothing, _⟩ | ⟨c, hsender, hactive, hhandled⟩
  · rw [hnothing]
    exact fate_of_unmoved _ rfl List.not_mem_nil rfl
  · rw [hhandled] at hnew hleft ⊢
    rw [Registry.get?_markEnded, Registry.get?_set]
    by_cases hq : q = PeerId.ofToken e.token
    · subst hq
      rw [if_pos rfl, hsender]
      refine .stays c _ ?_ hnew hleft
      rw [callsOn_append, callsOn_map_called, if_pos rfl, callsOn_map_framed, List.append_nil]
      exact .event c e hactive
    · rw [if_neg hq]
      refine fate_of_unmoved _ ?_ hnew hleft
      rw [callsOn_append, callsOn_map_called, if_neg (Ne.symm hq), callsOn_map_framed]
      rfl

theorem fate_of_relay (limit : Nat) {r : Registry} (h : r.Orderly) (sender : Option PeerId)
    (m : Message) (q : PeerId) :
    Fate limit q r.marked (fanOut sender m r).deeds (r.get? q)
      ((fanOut sender m r).registry.get? q) := by
  have hnew : q ∉ newcomers (fanOut sender m r).deeds := by
    rw [(record_fanOut sender m r).2.1]
    exact List.not_mem_nil
  have hleft : (departures (fanOut sender m r).deeds).count q = 0 := by
    unfold fanOut
    rw [departures_fanOutTo]
    rfl
  rcases fanOut_peer h sender m q with ⟨haway, hthere⟩
  cases hget : r.get? q with
  | none =>
      rcases haway hget with ⟨hnone, hcalls⟩
      rw [hnone]
      exact .away hcalls hnew hleft
  | some c =>
      rcases hthere c hget with ⟨hsome, hcalls⟩
      rw [hsome]
      refine .stays c _ ?_ hnew hleft
      rw [hcalls]
      exact c.touch_offer q sender m

theorem fate_of_remove (limit : Nat) {r : Registry} (h : r.Orderly) (q : PeerId) :
    Fate limit q r.marked (removeMarked r).deeds (r.get? q)
      ((removeMarked r).registry.get? q) := by
  have hnew : q ∉ newcomers (removeMarked r).deeds := by
    rw [(record_removeMarked h).2.1]
    exact List.not_mem_nil
  have hcount : (departures (removeMarked r).deeds).count q
      = if q ∈ r.marked ∧ (r.get? q).isSome then 1 else 0 :=
    count_departures_releaseMarked r.marked { r with marked := [] } q
  by_cases hmarked : q ∈ r.marked
  · cases hget : r.get? q with
    | none =>
        have habsent := releaseMarked_absent r.marked { r with marked := [] } (q := q) hget
        rw [show (removeMarked r).registry.get? q = none from habsent.1]
        exact .away habsent.2 hnew (by simpa [hget] using hcount)
    | some c =>
        have hself := releaseMarked_self r.marked { r with marked := [] } hmarked (c := c) hget
        rw [show (removeMarked r).registry.get? q = none from hself.1]
        exact .goes c hmarked hself.2 hnew (by simpa [hget, hmarked] using hcount)
  · have hother := releaseMarked_other r.marked { r with marked := [] } hmarked
    rw [show (removeMarked r).registry.get? q = r.get? q from hother.1]
    exact fate_of_unmoved _ hother.2 hnew (by simpa [hmarked] using hcount)

/-- Every step is a fate for every peer. -/
theorem fate_of_step {limit : Nat} {s s' : Stage} {es : List Deed} (h : Step limit s es s')
    (horderly : s.registry.Orderly) (q : PeerId) :
    Fate limit q s.registry.marked es (s.registry.get? q) (s'.registry.get? q) := by
  cases h with
  | equip r sockets =>
      rw [Registry.get?_equip]
      cases r.get? q with
      | none => exact .away rfl List.not_mem_nil rfl
      | some c => exact .stays c _ (.equip c _) List.not_mem_nil rfl
  | turnAway r address hfull => exact fate_of_unmoved _ rfl List.not_mem_nil rfl
  | acceptFault r fault => exact fate_of_unmoved _ rfl List.not_mem_nil rfl
  | lose r socket address fault hroom hlost =>
      exact fate_of_unmoved (r.get? q) rfl List.not_mem_nil rfl
  | join r socket address c hroom hjoined => exact fate_of_join horderly q socket address c hjoined
  | dispatch r e => exact fate_of_dispatch limit r e q
  | broadcast r ms =>
      refine fate_of_unmoved _ (callsOn_map_framed _ _ _) ?_ ?_
      · rw [newcomers_map_framed]
        exact List.not_mem_nil
      · rw [departures_map_framed]
        rfl
  | relay r sender m waiting => exact fate_of_relay limit horderly sender m q
  | remove r => exact fate_of_remove limit horderly q

end LineChat
