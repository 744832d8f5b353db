import LineChat.Proofs.Line.Resuming
import LineChat.Proofs.Session.Inbox
import LineChat.Proofs.Session.Numbers
import LineChat.Proofs.Session.Tidy

/-!
# Faults Stay with Their Peer

What one peer meets ends that peer, and no other.

One batch touches many peers. An event of one of them brings messages, and each
is queued for all others at once, so a connection is used while somebody else's
event is dealt with, and it can end there. Whose fault that is cannot be seen
in the result. It can be seen in what was done to the one connection: the calls
on its socket, the events that tell of it, the bytes it has read, and the lines
it was given. `Connection.OwnFault` names the five ways in which these end a
connection, and `Connection.Fares` says of an operation that the connection goes
on with its streams moved, or ends by such a way, or had ended before and rests.

It composes (`Fares.trans`): a fault of a later part is one of the whole, since
what the part began with is what the bytes and lines before it have left. So it
is enough to look at one read, one write, one close and one queued line, and to
find for a batch that every peer is reached by nothing else.

## Main definitions

* `SocketCall.fails`: A call after which a connection cannot go on.
* `Connection.OwnFault`: What a connection has met that ends it.
* `Connection.Fares`: What an operation does to a connection.
* `ServerRequest.told`: The events of a request that tell of a peer.
* `Connection.Unharmed`: Only its own bytes and whole lines went through it.

## Theorems

* `Fares.trans`: Two operations one after the other.
* `fares_handle`, `fares_offer`: An event and a message.
* `fares_batch_step`, `fares_removeMarked`: A peer in a batch.
* `fares_serve`: A peer in a request.
* `faults_stay_with_their_peer`: Every request in every state.
-/

namespace LineChat

/-- A connection cannot go on after the call: it has met a fault, it has moved
    nothing where something was to be moved, or an interest was refused. -/
def SocketCall.fails (call : SocketCall) : Bool :=
  call.fault?.isSome || match call with
    | read (.ok data) => data.size == 0
    | write _ (.ok n) => n == 0
    | watch _ (.error _) => true
    | _ => false

theorem SocketCall.fails_of_fault? {call : SocketCall} {fault : Fault}
    (h : call.fault? = some fault) : call.fails = true := by
  unfold fails
  rw [h]
  rfl

namespace Connection

/-! ## How a connection fares -/

/-- A connection with a limit has met something that ends it, while it was given
    lines, made calls, and events told of it. One of its calls has failed, one of
    the events was an error or a hangup, a record that it has read is too long,
    or a line finds no room in its queue. -/
inductive OwnFault (limit : Nat) (told : List Event) (c : Connection) (given : List Message)
    (calls : List SocketCall) : Prop
  | call (call : SocketCall) (hcall : call ∈ calls) (hfails : call.fails = true)
  | event (e : Event) (he : e ∈ told) (hends : (e.error || e.hangup) = true)
  | record (hlong : ¬ (Split.goOn c.inbound.pending (receivedBytes calls)).Fits limit)
  | queue (before : List Message) (m : Message) (later : List Message) (queue : ByteArray)
      (hgiven : given = before ++ m :: later)
      (hqueue : c.outbound.bytes ++ wires before = sentBytes calls ++ queue)
      (hfull : limit < queue.size + m.wire.size)

/-- What an operation does to a connection that is given lines. It goes on, and
    its streams have moved by the bytes of its calls and by these lines. Or it
    ends, and it has met what ends it. Or it had ended before, and nothing is
    done to it. -/
inductive Fares (limit : Nat) (told : List Event) (c : Connection) (given : List Message)
    (calls : List SocketCall) (c' : Connection) : Prop
  | goesOn (ms : List Message) (hcarries : c.Carries c' ms calls (wires given))
      (hactive : c'.isActive = true) (hstate : c'.state = c.state)
      (hpending : c'.inbound.pending
        = (Split.goOn c.inbound.pending (receivedBytes calls)).rest)
  | ends (hactive : c.isActive = true) (hended : c'.isActive = false)
      (hfault : c.OwnFault limit told given calls)
  | rests (hended : c.isActive = false) (hstate : c'.state = c.state)
      (hin : c'.inbound = c.inbound) (hout : c'.outbound = c.outbound)
      (hreceived : receivedBytes calls = ByteArray.empty)
      (hsent : sentBytes calls = ByteArray.empty)

section Fares

variable {limit : Nat} {told : List Event} {c c' c'' : Connection} {given given' : List Message}
  {calls calls' : List SocketCall}

-- What has ended a connection is not undone by what comes later.
theorem OwnFault.append (h : c.OwnFault limit told given calls) (given' : List Message)
    (hreceived : receivedBytes calls' = ByteArray.empty)
    (hsent : sentBytes calls' = ByteArray.empty) :
    c.OwnFault limit told (given ++ given') (calls ++ calls') := by
  cases h with
  | call call hcall hfails => exact .call call (List.mem_append_left _ hcall) hfails
  | event e he hends => exact .event e he hends
  | record hlong =>
      refine .record ?_
      rw [receivedBytes_append, hreceived, ByteArray.append_empty]
      exact hlong
  | queue before m later queue hgiven hqueue hfull =>
      refine .queue before m (later ++ given') queue ?_ ?_ hfull
      · rw [hgiven, List.append_assoc, List.cons_append]
      · rw [sentBytes_append, hsent, ByteArray.append_empty]
        exact hqueue

-- What ends a connection that has gone on ends it from the beginning.
theorem OwnFault.behind (h : c'.OwnFault limit told given' calls')
    (hsent : c.outbound.bytes ++ wires given = sentBytes calls ++ c'.outbound.bytes)
    (hpending : c'.inbound.pending = (Split.goOn c.inbound.pending (receivedBytes calls)).rest) :
    c.OwnFault limit told (given ++ given') (calls ++ calls') := by
  cases h with
  | call call hcall hfails => exact .call call (List.mem_append_right _ hcall) hfails
  | event e he hends => exact .event e he hends
  | record hlong =>
      refine .record fun hfits => hlong ?_
      rw [receivedBytes_append] at hfits
      rw [hpending]
      exact Split.fits_rest_of_fits_goOn_append hfits
  | queue before m later queue hgiven hqueue hfull =>
      refine .queue (given ++ before) m later queue ?_ ?_ hfull
      · rw [hgiven, List.append_assoc]
      · rw [wires_append, ← ByteArray.append_assoc, hsent, ByteArray.append_assoc, hqueue,
          sentBytes_append, ByteArray.append_assoc]

theorem Fares.trans (h : c.Fares limit told given calls c')
    (h' : c'.Fares limit told given' calls' c'') :
    c.Fares limit told (given ++ given') (calls ++ calls') c'' := by
  cases h with
  | goesOn ms hcarries hactive hstate hpending =>
      cases h' with
      | goesOn ms' hcarries' hactive' hstate' hpending' =>
          have hboth := hcarries.trans hcarries'
          rw [← wires_append] at hboth
          refine .goesOn _ hboth hactive' (hstate'.trans hstate) ?_
          rw [hpending', hpending, receivedBytes_append, Split.rest_goOn_append]
      | ends _ hended hfault =>
          exact .ends (hcarries.active hactive) hended (hfault.behind hcarries.sent hpending)
      | rests hended =>
          rw [hactive] at hended
          cases hended
  | ends hactive hended hfault =>
      cases h' with
      | goesOn ms' hcarries' hactive' =>
          have hgoes := hcarries'.active hactive'
          rw [hended] at hgoes
          cases hgoes
      | ends hactive' =>
          rw [hended] at hactive'
          cases hactive'
      | rests _ hstate _ _ hreceived hsent =>
          refine .ends hactive ?_ (hfault.append given' hreceived hsent)
          rw [isActive, hstate]
          exact hended
  | rests hended hstate hin hout hreceived hsent =>
      have hended' : c'.isActive = false := by
        rw [isActive, hstate]
        exact hended
      cases h' with
      | goesOn ms' hcarries' hactive' =>
          have hgoes := hcarries'.active hactive'
          rw [hended'] at hgoes
          cases hgoes
      | ends hactive' =>
          rw [hended'] at hactive'
          cases hactive'
      | rests _ hstate' hin' hout' hreceived' hsent' =>
          refine .rests hended (hstate'.trans hstate) (hin'.trans hin) (hout'.trans hout) ?_ ?_
          · rw [receivedBytes_append, hreceived, hreceived', ByteArray.append_empty]
          · rw [sentBytes_append, hsent, hsent', ByteArray.append_empty]

-- Calls that transfer nothing, and a connection of which nothing has changed that
-- matters here.
theorem fares_of_still (hstate : c'.state = c.state) (hin : c'.inbound = c.inbound)
    (hout : c'.outbound = c.outbound) (hreceived : receivedBytes calls = ByteArray.empty)
    (hsent : sentBytes calls = ByteArray.empty) : c.Fares limit told [] calls c' := by
  cases hactive : c.isActive with
  | true =>
      have hactive' : c'.isActive = true := by rw [isActive, hstate]; exact hactive
      refine .goesOn [] (carries_of_still hin hout (fun _ => hactive) hreceived hsent) hactive'
        hstate ?_
      rw [hreceived, Split.goOn_nothing, hin]
  | false => exact .rests hactive hstate hin hout hreceived hsent

theorem fares_refl (c : Connection) : c.Fares limit told [] [] c :=
  fares_of_still rfl rfl rfl rfl rfl

theorem fares_equip (c : Connection) (socket : Option Socket) :
    c.Fares limit told [] [] (c.equip socket) := by
  cases socket with
  | none => exact fares_refl c
  | some s => exact fares_of_still rfl rfl rfl rfl rfl

-- A call has failed and the connection is closed.
theorem fares_of_fails (hactive : c.isActive = true) (hended : c'.isActive = false)
    {call : SocketCall} (hfails : call.fails = true) : c.Fares limit told given [call] c' :=
  .ends hactive hended (.call call (List.mem_singleton.mpr rfl) hfails)

/-! ## Reading and writing -/

-- A call that may be made again has moved nothing.
theorem fares_readPass (hactive : c.isActive = true) (hin : c.inbound.limit = limit)
    (hlimit : limit < wordBound) {answer : ReadAnswer} {ms : List Message}
    (h : c.ReadPass answer c' ms) : c.Fares limit told [] [.read answer] c' := by
  have hcarries := carries_readPass hactive h
  cases h with
  | again fault => exact fares_of_still rfl rfl rfl rfl rfl
  | fails fault hfault =>
      exact fares_of_fails hactive (isActive_close _) (SocketCall.fails_of_fault? hfault)
  | ends data hnone => exact fares_of_fails hactive (isActive_close _) (beq_iff_eq.mpr hnone)
  | refused data o hrefused =>
      rcases c.inbound.feed_reads_kept (hin.trans_lt hlimit) data with ⟨_, _, _, haccepted⟩
      refine .ends hactive (isActive_close _) (.record fun hfits => ?_)
      rw [show receivedBytes [.read (.ok data)] = data from ByteArray.append_empty, ← hin] at hfits
      rw [haccepted.mpr hfits] at hrefused
      cases hrefused
  | fed data _ haccepted =>
      rcases c.inbound.feed_reads_kept (hin.trans_lt hlimit) data with ⟨_, hrest, _, hfits⟩
      refine .goesOn _ hcarries hactive rfl ?_
      rw [show receivedBytes [.read (.ok data)] = data from ByteArray.append_empty]
      rw [Split.kept_of_fits (hfits.mp haccepted)] at hrest
      exact hrest

theorem fares_readFrom (answers : List ReadAnswer) {c : Connection} (hin : c.inbound.limit = limit)
    (hlimit : limit < wordBound) :
    c.Fares limit told [] (readFrom answers c).calls (readFrom answers c).connection := by
  refine (readFrom_law (R := fun c _ calls c' => c.inbound.limit = limit →
    c.Fares limit told [] calls c' ∧ c'.inbound.limit = limit) (fun h h' hin => ?_)
    (fun _ _ hin => ⟨fares_of_still rfl rfl rfl rfl rfl, hin⟩)
    (fun _ _ _ _ hin => ⟨fares_of_still rfl rfl rfl rfl rfl, hin⟩)
    (fun hactive hpass hin => ?_) answers c hin).1
  · rcases h hin with ⟨hfirst, hbetween⟩
    rcases h' hbetween with ⟨hmore, hafter⟩
    exact ⟨hfirst.trans hmore, hafter⟩
  · exact ⟨fares_readPass hactive hin hlimit hpass,
      (carries_readPass hactive hpass).inLimit.trans hin⟩

theorem fares_writePass (hactive : c.isActive = true) {answer result : Except Fault Nat}
    (h : c.WritePass answer c' result) :
    c.Fares limit told [] [.write c.outbound.bytes result] c' := by
  have hcarries := carries_writePass h
  cases h with
  | again fault => exact fares_of_still rfl rfl rfl rfl rfl
  | fails fault hfault =>
      exact fares_of_fails hactive (isActive_close _) (SocketCall.fails_of_fault? hfault)
  | ends n => exact fares_of_fails hactive (isActive_close _) rfl
  | taken n =>
      refine .goesOn _ hcarries hactive rfl ?_
      rw [show receivedBytes [.write c.outbound.bytes (.ok (min n c.outbound.size))]
        = ByteArray.empty from rfl, Split.goOn_nothing]

theorem fares_flushFrom (answers : List (Except Fault Nat)) (c : Connection) :
    c.Fares limit told [] (flushFrom answers c).2 (flushFrom answers c).1 :=
  flushFrom_law (R := fun c calls c' => c.Fares limit told [] calls c') Fares.trans
    (fun _ _ => fares_of_still rfl rfl rfl rfl rfl)
    (fun _ _ _ _ => fares_of_still rfl rfl rfl rfl rfl)
    (fun hactive _ hpass => fares_writePass hactive hpass) answers c

theorem fares_setInterest (c : Connection) (hactive : c.isActive = true) (interest : Interest) :
    c.Fares limit told [] (c.setInterest interest).2 (c.setInterest interest).1 := by
  rcases c.setInterest_cases interest with ⟨h, _⟩ | ⟨r, _, _, _, h⟩ | ⟨r, fault, _, _, _, h⟩
  · rw [h]
    exact fares_refl c
  · rw [h]
    exact fares_of_still rfl rfl rfl rfl rfl
  · rw [h]
    exact fares_of_fails hactive (isActive_close _) rfl

theorem fares_flushReady (c : Connection) :
    c.Fares limit told [] c.flushReady.2 c.flushReady.1 := by
  unfold flushReady
  have hflushed : c.Fares limit told [] _ _ := fares_flushFrom c.socket.writes c
  dsimp only
  split
  · rename_i hdone
    rw [Bool.and_eq_true] at hdone
    exact hflushed.trans (fares_setInterest _ hdone.1 .readable)
  · exact hflushed

/-! ## Events and lines -/

/-- An event reads, writes, and ends a connection only if it says so itself. -/
theorem fares_handle (c : Connection) (hin : c.inbound.limit = limit) (hlimit : limit < wordBound)
    {e : Event} (he : e ∈ told) :
    c.Fares limit told [] (c.handle e).calls (c.handle e).connection := by
  rcases c.handle_parts e with ⟨received, flushed, hr, hw, hend, _, hcalls⟩
  have hreceived : c.Fares limit told [] received.calls received.connection := by
    rcases hr with rfl | rfl
    · exact fares_readFrom c.socket.reads hin hlimit
    · exact fares_refl c
  have hflushed : received.connection.Fares limit told [] flushed.2 flushed.1 := by
    rcases hw with rfl | rfl
    · exact fares_flushReady _
    · exact fares_refl _
  have hended : flushed.1.Fares limit told [] [] (c.handle e).connection := by
    rcases hend with ⟨h, hends⟩ | h
    · rw [h]
      cases hactive : flushed.1.isActive with
      | true => exact .ends hactive (isActive_close _) (.event e he hends)
      | false =>
          have hsame : flushed.1.close = flushed.1 := by
            unfold close
            rw [hactive, if_neg Bool.false_ne_true]
          rw [hsame]
          exact fares_refl _
    · rw [h]
      exact fares_refl _
  have hall := (hreceived.trans hflushed).trans hended
  simp only [List.append_nil] at hall
  rw [hcalls]
  exact hall

/-- A message is queued as a whole line, or it finds no room. -/
theorem fares_queueMessage (c : Connection) (hactive : c.isActive = true)
    (hout : c.outbound.limit = limit) (hlimit : limit < wordBound) (m : Message) :
    c.Fares limit told [m] (c.queueMessage m).calls (c.queueMessage m).connection := by
  rcases c.queueMessage_cases m with
    ⟨hfull, hclosed, hcalls⟩ | ⟨_, queue, hbytes, hsame, hconnection, hcalls⟩
  · rw [hclosed, hcalls]
    have hlarge : limit < c.outbound.bytes.size + m.wire.size := by
      rw [m.size_wire]
      unfold Buffer.size at hfull
      omega
    refine .ends hactive (isActive_close c) (.queue [] m [] c.outbound.bytes rfl ?_ hlarge)
    rw [wires_nil, ByteArray.append_empty]
    exact ByteArray.empty_append.symm
  · have hcarries := carries_queue c hbytes hsame
    have hqueued : c.Fares limit told [m] [] { c with outbound := queue } := by
      refine .goesOn [] ?_ hactive rfl ?_
      · rw [wires_cons, wires_nil, ByteArray.append_empty]
        exact hcarries
      · rw [show receivedBytes [] = ByteArray.empty from rfl, Split.goOn_nothing]
    rw [hconnection, hcalls]
    split
    · exact hqueued.trans (fares_setInterest { c with outbound := queue } hactive .both)
    · exact hqueued

/-- A message that is offered is given to everybody but its sender. -/
theorem fares_offer (c : Connection) (hout : c.outbound.limit = limit) (hlimit : limit < wordBound)
    (q : PeerId) (sender : Option PeerId) (m : Message) :
    c.Fares limit told (fromOthers q [(sender, m)]) (c.offer q sender m).2
      (c.offer q sender m).1 := by
  unfold offer
  by_cases hsender : some q = sender
  · have hnone : fromOthers q [(sender, m)] = [] := by simp [fromOthers, hsender]
    rw [if_pos (by simp [hsender]), hnone]
    exact fares_refl c
  · have hone : fromOthers q [(sender, m)] = [m] := by simp [fromOthers, Ne.symm hsender]
    rw [hone]
    by_cases hactive : c.isActive = true
    · rw [if_neg (by simp [hsender, hactive])]
      exact fares_queueMessage c hactive hout hlimit m
    · rw [if_pos (by simp [hactive])]
      exact .rests (Bool.eq_false_iff.mpr hactive) rfl rfl rfl rfl rfl

end Fares

end Connection

/-! ## A peer in a batch -/

-- A peer that is there has a number below those that are given from now on.
theorem callsOn_acceptAll (limit : Nat) (arrivals : List AcceptAnswer) (r : Registry) {q : PeerId}
    (hq : q.number < r.nextNumber) : callsOn q (acceptAll limit arrivals r).deeds = [] := by
  refine (acceptAll_law (R := fun r es r' => q.number < r.nextNumber →
    callsOn q es = [] ∧ q.number < r'.nextNumber) (fun _ hq => ⟨rfl, hq⟩) (fun h h' hq => ?_)
    (fun {r _ _} harrival hq => ?_) arrivals r hq).1
  · rcases h hq with ⟨hfirst, hbetween⟩
    rcases h' hbetween with ⟨hmore, hafter⟩
    rw [callsOn_append, hfirst, hmore]
    exact ⟨rfl, hafter⟩
  · cases harrival with
    | turnAway address hfull => exact ⟨rfl, hq⟩
    | acceptFault fault => exact ⟨rfl, hq⟩
    | lose socket address fault hroom hlost => exact ⟨rfl, Nat.lt_succ_of_lt hq⟩
    | join socket address c hroom hjoined =>
        have hne : r.allocate.1 ≠ q := by
          rintro rfl
          exact Nat.lt_irrefl _ hq
        refine ⟨?_, Nat.lt_succ_of_lt hq⟩
        simp [callsOn, Deed.call?, hne]

section Batch

variable {limit maxPeers : Nat} {told : List Event} {ds : List Deed} {q : PeerId} {c : Connection}

-- An event that tells of somebody else does not reach the peer.
theorem fares_dispatch (hlimit : limit < wordBound) {r : Registry}
    (h : Course limit ⟨Registry.empty maxPeers, []⟩ ds ⟨r, []⟩) {e : Event}
    (he : PeerId.ofToken e.token = q → e ∈ told) (hc : r.get? q = some c) :
    ∃ c', (dispatch e r).2.registry.get? q = some c' ∧
      c.Fares limit told [] (callsOn q (dispatch e r).2.deeds) c' := by
  rcases dispatch_cases e r with ⟨hnothing, _⟩ | ⟨c₀, hsender, _, hhandled⟩
  · rw [hnothing]
    exact ⟨c, hc, c.fares_refl⟩
  · rw [hhandled]
    simp only [Registry.get?_markEnded, Registry.get?_set, callsOn_append, callsOn_map_called,
      callsOn_map_framed, List.append_nil]
    by_cases hq : q = PeerId.ofToken e.token
    · subst hq
      rw [hc, Option.some.injEq] at hsender
      subst hsender
      rw [if_pos rfl, if_pos rfl, hc]
      exact ⟨_, rfl, c.fares_handle (limits_of_course h hc).1 hlimit (he rfl)⟩
    · rw [if_neg hq, if_neg (Ne.symm hq)]
      exact ⟨c, hc, c.fares_refl⟩

-- Every message of the list is offered to the peer, one after the other.
theorem fares_fanOutAll (told : List Event) (hlimit : limit < wordBound)
    (sender : Option PeerId) (ms : List Message)
    {r : Registry} (h : Course limit ⟨Registry.empty maxPeers, []⟩ ds ⟨r, ms.map (Prod.mk sender)⟩)
    (hc : r.get? q = some c) :
    ∃ c', (fanOutAll sender ms r).registry.get? q = some c' ∧
      c.Fares limit told (fromOthers q (ms.map (Prod.mk sender)))
        (callsOn q (fanOutAll sender ms r).deeds) c' := by
  induction ms generalizing r ds c with
  | nil => exact ⟨c, hc, c.fares_refl⟩
  | cons m ms ih =>
      rcases (fanOut_peer (numbered_of_course h).orderly sender m q).2 c hc with ⟨hc₁, hcalls⟩
      rcases ih (h.step (.relay r sender m _)) hc₁ with ⟨c', hc', hmore⟩
      refine ⟨c', hc', ?_⟩
      have hall := (c.fares_offer (limits_of_course h hc).2 hlimit q sender m).trans hmore
      rw [← fromOthers_append, ← hcalls, ← callsOn_append] at hall
      exact hall

/-- In one event of a batch a peer that is there meets only what tells of it, and
    the messages of others. -/
theorem fares_batch_step (hlimit : limit < wordBound) {b : Batch}
    (h : Course limit ⟨Registry.empty maxPeers, []⟩ ds ⟨b.registry, []⟩) {e : Event}
    (he : PeerId.ofToken e.token = q → e ∈ told) (hc : b.registry.get? q = some c) :
    ∃ c' es, (b.step limit e).deeds = b.deeds ++ es ∧
      (b.step limit e).registry.get? q = some c' ∧
      c.Fares limit told (fromOthers q (framings es)) (callsOn q es) c' := by
  unfold Batch.step
  by_cases hlistener : e.token = listenerToken
  · rw [if_pos hlistener]
    refine ⟨c, _, rfl, get?_acceptAll limit b.arrivals b.registry hc, ?_⟩
    have hknown := (numbers_of_course h).number_of_newcomer ((numbered_of_course h).present q c hc)
    rw [framings_acceptAll, callsOn_acceptAll limit b.arrivals b.registry hknown.2]
    exact c.fares_refl
  · rw [if_neg hlistener]
    rcases fares_dispatch hlimit h he hc with ⟨c₁, hc₁, hdispatched⟩
    rcases fares_fanOutAll told hlimit (some (PeerId.ofToken e.token))
      (dispatch e b.registry).1 (h.step (.dispatch b.registry e)) hc₁ with ⟨c', hc', hrelayed⟩
    refine ⟨c', _, List.append_assoc _ _ _, hc', ?_⟩
    have hall := hdispatched.trans hrelayed
    rw [List.nil_append, ← callsOn_append] at hall
    rw [framings_append, framings_fanOutAll, List.append_nil, (record_dispatch e b.registry).1]
    exact hall

theorem fares_batch (hlimit : limit < wordBound) (events : List Event) {b : Batch}
    (h : Course limit ⟨Registry.empty maxPeers, []⟩ ds ⟨b.registry, []⟩)
    (htold : ∀ e ∈ events, PeerId.ofToken e.token = q → e ∈ told)
    (hc : b.registry.get? q = some c) :
    ∃ c' es, (events.foldl (Batch.step limit) b).deeds = b.deeds ++ es ∧
      (events.foldl (Batch.step limit) b).registry.get? q = some c' ∧
      c.Fares limit told (fromOthers q (framings es)) (callsOn q es) c' := by
  induction events generalizing b ds c with
  | nil => exact ⟨c, [], (List.append_nil _).symm, hc, c.fares_refl⟩
  | cons e events ih =>
      rw [List.forall_mem_cons] at htold
      rcases fares_batch_step hlimit h htold.1 hc with ⟨c₁, es, hes, hc₁, hfirst⟩
      rcases course_batch_step limit b e with ⟨_, _, hcourse⟩
      rcases ih (h.trans hcourse) htold.2 hc₁ with ⟨c', fs, hfs, hc', hmore⟩
      refine ⟨c', es ++ fs, ?_, hc', ?_⟩
      · rw [List.foldl_cons, hfs, hes, List.append_assoc]
      · have hall := hfirst.trans hmore
        rw [← fromOthers_append, ← framings_append, ← callsOn_append] at hall
        exact hall

/-- At the end of a batch a peer stays as it is, or it had ended and is taken out. -/
theorem fares_removeMarked {r : Registry}
    (h : Course limit ⟨Registry.empty maxPeers, []⟩ ds ⟨r, []⟩) (hc : r.get? q = some c) :
    c.Fares limit told [] (callsOn q (removeMarked r).deeds) c ∧
      ((removeMarked r).registry.get? q = some c ∨
        (removeMarked r).registry.get? q = none ∧ c.isActive = false) := by
  have hmarks := marksEnded_of_course h
  have hlook := get?_removeMarked hmarks q
  rw [hc] at hlook
  by_cases hactive : c.isActive = true
  · have hother := releaseMarked_other r.marked { r with marked := [] }
      ((hmarks.isActive_iff hc).mp hactive)
    rw [show callsOn q (removeMarked r).deeds = [] from hother.2]
    exact ⟨c.fares_refl, Or.inl (hlook.trans (Option.filter_some_pos hactive))⟩
  · have hended := Bool.eq_false_iff.mpr hactive
    have hself := releaseMarked_self r.marked { r with marked := [] }
      ((hmarks.ended q).mpr ⟨c, hc, hended⟩) (c := c) hc
    rcases release_calls c with ⟨hreceived, hsent⟩
    rw [show callsOn q (removeMarked r).deeds = c.release.2 from hself.2]
    exact ⟨.rests hended rfl rfl rfl hreceived hsent, Or.inr ⟨hself.1, hended⟩⟩

end Batch

/-! ## A peer in a request -/

/-- The events of a request that tell of a peer. -/
def ServerRequest.told (q : PeerId) : ServerRequest → List Event
  | update _ _ (.ok events) => events.filter fun e => PeerId.ofToken e.token = q
  | _ => []

namespace ServerHistory

variable {h : ServerHistory} {l : Listening} {limit maxPeers : Nat}

/-- In a request every peer fares by what it meets itself, and afterwards it is
    there, or it has ended and is gone. -/
theorem fares_serve (hlimit : limit < wordBound) (hl : h.server.listening = some l)
    (hconfig : h.server.config.maxBuffer = limit)
    (hcourse : Course limit ⟨Registry.empty maxPeers, []⟩ h.deeds ⟨l.registry, []⟩)
    (request : ServerRequest) :
    ∃ l' es, (h.serve request).server.listening = some l' ∧
      (h.serve request).deeds = h.deeds ++ es ∧
      ∀ q c, l.registry.get? q = some c → ∃ c',
        c.Fares limit (request.told q) (fromOthers q (framings es)) (callsOn q es) c' ∧
        (l'.registry.get? q = some c' ∨ l'.registry.get? q = none ∧ c'.isActive = false) := by
  have hequip : ∀ sockets q c, l.registry.get? q = some c →
      (l.registry.equip sockets).get? q = some (c.equip (sockets q)) := by
    intro sockets q c hc
    rw [Registry.get?_equip, hc]
    rfl
  have hequipped : ∀ sockets, Course limit ⟨Registry.empty maxPeers, []⟩ h.deeds
      ⟨l.registry.equip sockets, []⟩ := by
    intro sockets
    have hstep := hcourse.step (.equip l.registry sockets)
    rwa [List.append_nil] at hstep
  cases request with
  | update arrivals sockets wait =>
      by_cases hready : ∃ e es, wait = .ok (e :: es)
      · rcases hready with ⟨e, events, rfl⟩
        rcases h.serve_update_ready hl hconfig arrivals sockets e events with
          ⟨⟨l', hl', hregistry⟩, hdeeds⟩
        refine ⟨l', _, hl', hdeeds.trans (List.append_assoc _ _ _), fun q c hc => ?_⟩
        have hbatch := l.course_during hcourse arrivals sockets (e :: events)
        have htold : ∀ e' ∈ e :: events, PeerId.ofToken e'.token = q →
            e' ∈ ServerRequest.told q (.update arrivals sockets (.ok (e :: events))) :=
          fun e' he' hq => List.mem_filter.mpr ⟨he', decide_eq_true hq⟩
        rcases fares_batch (b := ⟨l.registry.equip sockets, arrivals, [], [], none⟩) hlimit
          (e :: events) (hequipped sockets) htold (hequip sockets q c hc) with
          ⟨c', es, hes, hc', hfares⟩
        rw [List.nil_append] at hes
        rcases fares_removeMarked hbatch hc' with ⟨hstays, hthere⟩
        refine ⟨c', ?_, by rw [hregistry]; exact hthere⟩
        have hall := ((c.fares_equip (sockets q)).trans hfares).trans hstays
        rw [List.nil_append, List.nil_append, List.append_nil] at hall
        rw [framings_append, (record_removeMarked (numbered_of_course hbatch).orderly).1,
          List.append_nil, callsOn_append]
        rw [← hes] at hall
        exact hall
      · have hidle : ∀ e es, wait ≠ .ok (e :: es) := fun e es heq => hready ⟨e, es, heq⟩
        refine ⟨_, [], h.serve_update_idle hl arrivals sockets hidle,
          (h.deeds_serve_update_idle hl arrivals sockets hidle).trans (List.append_nil _).symm,
          fun q c hc => ⟨_, c.fares_equip (sockets q), Or.inl (hequip sockets q c hc)⟩⟩
  | feed data sockets =>
      simp only [serve, Server.equip, Server.feed, hl, Option.map_some]
      refine ⟨_, _, rfl, rfl, fun q c hc => ?_⟩
      generalize (h.server.outgoing.feed data).messages.toList = ms
      rcases fares_fanOutAll [] hlimit none ms
        ((hequipped sockets).step (.broadcast (l.registry.equip sockets) ms))
        (hequip sockets q c hc) with ⟨c', hc', hrelayed⟩
      refine ⟨c', ?_, Or.inl hc'⟩
      have hall := (c.fares_equip (sockets q)).trans hrelayed
      rw [List.nil_append, List.nil_append] at hall
      rw [framings_append, framings_map_framed, framings_fanOutAll, List.append_nil,
        callsOn_append, callsOn_map_framed, List.nil_append]
      exact hall
  | pop =>
      refine ⟨l, [], ?_, ?_, fun q c hc => ⟨c, c.fares_refl, Or.inl hc⟩⟩
      · unfold serve Server.pop
        cases h.server.messages <;> exact hl
      · unfold serve Server.pop
        cases h.server.messages <;> exact (List.append_nil _).symm

end ServerHistory

/-- What a request has left of a connection that it did not end. Its state is the
    same, what it holds of a line that is not ended has moved by the bytes that
    were read from its own socket, and its queue by whole lines and by the bytes
    that its own socket has taken. The lines are all that it had to be given if it
    was active. -/
structure Connection.Unharmed (c : Connection) (given : List Message) (calls : List SocketCall)
    (c' : Connection) : Prop where
  state : c'.state = c.state
  inbound : c'.inbound.pending = (Split.goOn c.inbound.pending (receivedBytes calls)).rest
  outbound : ∃ ms, ms <+: given ∧ (c.isActive = true → ms = given) ∧
    c.outbound.bytes ++ wires ms = sentBytes calls ++ c'.outbound.bytes

theorem Connection.Fares.unharmed {limit : Nat} {told : List Event} {c c' : Connection}
    {given : List Message} {calls : List SocketCall} (h : c.Fares limit told given calls c')
    (hkept : c.isActive = true → c'.isActive = true) : c.Unharmed given calls c' := by
  cases h with
  | goesOn ms hcarries hactive hstate hpending =>
      exact ⟨hstate, hpending, given, List.prefix_rfl, fun _ => rfl, hcarries.sent⟩
  | ends hactive hended =>
      rw [hkept hactive] at hended
      cases hended
  | rests hended hstate hin hout hreceived hsent =>
      refine ⟨hstate, ?_, [], List.nil_prefix, fun hactive => ?_, ?_⟩
      · rw [hreceived, Split.goOn_nothing, hin]
      · rw [hended] at hactive
        cases hactive
      · rw [hsent, hout, wires_nil, ByteArray.append_empty, ByteArray.empty_append]

/-- Every request in every state that a server can come to. A peer that was active
    before and is not afterwards, or is gone, has met what ended it itself: on
    its socket, in an event of its own, in a record that it sent, or in its own
    queue. Every other peer that is there afterwards is unharmed, whatever the
    rest have met. And who is gone without having met anything had ended before;
    nothing was read from it or written to it. -/
theorem faults_stay_with_their_peer (config : ServerConfig) (hlimit : config.maxBuffer < wordBound)
    (port : UInt16) (address : SocketAddress) (arrivals : List AcceptAnswer)
    (requests : List ServerRequest) (request : ServerRequest) :
    let h := ServerHistory.serveAll requests (ServerHistory.opened config port address arrivals)
    let h' := h.serve request
    ∃ l l' es, h.server.listening = some l ∧ h'.server.listening = some l' ∧
      h'.deeds = h.deeds ++ es ∧ ∀ q c, l.registry.get? q = some c →
        let given := fromOthers q (framings es)
        let calls := callsOn q es
        (c.isActive = true → (∀ c', l'.registry.get? q = some c' → c'.isActive = false) →
          c.OwnFault config.maxBuffer (request.told q) given calls) ∧
        (∀ c', l'.registry.get? q = some c' → (c.isActive = true → c'.isActive = true) →
          c.Unharmed given calls c') ∧
        (c.isActive = false → receivedBytes calls = ByteArray.empty ∧
          sentBytes calls = ByteArray.empty) := by
  intro h h'
  rcases ServerHistory.course_of_opened config port address arrivals requests with
    ⟨l, hl, hcourse⟩
  rcases ServerHistory.course_serveAll requests
    (ServerHistory.opened config port address arrivals) rfl with ⟨_, _, _, hsame, _, _⟩
  have hconfig : h.server.config.maxBuffer = config.maxBuffer := congrArg (·.maxBuffer) hsame
  rcases ServerHistory.fares_serve hlimit hl hconfig hcourse request with
    ⟨l', es, hl', hes, hpeers⟩
  refine ⟨l, l', es, hl, hl', hes, fun q c hc => ?_⟩
  rcases hpeers q c hc with ⟨c', hfares, hthere⟩
  refine ⟨fun hactive hover => ?_, fun c₁ hc₁ hkept => ?_, fun hended => ?_⟩
  · have hended : c'.isActive = false := by
      rcases hthere with hthere | ⟨_, hended⟩
      · exact hover c' hthere
      · exact hended
    cases hfares with
    | goesOn ms hcarries hgoes =>
        rw [hended] at hgoes
        cases hgoes
    | ends _ _ hfault => exact hfault
    | rests hidle =>
        rw [hactive] at hidle
        cases hidle
  · rcases hthere with hthere | ⟨hgone, _⟩
    · rw [hthere, Option.some.injEq] at hc₁
      subst hc₁
      exact hfares.unharmed hkept
    · rw [hgone] at hc₁
      cases hc₁
  · cases hfares with
    | goesOn ms hcarries hgoes =>
        have hactive := hcarries.active hgoes
        rw [hended] at hactive
        cases hactive
    | ends hactive =>
        rw [hended] at hactive
        cases hactive
    | rests _ _ _ _ hreceived hsent => exact ⟨hreceived, hsent⟩

/-- The first of three peers sends a line and hangs up. The second still has three
    bytes in its queue, and the line does not fit; the third has just written
    them. The second is gone by its own queue, and the third is unharmed. -/
theorem faults_stay_with_their_peer_two_of_three :
    let address : UInt16 → SocketAddress := .v4 ⟨127, 0, 0, 1⟩
    let requests : List ServerRequest := [
      .update [.ok (Socket.idle, address 1), .ok (Socket.idle, address 2),
        .ok (Socket.idle, address 3)] (fun _ => none) (.ok [⟨0, true, false, false, false⟩]),
      .feed "ab\n".toUTF8 (fun _ => none)]
    let sockets : PeerId → Option Socket := fun q =>
      if q = ⟨1⟩ then some ⟨[.ok "cd\n".toUTF8], [], [], none⟩ else some ⟨[], [.ok 3], [], none⟩
    let request : ServerRequest :=
      .update [] sockets (.ok [⟨3, false, true, false, false⟩, ⟨1, true, false, true, false⟩])
    let h := ServerHistory.serveAll requests (ServerHistory.opened ⟨3, 4, 4⟩ 1 (address 0) [])
    4 < wordBound ∧ ∃ l l' c₂ c₃ c₃' given₂ calls₂ given₃ calls₃,
      h.server.listening = some l ∧ (h.serve request).server.listening = some l' ∧
      l.registry.get? ⟨2⟩ = some c₂ ∧ c₂.isActive = true ∧ l'.registry.get? ⟨2⟩ = none ∧
      c₂.OwnFault 4 [] given₂ calls₂ ∧
      l.registry.get? ⟨3⟩ = some c₃ ∧ l'.registry.get? ⟨3⟩ = some c₃' ∧ c₃'.isActive = true ∧
      c₃.Unharmed given₃ calls₃ c₃' := by
  intro address requests sockets request h
  have hlimit : 4 < wordBound := by decide
  rcases faults_stay_with_their_peer ⟨3, 4, 4⟩ hlimit 1 (address 0) [] requests request with
    ⟨l, l', es, hl, hl', _, hpeers⟩
  have hlook : h.server.listening.map (fun l =>
      ((l.registry.get? ⟨2⟩).map (·.isActive), (l.registry.get? ⟨3⟩).map (·.isActive)))
      = some (some true, some true) := by decide +kernel
  have hlook' : (h.serve request).server.listening.map (fun l =>
      ((l.registry.get? ⟨2⟩).isNone, (l.registry.get? ⟨3⟩).map (·.isActive)))
      = some (true, some true) := by decide +kernel
  rw [show h.server.listening = some l from hl, Option.map_some, Option.some.injEq,
    Prod.mk.injEq] at hlook
  rw [show (h.serve request).server.listening = some l' from hl', Option.map_some,
    Option.some.injEq, Prod.mk.injEq] at hlook'
  rcases Option.map_eq_some_iff.mp hlook.1 with ⟨c₂, hc₂, hactive₂⟩
  rcases Option.map_eq_some_iff.mp hlook.2 with ⟨c₃, hc₃, _⟩
  rcases Option.map_eq_some_iff.mp hlook'.2 with ⟨c₃', hc₃', hactive₃⟩
  have hgone := Option.isNone_iff_eq_none.mp hlook'.1
  have hfault := (hpeers ⟨2⟩ c₂ hc₂).1 hactive₂ fun c' hc' => by
    rw [hgone] at hc'
    cases hc'
  have hunharmed := (hpeers ⟨3⟩ c₃ hc₃).2.1 c₃' hc₃' fun _ => hactive₃
  have htold : request.told ⟨2⟩ = [] := by decide
  rw [htold] at hfault
  exact ⟨hlimit, l, l', c₂, c₃, c₃', _, _, _, _, hl, hl', hc₂, hactive₂, hgone, hfault, hc₃, hc₃',
    hactive₃, hunharmed⟩

end LineChat
