import LineChat.Proofs.Session.Fate
import LineChat.Proofs.Session.Intake

/-!
# The Inbox of a Server

The messages that a server hands out are the records that it has read.

A message goes a long way before it is handed out. It is framed in the middle of
a read, at whose end its sender may have ended; it waits while it is relayed; it
is collected for the batch, then put behind what earlier batches have left, and
a pop takes one at a time. No part of that way looks at the sender again, so
what ends a peer costs none of the messages before it. Here the whole way is
one equation between what was handed out with what is queued and the record of
framings, kept by every operation.

The other half says what the framings of one peer are, and that is
`Understood`. What a line that is too long means is said by the calls: there is
none that reads once such a line was read.

## Main definitions

* `Batch.Collected`: A batch has collected what it framed.
* `ServerHistory.Collected`: So has a server, if what was popped is counted.

## Theorems

* `collected_serveAll`: Every history keeps what it framed.
* `readsFit_of_course`: A peer is not read beyond a line too long.
* `inbox_holds_every_record`: What a server hands out.
-/

namespace LineChat

/-! ## What is collected -/

theorem framings_acceptAll (limit : Nat) (arrivals : List AcceptAnswer) (r : Registry) :
    framings (acceptAll limit arrivals r).deeds = [] := by
  refine acceptAll_law (R := fun _ es _ => framings es = []) (fun _ => rfl) (fun h h' => ?_)
    (fun harrival => ?_) arrivals r
  · rw [framings_append, h, h', List.append_nil]
  · cases harrival <;> rfl

theorem framings_fanOutAll (sender : Option PeerId) (ms : List Message) (r : Registry) :
    framings (fanOutAll sender ms r).deeds = [] := by
  induction ms generalizing r with
  | nil => rfl
  | cons m ms ih =>
      rw [fanOutAll]
      dsimp only
      rw [framings_append, (record_fanOut sender m r).1, List.nil_append]
      exact ih _

/-- The messages of a batch are those that it has framed from peers. -/
def Batch.Collected (b : Batch) : Prop := b.messages = fromPeers (framings b.deeds)

-- Messages that are relayed are not framed again.
theorem collected_step (limit : Nat) {b : Batch} (h : b.Collected) (e : Event) :
    (b.step limit e).Collected := by
  unfold Batch.Collected at h ⊢
  unfold Batch.step
  by_cases hlistener : e.token = listenerToken
  · rw [if_pos hlistener]
    dsimp only
    rw [framings_append, framings_acceptAll, List.append_nil]
    exact h
  · rw [if_neg hlistener]
    dsimp only
    rw [framings_append, framings_append, framings_fanOutAll, List.append_nil,
      (record_dispatch e b.registry).1, fromPeers_append, ← h, fromPeers_map]
    rfl

theorem collected_batch (limit : Nat) (events : List Event) {b : Batch} (h : b.Collected) :
    (events.foldl (Batch.step limit) b).Collected := by
  induction events generalizing b with
  | nil => exact h
  | cons e events ih => exact ih (collected_step limit h e)

-- What an update frames goes to the end of the queue.
theorem messages_update (s : Server) (wait : WaitAnswer) :
    (s.update wait).server.messages
      = s.messages ++ fromPeers (framings (s.update wait).deeds) := by
  have hnone : s.messages = s.messages ++ fromPeers (framings []) := (List.append_nil _).symm
  unfold Server.update
  cases s.listening with
  | none => exact hnone
  | some l =>
      cases waitOutcome wait with
      | error fault => exact hnone
      | ok outcome =>
          cases outcome with
          | timeout => exact hnone
          | ready e es =>
              have hcollected := collected_batch s.config.maxBuffer (e :: es)
                (b := ⟨l.registry, l.arrivals, [], [], none⟩) rfl
              unfold Batch.Collected at hcollected
              dsimp only [Server.dispatchBatch]
              rw [framings_append, removeMarked, framings_releaseMarked, List.append_nil,
                ← hcollected]

-- The server's own lines go to the peers and not to the queue.
theorem messages_feed (s : Server) (data : ByteArray) :
    (s.feed data).server.messages = s.messages ∧
      fromPeers (framings (s.feed data).deeds) = [] := by
  unfold Server.feed
  cases s.listening with
  | none => exact ⟨rfl, rfl⟩
  | some l =>
      refine ⟨rfl, ?_⟩
      dsimp only
      rw [framings_append, framings_fanOutAll, List.append_nil, framings_map_framed, fromPeers_map]
      rfl

namespace ServerHistory

/-- What a server has handed out, and what it is still going to hand out, are
    the messages that were framed from peers. -/
def Collected (h : ServerHistory) : Prop :=
  h.popped ++ h.server.messages = fromPeers (framings h.deeds)

theorem collected_serve {h : ServerHistory} (hc : h.Collected) (request : ServerRequest) :
    (h.serve request).Collected := by
  unfold Collected at hc ⊢
  cases request with
  | update arrivals sockets wait =>
      have hqueued := messages_update (h.server.equip arrivals sockets) wait
      dsimp only [serve]
      rw [hqueued, framings_append, fromPeers_append, ← hc, List.append_assoc]
      rfl
  | feed data sockets =>
      rcases messages_feed (h.server.equip [] sockets) data with ⟨hqueued, hown⟩
      dsimp only [serve]
      rw [hqueued, framings_append, fromPeers_append, hown, List.append_nil]
      exact hc
  | pop =>
      unfold serve Server.pop
      cases hmessages : h.server.messages with
      | nil =>
          rw [hmessages] at hc
          dsimp only
          rw [hmessages]
          exact hc
      | cons m ms =>
          rw [hmessages] at hc
          dsimp only
          rw [List.append_assoc]
          exact hc

/-- Every history keeps what it framed. -/
theorem collected_serveAll (requests : List ServerRequest) {h : ServerHistory}
    (hc : h.Collected) : (serveAll requests h).Collected := by
  induction requests generalizing h with
  | nil => exact hc
  | cons request requests ih => exact ih (collected_serve hc request)

end ServerHistory

/-! ## What is read -/

/-- Every call that reads from a peer was made while what had been read from it
    kept to the limit. -/
theorem readsFit_of_course {limit maxPeers : Nat} (hlimit : limit < wordBound) {s : Stage}
    {ds : List Deed} (h : Course limit ⟨Registry.empty maxPeers, []⟩ ds s) (q : PeerId) :
    Connection.ReadsFit limit ByteArray.empty (callsOn q ds) := by
  induction h with
  | rest => exact Connection.readsFit_nil _ _
  | @step ds es s s' before last ih =>
      rw [callsOn_append]
      refine ih.append ?_
      rw [ByteArray.empty_append]
      have hfate := fate_of_step last (numbered_of_course before).orderly q
      have hheard := (understood_of_course hlimit before q).here
      generalize s.registry.get? q = c? at hfate hheard
      generalize s'.registry.get? q = c?' at hfate
      cases hfate with
      | away hcalls hnew hleft =>
          rw [hcalls]
          exact Connection.readsFit_nil _ _
      | comes socket address c hjoined hes =>
          refine Connection.readsFit_of_not_isRead ?_
          rw [hes]
          simp [callsOn, Deed.call?, SocketCall.isRead]
      | stays c c' htouch hnew hleft =>
          rcases hheard c rfl with ⟨hin, hstream⟩
          rw [← hin] at hlimit ⊢
          exact htouch.reads hlimit hstream
      | goes c hmarked hcalls hnew hleft =>
          refine Connection.readsFit_of_not_isRead ?_
          rw [hcalls]
          unfold Connection.release
          split
          · simp
          · simp [SocketCall.isRead]

/-- Whatever a listening server is asked to do and whatever the system answers,
    the messages it has handed out and those it holds are the messages framed
    from its peers, in the order of framing. Those of one peer are the records
    that were read from it, trimmed and without the blank ones, up to the first
    that was too long. A peer of which such a record, ended or not, was read is
    not active any more, and it was not read again. -/
theorem inbox_holds_every_record (config : ServerConfig) (hlimit : config.maxBuffer < wordBound)
    (port : UInt16) (address : SocketAddress) (arrivals : List AcceptAnswer)
    (requests : List ServerRequest) :
    let h := ServerHistory.serveAll requests
      (ServerHistory.opened config port address arrivals)
    ∃ l, h.server.listening = some l ∧
      h.popped ++ h.server.messages = fromPeers (framings h.deeds) ∧
      ∀ q,
        let calls := callsOn q h.deeds
        let records := split (receivedBytes calls)
        fromPeer q (framings h.deeds) = messagesOf (records.within config.maxBuffer) ∧
        (¬ records.Fits config.maxBuffer →
          ∀ c, l.registry.get? q = some c → c.isActive = false) ∧
        (∀ before answer after, calls = before ++ .read answer :: after →
          (split (receivedBytes before)).Fits config.maxBuffer) := by
  intro h
  rcases ServerHistory.course_of_opened config port address arrivals requests with
    ⟨l, hl, hcourse⟩
  have hcollected : h.Collected := ServerHistory.collected_serveAll requests rfl
  refine ⟨l, hl, hcollected, fun q => ?_⟩
  intro calls records
  have hunderstood := understood_of_course hlimit hcourse q
  refine ⟨?_, fun hlong c hc => ?_, fun before answer after hcalls => ?_⟩
  · cases hget : l.registry.get? q with
    | none => exact hunderstood.gone hget
    | some c =>
        rcases hunderstood.here c hget with ⟨hin, hheard⟩
        rw [← hin]
        exact hheard.messages
  · rcases hunderstood.here c hc with ⟨hin, hheard⟩
    rw [Bool.eq_false_iff]
    intro hactive
    have hfits := (hheard.held hactive).1
    rw [hin] at hfits
    exact hlong hfits
  · have hfits := readsFit_of_course hlimit hcourse q before answer after hcalls
    rwa [ByteArray.empty_append] at hfits

/-- The first of two peers sends two lines and the beginning of one that is too
    long, and then it hangs up; its socket has more, which is not read. The
    second sends a line in the same batch. One message is handed out. -/
theorem inbox_holds_lines_before_long_one :
    let address : UInt16 → SocketAddress := .v4 ⟨127, 0, 0, 1⟩
    let requests : List ServerRequest := [
      .update [.ok (Socket.idle, address 1), .ok (Socket.idle, address 2)] (fun _ => none)
        (.ok [⟨0, true, false, false, false⟩]),
      .update [] (fun q => if q = ⟨1⟩ then
          some ⟨[.ok "a\n \nb\nlonger".toUTF8, .ok "\nc\n".toUTF8], [], [], none⟩
          else some ⟨[.ok "d\n".toUTF8], [], [], none⟩)
        (.ok [⟨1, true, false, true, false⟩, ⟨2, true, false, false, false⟩]),
      .pop]
    let h := ServerHistory.serveAll requests (ServerHistory.opened ⟨2, 4, 4⟩ 1 (address 0) [])
    let bytes := receivedBytes (callsOn ⟨1⟩ h.deeds)
    4 < wordBound ∧ bytes = "a\n \nb\nlonger".toUTF8 ∧ ¬ (split bytes).Fits 4 ∧
      (h.popped ++ h.server.messages).map (·.bytes) = ["a".toUTF8, "b".toUTF8, "d".toUTF8] ∧
      h.popped ++ h.server.messages = fromPeers (framings h.deeds) ∧
      fromPeer ⟨1⟩ (framings h.deeds) = messagesOf ((split bytes).within 4) := by
  intro address requests h bytes
  have hlimit : 4 < wordBound := by decide
  have hrun : ServerHistory.serveAll requests
      (ServerHistory.opened ⟨2, 4, 4⟩ 1 (address 0) []) = h := rfl
  rcases inbox_holds_every_record ⟨2, 4, 4⟩ hlimit 1 (address 0) [] requests with
    ⟨_, _, hinbox, hpeers⟩
  rw [hrun] at hinbox hpeers
  have hbytes : bytes = "a\n \nb\nlonger".toUTF8 := by decide +kernel
  have hall : (h.popped ++ h.server.messages).map (·.bytes)
      = ["a".toUTF8, "b".toUTF8, "d".toUTF8] := by decide +kernel
  have hlong : ¬ (split bytes).Fits 4 := by
    rw [hbytes]
    decide
  exact ⟨hlimit, hbytes, hlong, hall, hinbox, (hpeers ⟨1⟩).1⟩

end LineChat
