import LineChat.Proofs.Session.Course

/-!
# The Longest Message

What the limit of a buffer means for a message that is relayed.

One limit bounds two things. A record that comes in may have as many bytes as
the limit, without its newline. The queue that goes out may hold as many bytes
as the limit, and a message is queued with its newline. So a message that is
one byte shorter than the limit fits into every empty queue, and one that is as
long as the limit, which only a record without blanks around it can give, fits
into none: relaying it closes every peer that it is meant for, even one that
has taken all it was ever sent. Longer messages do not exist.

## Main definitions

* `ServerHistory.narrow`: A server with a limit of four bytes and two peers.

## Theorems

* `queueMessage_of_isEmpty`: Queueing a message when nothing is queued.
* `relay_reaches_idle_peer`: Relaying a message to a peer that waits for
  nothing.
* `longest_message_closes_idle_peer`: A message as long as the limit.
-/

namespace LineChat

-- The interest is asked for because the queue was empty, and asking succeeds.
theorem Connection.queueMessage_of_isEmpty {c : Connection} (m : Message)
    (hlimit : c.outbound.limit < wordBound) (hempty : c.outbound.isEmpty = true)
    (hwatch : c.socket.watch.1 = .ok ()) :
    (m.size < c.outbound.limit →
      (c.queueMessage m).connection.isActive = c.isActive ∧
        (c.queueMessage m).connection.outbound.bytes = c.outbound.bytes ++ m.wire) ∧
    (c.outbound.limit ≤ m.size →
      (c.queueMessage m).connection.isActive = false ∧
        (c.queueMessage m).connection.outbound.bytes = c.outbound.bytes) := by
  have hsize : c.outbound.size = 0 :=
    ByteArray.size_eq_zero_iff.mpr (c.outbound.isEmpty_iff.mp hempty)
  rcases c.queueMessage_cases m with
    ⟨hfull, hclosed, _⟩ | ⟨hroom, queue, hbytes, _, hconnection, _⟩
  · refine ⟨fun hlt => (by omega), fun _ => ?_⟩
    rw [hclosed, isActive_close, outbound_close]
    exact ⟨rfl, rfl⟩
  · refine ⟨fun _ => ?_, fun hle => (by omega)⟩
    rw [hconnection, if_pos hempty]
    rcases setInterest_cases { c with outbound := queue } .both with
      ⟨hsame, _⟩ | ⟨r, _, _, _, htold⟩ | ⟨r, fault, _, _, hrefused, _⟩
    · rw [hsame]
      exact ⟨rfl, hbytes⟩
    · rw [htold]
      exact ⟨rfl, hbytes⟩
    · rw [show ({ c with outbound := queue } : Connection).socket = c.socket from rfl,
        hwatch] at hrefused
      cases hrefused

/-- At any moment of any run, a message that a framer with the limit of the
    server has given is relayed to an active peer whose queue is empty. It is
    shorter than the limit, and then it is queued as a line and the peer stays
    active if its interest can be registered; or it is exactly as long as the
    limit, and then it is not queued and the peer is closed. -/
theorem relay_reaches_idle_peer {limit maxPeers : Nat} (hlimit : limit < wordBound) {s : Stage}
    {ds : List Deed} (hcourse : Course limit ⟨Registry.empty maxPeers, []⟩ ds s) {f : Framer}
    (hf : f.limit = limit) {data : ByteArray} {m : Message}
    (hm : m ∈ (f.feed data).messages.toList) {sender : Option PeerId} {q : PeerId}
    (hother : some q ≠ sender) {c : Connection} (hc : s.registry.get? q = some c)
    (hactive : c.isActive = true) (hempty : c.outbound.isEmpty = true)
    (hwatch : c.socket.watch.1 = .ok ()) :
    ∃ c', (fanOut sender m s.registry).registry.get? q = some c' ∧
      ((m.size < limit ∧ c'.isActive = true ∧
          c'.outbound.bytes = c.outbound.bytes ++ m.wire) ∨
        (m.size = limit ∧ c'.isActive = false ∧ c'.outbound.bytes = c.outbound.bytes)) := by
  have hshort : m.size ≤ limit := by
    rw [← hf] at hlimit ⊢
    exact f.size_le_of_mem_feed hlimit hm
  have hout : c.outbound.limit = limit := (limits_of_course hcourse hc).2
  have horderly := (numbered_of_course hcourse).orderly
  have hoffer : ¬ (decide (some q = sender) || !c.isActive) = true := by simp [hother, hactive]
  have hrelayed := (fanOut_peer horderly sender m q).2 c hc
  rw [Connection.offer, if_neg hoffer] at hrelayed
  rw [← hout] at hlimit
  rcases Connection.queueMessage_of_isEmpty m hlimit hempty hwatch with ⟨hfits, hlong⟩
  refine ⟨(c.queueMessage m).connection, hrelayed.1, ?_⟩
  rw [hout] at hfits hlong
  rcases Nat.lt_or_eq_of_le hshort with hlt | heq
  · rcases hfits hlt with ⟨hstays, hbytes⟩
    rw [hactive] at hstays
    exact Or.inl ⟨hlt, hstays, hbytes⟩
  · exact Or.inr ⟨heq, hlong (Nat.le_of_eq heq.symm)⟩

/-- A server with a limit of four bytes, and two peers that have just come in. -/
def ServerHistory.narrow : ServerHistory :=
  let address : UInt16 → SocketAddress := .v4 ⟨127, 0, 0, 1⟩
  serveAll [.update [.ok (Socket.idle, address 1), .ok (Socket.idle, address 2)] (fun _ => none)
    (.ok [⟨0, true, false, false, false⟩])] (opened ⟨2, 4, 4⟩ 1 (address 0) [])

-- The second peer is active, has nothing queued and no answer against it.
theorem ServerHistory.narrow_idle : ∃ l c, narrow.server.listening = some l ∧
    Course 4 ⟨Registry.empty 2, []⟩ narrow.deeds ⟨l.registry, []⟩ ∧
    l.registry.get? ⟨2⟩ = some c ∧ c.isActive = true ∧ c.outbound.bytes = ByteArray.empty ∧
    c.outbound.limit = 4 ∧ c.socket.watch.1 = .ok () := by
  rcases course_of_opened ⟨2, 4, 4⟩ 1 (.v4 ⟨127, 0, 0, 1⟩ 0) [] [.update
    [.ok (Socket.idle, .v4 ⟨127, 0, 0, 1⟩ 1), .ok (Socket.idle, .v4 ⟨127, 0, 0, 1⟩ 2)]
    (fun _ => none) (.ok [⟨0, true, false, false, false⟩])] with ⟨l, hl, hcourse⟩
  have hlook : (narrow.server.listening.bind (·.registry.get? ⟨2⟩)).map
      (fun c => (c.isActive, c.outbound.bytes, c.socket.watch.1.isOk))
      = some (true, ByteArray.empty, true) := by decide
  rw [show narrow.server.listening = some l from hl, Option.bind_some] at hlook
  rcases Option.map_eq_some_iff.mp hlook with ⟨c, hc, hall⟩
  simp only [Prod.mk.injEq] at hall
  refine ⟨l, c, hl, hcourse, hc, hall.1, hall.2.1, (limits_of_course hcourse hc).2, ?_⟩
  cases hanswer : c.socket.watch.1 with
  | ok => rfl
  | error fault =>
      rw [hanswer] at hall
      cases hall.2.2

/-- A message of three bytes is queued for such a peer. -/
theorem relay_reaches_new_peer : ∃ l m c', ServerHistory.narrow.server.listening = some l ∧
    m.bytes = "abc".toUTF8 ∧ (fanOut (some ⟨1⟩) m l.registry).registry.get? ⟨2⟩ = some c' ∧
    c'.isActive = true ∧ c'.outbound.bytes = ByteArray.empty ++ m.wire := by
  rcases ServerHistory.narrow_idle with ⟨l, c, hl, hcourse, hc, hactive, hbytes, _, hwatch⟩
  have hgives : ((Framer.ofLimit 4).feed "abc\n".toUTF8).messages.toList.map Message.bytes
      = ["abc".toUTF8] := by decide
  rcases List.map_eq_cons_iff.mp hgives with ⟨m, ms, hfed, hm, _⟩
  have hmem : m ∈ ((Framer.ofLimit 4).feed "abc\n".toUTF8).messages.toList := by
    rw [hfed]
    exact List.mem_cons_self
  have hempty : c.outbound.isEmpty = true := c.outbound.isEmpty_iff.mpr hbytes
  rcases relay_reaches_idle_peer (by decide) hcourse (f := Framer.ofLimit 4) rfl hmem
    (show some (⟨2⟩ : PeerId) ≠ some ⟨1⟩ by decide) hc hactive hempty hwatch with
    ⟨c', hc', ⟨_, hstays, hqueued⟩ | ⟨hlong, _⟩⟩
  · rw [hbytes] at hqueued
    exact ⟨l, m, c', hl, hm, hc', hstays, hqueued⟩
  · have hsize : m.size = 3 := congrArg ByteArray.size hm
    omega

/-- A framer with the same limit gives a message of four bytes as well, and
    relaying it closes the peer although nothing was queued for it and its
    interest can be registered. -/
theorem longest_message_closes_idle_peer : ∃ l c m c',
    ServerHistory.narrow.server.listening = some l ∧ l.registry.get? ⟨2⟩ = some c ∧
    c.isActive = true ∧ c.outbound.bytes = ByteArray.empty ∧ c.socket.watch.1 = .ok () ∧
    m ∈ ((Framer.ofLimit 4).feed "abcd\n".toUTF8).messages.toList ∧
    (fanOut (some ⟨1⟩) m l.registry).registry.get? ⟨2⟩ = some c' ∧
    c'.isActive = false ∧ c'.outbound.bytes = ByteArray.empty := by
  rcases ServerHistory.narrow_idle with ⟨l, c, hl, hcourse, hc, hactive, hbytes, hlimit, hwatch⟩
  have hgives : ((Framer.ofLimit 4).feed "abcd\n".toUTF8).messages.toList.map Message.bytes
      = ["abcd".toUTF8] := by decide
  rcases List.map_eq_cons_iff.mp hgives with ⟨m, ms, hfed, hm, _⟩
  have hmem : m ∈ ((Framer.ofLimit 4).feed "abcd\n".toUTF8).messages.toList := by
    rw [hfed]
    exact List.mem_cons_self
  have hsize : m.size = 4 := congrArg ByteArray.size hm
  have hempty : c.outbound.isEmpty = true := c.outbound.isEmpty_iff.mpr hbytes
  have hrelayed := (fanOut_peer (numbered_of_course hcourse).orderly (some ⟨1⟩) m ⟨2⟩).2 c hc
  have hoffer : ¬ (decide (some (⟨2⟩ : PeerId) = some ⟨1⟩) || !c.isActive) = true := by
    rw [hactive]
    decide
  rw [Connection.offer, if_neg hoffer] at hrelayed
  have hlong := (Connection.queueMessage_of_isEmpty m (by rw [hlimit]; decide) hempty hwatch).2
    (by rw [hlimit, hsize])
  rw [hbytes] at hlong
  exact ⟨l, c, m, (c.queueMessage m).connection, hl, hc, hactive, hbytes, hwatch, hmem, hrelayed.1,
    hlong⟩

end LineChat
