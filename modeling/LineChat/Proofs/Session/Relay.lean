import LineChat.Proofs.Session.Course

/-!
# Every Peer Hears Everything

What a server has written to a peer is what it should have written.

The messages that a peer has to receive are those that were framed since it came
in, from others or from the server itself, in the order of framing: `heardBy`.
The bytes that were sent to it, with the bytes that wait in its queue, are those
messages as lines. Both sides grow in different places. A message is framed
when its sender is read, the queues grow when it is relayed, and the bytes are
sent whenever a socket takes some, so between a framing and its relay a peer is
behind by the messages that are waiting. `Supplied` says exactly that, and it is
kept by every turn of every peer.

A peer that has ended gets no more messages, so for it the lines are those of a
prefix. Once it is gone its queue is gone too, and what was sent may end in the
middle of a line.

## Main definitions

* `Supplied`: The account of what one peer was given.

## Theorems

* `supplied_step`: Every step keeps the account.
* `Supplied.whole`: The account of an active peer between two operations.
* `relayed_in_framing_order`: The account of every run.
-/

namespace LineChat

/-- What the peer `q` was sent and what waits in its queue are messages that it
    has to receive, in order, and unless it has ended only the waiting ones are
    missing. -/
structure Supplied (q : PeerId) (s : Stage) (ds : List Deed) : Prop where
  here : ∀ c, s.registry.get? q = some c → ∃ ms, ms <+: heardBy q ds ∧
    sentBytes (callsOn q ds) ++ c.outbound.bytes = wires ms ∧
    (c.isActive = true → ms ++ fromOthers q s.waiting = heardBy q ds)
  gone : s.registry.get? q = none →
    octets (sentBytes (callsOn q ds)) <+: octets (wires (heardBy q ds))

theorem octets_wires_mono {ms ms' : List Message} (h : ms <+: ms') :
    octets (wires ms) <+: octets (wires ms') := by
  rcases h with ⟨rest, rfl⟩
  rw [wires_append, octets_append]
  exact List.prefix_append _ _

-- What a peer has to receive only grows. Before it has come in it is nothing.
theorem heardBy_prefix_append (q : PeerId) (ds es : List Deed) :
    heardBy q ds <+: heardBy q (ds ++ es) := by
  by_cases hq : q ∈ newcomers ds
  · rw [heardBy_append_of_mem hq]
    exact List.prefix_append _ _
  · have hnone : heardBy q ds = [] := by
      unfold heardBy
      rw [since_of_not_mem hq]
      rfl
    rw [hnone]
    exact List.nil_prefix

-- A peer has worked: what it was given went to the end of its queue.
theorem supplied_works {q : PeerId} {ds es : List Deed} {waiting waiting' : List Framing}
    {c c' : Connection} {framed given : List Message} (hq : q ∈ newcomers ds)
    (hcarries : c.Carries c' framed (callsOn q es) (wires given))
    (hgiven : given <+: fromOthers q waiting ++ fromOthers q (framings es))
    (hall : c'.isActive = true →
      given ++ fromOthers q waiting' = fromOthers q waiting ++ fromOthers q (framings es))
    (hidle : c.isActive = false → given = []) {ms : List Message} (hms : ms <+: heardBy q ds)
    (hsent : sentBytes (callsOn q ds) ++ c.outbound.bytes = wires ms)
    (hbehind : c.isActive = true → ms ++ fromOthers q waiting = heardBy q ds) :
    ms ++ given <+: heardBy q (ds ++ es) ∧
      sentBytes (callsOn q (ds ++ es)) ++ c'.outbound.bytes = wires (ms ++ given) ∧
      (c'.isActive = true → (ms ++ given) ++ fromOthers q waiting' = heardBy q (ds ++ es)) := by
  rw [heardBy_append_of_mem hq]
  refine ⟨?_, ?_, fun hactive' => ?_⟩
  · by_cases hactive : c.isActive = true
    · rw [← hbehind hactive, List.append_assoc]
      exact (List.prefix_append_right_inj ms).mpr hgiven
    · rw [hidle (Bool.eq_false_iff.mpr hactive), List.append_nil]
      exact hms.trans (List.prefix_append _ _)
  · rw [callsOn_append, sentBytes_append, ByteArray.append_assoc, ← hcarries.sent,
      ← ByteArray.append_assoc, hsent, wires_append]
  · rw [List.append_assoc, hall hactive', ← List.append_assoc,
      hbehind (hcarries.active hactive')]

theorem supplied_step {limit : Nat} {s s' : Stage} {ds es : List Deed} (h : Step limit s es s')
    (hn : Numbered s ds) {q : PeerId} (hs : Supplied q s ds) : Supplied q s' (ds ++ es) := by
  have hturn := turn_of_step h hn.orderly q
  have hpresent := hn.present q
  rcases hs with ⟨hhere, hgone⟩
  generalize s.registry.get? q = before at hturn hhere hgone hpresent
  generalize hafter : s'.registry.get? q = after at hturn
  refine ⟨fun c hc => ?_, fun hnone => ?_⟩
  · rw [hafter] at hc
    subst hc
    cases hturn with
    | comes socket address c hjoined hes hwaiting =>
        have hnot : q ∉ newcomers ds := by
          refine (numbered_step h hn).not_mem_of_newcomer ?_
          rw [hes]
          exact List.mem_cons_self
        have hcalls := (hn.silent q hnot).1
        rcases Connection.heard_of_register hjoined with ⟨_, hempty, _, _, _⟩
        have hheard : heardBy q (ds ++ es) = [] := by
          unfold heardBy
          rw [since_append_of_not_mem hnot, hes]
          simp [since, Deed.newcomer?, framings, Deed.framing?, fromOthers]
        refine ⟨[], List.nil_prefix, ?_, fun _ => ?_⟩
        · rw [callsOn_append, hcalls, List.nil_append, hempty, hes]
          simp [callsOn, Deed.call?, sentBytes, SocketCall.sent]
        · rw [hheard, hwaiting]
          rfl
    | works c₀ c given hcarries hstays hgiven hall hidle =>
        rcases hhere c₀ rfl with ⟨ms, hms, hsent, hbehind⟩
        exact ⟨ms ++ given, supplied_works (hpresent c₀ rfl) hcarries hgiven hall hidle hms hsent
          hbehind⟩
  · rw [hafter] at hnone
    subst hnone
    cases hturn with
    | away hcalls hframed hstays =>
        rw [callsOn_append, hcalls, List.append_nil]
        exact (hgone rfl).trans (octets_wires_mono (heardBy_prefix_append q ds es))
    | leaves c hcalls hframed hstays =>
        -- What was still in the queue is lost with the peer.
        rcases hhere c rfl with ⟨ms, hms, hsent, _⟩
        have hcut : octets (sentBytes (callsOn q ds)) <+: octets (wires ms) := by
          rw [← hsent, octets_append]
          exact List.prefix_append _ _
        rw [callsOn_append, sentBytes_append, hcalls, (release_calls c).2, ByteArray.append_empty]
        exact hcut.trans (octets_wires_mono (hms.trans (heardBy_prefix_append q ds es)))

theorem supplied_of_course {limit maxPeers : Nat} {s : Stage} {ds : List Deed}
    (h : Course limit ⟨Registry.empty maxPeers, []⟩ ds s) (q : PeerId) : Supplied q s ds := by
  induction h with
  | rest =>
      refine ⟨fun c hc => ?_, fun _ => List.nil_prefix⟩
      cases hc
  | step before last ih => exact supplied_step last (numbered_of_course before) ih

-- Between two operations nothing is waiting, so an active peer was given all that
-- it has to receive.
theorem Supplied.whole {q : PeerId} {r : Registry} {ds : List Deed} (hs : Supplied q ⟨r, []⟩ ds)
    {c : Connection} (hc : r.get? q = some c) (hactive : c.isActive = true) :
    sentBytes (callsOn q ds) ++ c.outbound.bytes = wires (heardBy q ds) := by
  rcases hs.here c hc with ⟨ms, _, hsent, hall⟩
  have hnone : ms = heardBy q ds := by
    rw [← hall hactive]
    exact (List.append_nil ms).symm
  rw [← hnone]
  exact hsent

/-- Whatever a listening server is asked to do and whatever the system answers,
    a peer that is active was sent, or has in its queue, every message that was
    framed since it came in and that it has not sent itself, each as one whole
    line and in the order of framing. For a peer that has ended and was not
    taken out yet these are the first of those messages, and the bytes that were
    ever sent to one that is gone are the first of their bytes. -/
theorem relayed_in_framing_order (config : ServerConfig) (port : UInt16) (address : SocketAddress)
    (arrivals : List AcceptAnswer) (requests : List ServerRequest) (q : PeerId) :
    let h := ServerHistory.serveAll requests
      (ServerHistory.opened config port address arrivals)
    let sent := sentBytes (callsOn q h.deeds)
    ∃ l, h.server.listening = some l ∧
      (∀ c, l.registry.get? q = some c → c.isActive = true →
        sent ++ c.outbound.bytes = wires (heardBy q h.deeds)) ∧
      (∀ c, l.registry.get? q = some c → c.isActive = false →
        ∃ ms, ms <+: heardBy q h.deeds ∧ sent ++ c.outbound.bytes = wires ms) ∧
      (l.registry.get? q = none → octets sent <+: octets (wires (heardBy q h.deeds))) := by
  intro h sent
  rcases ServerHistory.course_of_opened config port address arrivals requests with
    ⟨l, hl, hcourse⟩
  have hs := supplied_of_course hcourse q
  refine ⟨l, hl, ?_, ?_, hs.gone⟩
  · intro c hc hactive
    exact hs.whole hc hactive
  · intro c hc _
    rcases hs.here c hc with ⟨ms, hms, hsent, _⟩
    exact ⟨ms, hms, hsent⟩

/-- The first of two peers sends a line and the beginning of another. The second
    has taken two bytes of the line, and the third byte is in its queue. -/
theorem relayed_in_two_parts :
    let address : UInt16 → SocketAddress := .v4 ⟨127, 0, 0, 1⟩
    let requests : List ServerRequest := [
      .update [.ok (Socket.idle, address 1), .ok (Socket.idle, address 2)] (fun _ => none)
        (.ok [⟨0, true, false, false, false⟩]),
      .update [] (fun q => if q = ⟨1⟩ then some ⟨[.ok "hi\nyou".toUTF8], [], [], none⟩
          else some ⟨[], [.ok 2], [], none⟩)
        (.ok [⟨1, true, false, false, false⟩, ⟨2, false, true, false, false⟩])]
    let h := ServerHistory.serveAll requests (ServerHistory.opened ⟨2, 8, 4⟩ 1 (address 0) [])
    ∃ l c, h.server.listening = some l ∧ l.registry.get? ⟨2⟩ = some c ∧ c.isActive = true ∧
      sentBytes (callsOn ⟨2⟩ h.deeds) = "hi".toUTF8 ∧ c.outbound.bytes = "\n".toUTF8 ∧
      "hi".toUTF8 ++ c.outbound.bytes = wires (heardBy ⟨2⟩ h.deeds) := by
  intro address requests h
  rcases relayed_in_framing_order ⟨2, 8, 4⟩ 1 (address 0) [] requests ⟨2⟩ with
    ⟨l, hl, hactive, _⟩
  have hlook : (h.server.listening.bind (·.registry.get? ⟨2⟩)).map
      (fun c => (c.isActive, c.outbound.bytes)) = some (true, "\n".toUTF8) := by decide
  have hsent : sentBytes (callsOn ⟨2⟩ h.deeds) = "hi".toUTF8 := by decide
  rw [hl, Option.bind_some] at hlook
  rcases Option.map_eq_some_iff.mp hlook with ⟨c, hc, hpair⟩
  rw [Prod.mk.injEq] at hpair
  have hall := hactive c hc hpair.1
  rw [hsent] at hall
  exact ⟨l, c, hl, hc, hpair.1, hsent, hpair.2, hall⟩

end LineChat
