import LineChat.Proofs.Session.Removal

/-!
# After an Update

When a server has no peers left that have ended.

A peer that ends in a batch goes with the batch. A line of the server's own can
end a peer as well, when its queue has no room for it, and then no batch is
under way. Such a peer is taken out by the next batch, and a batch needs an
event: an update whose wait gave none returns before anybody is taken out. Until
there is an event, the peer that has ended is counted and keeps its place, and
what is left in its queue is reported as output that waits.

So an update does not always tidy up. It does if there was an event, and
otherwise the registry is as tidy as it was before. As the marks are right at
every moment (`Registry.MarksEnded`), tidy is the same as without marks, and
the same as a right count of the peers.

## Main definitions

* `Registry.Sound`: What holds of the registry at every moment.
* `Registry.Tidy`: Nobody is closing, and nobody is marked.

## Theorems

* `Sound.tidy_iff_unmarked`, `Sound.tidy_iff_count`: What it means to be tidy.
* `update_tidies`: When an update leaves a tidy registry.
* `timed_out_update_keeps_closed_peer`: When it does not.
-/

namespace LineChat

/-! ## Tidy registries -/

namespace Registry

/-- What holds of the registry at every moment: the marks are right, the numbers
    rise, and nobody is there who was released. -/
structure Sound (r : Registry) : Prop where
  marks : r.MarksEnded
  orderly : r.Orderly
  kept : ∀ q c, r.get? q = some c → c.Unreleased

/-- No peer is closing, and no peer is marked. -/
structure Tidy (r : Registry) : Prop where
  unmarked : r.marked = []
  live : ∀ q c, r.get? q = some c → c.state ≠ .closing

variable {r : Registry}

theorem Sound.tidy_iff_unmarked (h : r.Sound) : r.Tidy ↔ r.marked = [] := by
  refine ⟨Tidy.unmarked, fun hnone => ⟨hnone, fun q c hc => ?_⟩⟩
  rw [← (h.kept q c hc).isActive_iff, h.marks.isActive_iff hc, hnone]
  exact List.not_mem_nil

-- The peers are as many as the active ones if and only if nobody has ended.
theorem Sound.tidy_iff_count (h : r.Sound) :
    r.Tidy ↔ r.size = r.peers.countP (·.connection.isActive) := by
  rw [h.tidy_iff_unmarked, eq_comm (a := r.size)]
  unfold size
  rw [List.countP_eq_length]
  constructor
  · intro hnone p hp
    rw [h.marks.isActive_iff (get?_of_mem h.orderly hp), hnone]
    exact List.not_mem_nil
  · intro hall
    refine List.eq_nil_iff_forall_not_mem.mpr fun q hq => ?_
    rcases (h.marks.ended q).mp hq with ⟨c, hc, _⟩
    exact (h.marks.isActive_iff hc).mp (hall ⟨q, c⟩ (mem_of_get? hc)) hq

-- Output that waits in a tidy registry waits for a peer that can take it.
theorem Tidy.exists_writable (h : r.Tidy) (hsound : r.Sound) (houtput : r.hasPendingOutput = true) :
    ∃ p ∈ r.peers, p.connection.isActive = true ∧ 0 < p.connection.pendingOutput := by
  unfold hasPendingOutput at houtput
  rcases List.any_eq_true.mp houtput with ⟨p, hp, hwaits⟩
  have hget := get?_of_mem hsound.orderly hp
  refine ⟨p, hp, ?_, of_decide_eq_true hwaits⟩
  rw [(hsound.kept p.id p.connection hget).isActive_iff]
  exact h.live p.id p.connection hget

end Registry

theorem sound_of_course {limit maxPeers : Nat} {s : Stage} {ds : List Deed}
    (h : Course limit ⟨Registry.empty maxPeers, []⟩ ds s) : s.registry.Sound :=
  ⟨marksEnded_of_course h, (numbered_of_course h).orderly,
    fun q => (released_of_course h q).kept⟩

/-! ## Updates -/

-- Without an event a wait has timed out, or it was not possible to wait.
theorem waitOutcome_of_idle {wait : WaitAnswer} (hwait : ∀ e es, wait ≠ .ok (e :: es)) :
    waitOutcome wait = .ok .timeout ∨ ∃ fault, waitOutcome wait = .error fault := by
  cases wait with
  | error fault =>
      by_cases hinterrupted : fault.kind = .interrupted
      · exact Or.inl (if_pos hinterrupted)
      · exact Or.inr ⟨fault, if_neg hinterrupted⟩
  | ok events =>
      cases events with
      | nil => exact Or.inl rfl
      | cons e es => exact absurd rfl (hwait e es)

namespace ServerHistory

-- In both cases the update does nothing.
theorem serve_update_idle (h : ServerHistory) {l : Listening} (hl : h.server.listening = some l)
    (arrivals : List AcceptAnswer) (sockets : PeerId → Option Socket) {wait : WaitAnswer}
    (hwait : ∀ e es, wait ≠ .ok (e :: es)) :
    (h.serve (.update arrivals sockets wait)).server.listening
      = some ⟨arrivals, l.address, l.registry.equip sockets⟩ := by
  rcases waitOutcome_of_idle hwait with hout | ⟨fault, hout⟩
  · simp only [serve, Server.equip, Server.update, hl, Option.map_some, hout]
  · simp only [serve, Server.equip, Server.update, hl, Option.map_some, hout]

theorem deeds_serve_update_idle (h : ServerHistory) {l : Listening}
    (hl : h.server.listening = some l) (arrivals : List AcceptAnswer)
    (sockets : PeerId → Option Socket) {wait : WaitAnswer}
    (hwait : ∀ e es, wait ≠ .ok (e :: es)) :
    (h.serve (.update arrivals sockets wait)).deeds = h.deeds := by
  rcases waitOutcome_of_idle hwait with hout | ⟨fault, hout⟩
  · simp only [serve, Server.equip, Server.update, hl, Option.map_some, hout, List.append_nil]
  · simp only [serve, Server.equip, Server.update, hl, Option.map_some, hout, List.append_nil]

-- The marks after an update: none if there was an event, and otherwise the same.
theorem marked_serve_update (h : ServerHistory) {l : Listening}
    (hl : h.server.listening = some l) (arrivals : List AcceptAnswer)
    (sockets : PeerId → Option Socket) (wait : WaitAnswer) :
    ∃ l', (h.serve (.update arrivals sockets wait)).server.listening = some l' ∧
      (l'.registry.marked = [] ↔ (∃ e es, wait = .ok (e :: es)) ∨ l.registry.marked = []) := by
  by_cases hready : ∃ e es, wait = .ok (e :: es)
  · rcases hready with ⟨e, es, rfl⟩
    rcases h.serve_update_ready hl rfl arrivals sockets e es with ⟨⟨l', hl', hregistry⟩, _⟩
    refine ⟨l', hl', ?_⟩
    rw [hregistry, marked_removeMarked]
    simp
  · have hidle : ∀ e es, wait ≠ .ok (e :: es) := fun e es heq => hready ⟨e, es, heq⟩
    refine ⟨_, h.serve_update_idle hl arrivals sockets hidle, ?_⟩
    rw [or_iff_right hready]
    rfl

-- Only a line of the server's own ends a peer outside a batch.
theorem marked_serveAll_of_no_feed (requests : List ServerRequest) {h : ServerHistory}
    {l : Listening} (hl : h.server.listening = some l) (hnone : l.registry.marked = [])
    (hnofeed : ∀ data sockets, .feed data sockets ∉ requests) :
    ∃ l', (serveAll requests h).server.listening = some l' ∧ l'.registry.marked = [] := by
  induction requests generalizing h l with
  | nil => exact ⟨l, hl, hnone⟩
  | cons request requests ih =>
      have hlater : ∀ data sockets, .feed data sockets ∉ requests :=
        fun data sockets hmem => hnofeed data sockets (List.mem_cons_of_mem _ hmem)
      cases request with
      | update arrivals sockets wait =>
          rcases h.marked_serve_update hl arrivals sockets wait with ⟨l', hl', hmarked⟩
          exact ih hl' (hmarked.mpr (Or.inr hnone)) hlater
      | feed data sockets => exact absurd List.mem_cons_self (hnofeed data sockets)
      | pop =>
          have hpop : (h.serve .pop).server.listening = some l := by
            unfold serve Server.pop
            cases h.server.messages with
            | nil => exact hl
            | cons m ms => exact hl
          exact ih hpop hnone hlater

end ServerHistory

/-- An update leaves a tidy registry if it was told of an event, or if the
    registry was tidy before, and in no other case. Only lines of the server's
    own make it untidy between two updates. The count of peers is that of the
    active ones exactly if the registry is tidy, and then the output that is
    reported waits for an active peer. -/
theorem update_tidies (config : ServerConfig) (port : UInt16) (address : SocketAddress)
    (arrivals : List AcceptAnswer) (requests : List ServerRequest) (arrivals' : List AcceptAnswer)
    (sockets : PeerId → Option Socket) (wait : WaitAnswer) :
    let h := ServerHistory.serveAll requests
      (ServerHistory.opened config port address arrivals)
    let h' := h.serve (.update arrivals' sockets wait)
    ∃ l l', h.server.listening = some l ∧ h'.server.listening = some l' ∧
      (l'.registry.Tidy ↔ (∃ e es, wait = .ok (e :: es)) ∨ l.registry.Tidy) ∧
      ((∀ data sockets, .feed data sockets ∉ requests) → l.registry.Tidy) ∧
      (l'.registry.Tidy ↔
        h'.server.peerCount = l'.registry.peers.countP (·.connection.isActive)) ∧
      (l'.registry.Tidy → h'.server.pendingEvents.output = true →
        ∃ p ∈ l'.registry.peers, p.connection.isActive = true ∧
          0 < p.connection.pendingOutput) := by
  intro h h'
  rcases ServerHistory.course_of_opened config port address arrivals requests with
    ⟨l, hl, hcourse⟩
  have hrun : h' = ServerHistory.serveAll (requests ++ [.update arrivals' sockets wait])
      (ServerHistory.opened config port address arrivals) := by
    rw [ServerHistory.serveAll_append]
    rfl
  rcases ServerHistory.course_of_opened config port address arrivals
    (requests ++ [.update arrivals' sockets wait]) with ⟨l', hl', hcourse'⟩
  rw [← hrun] at hl'
  have hsound : l.registry.Sound := sound_of_course hcourse
  have hsound' : l'.registry.Sound := sound_of_course hcourse'
  have hcount : h'.server.peerCount = l'.registry.size := by
    unfold Server.peerCount
    rw [hl']
  have houtput : h'.server.pendingEvents.output = l'.registry.hasPendingOutput := by
    unfold Server.pendingEvents
    rw [hl']
  refine ⟨l, l', hl, hl', ?_, fun hnofeed => ?_, ?_, fun htidy hwaits => ?_⟩
  · rcases h.marked_serve_update hl arrivals' sockets wait with ⟨l₁, hl₁, hmarked⟩
    have hsame : l₁ = l' := Option.some.inj (hl₁.symm.trans hl')
    rw [hsound'.tidy_iff_unmarked, hsound.tidy_iff_unmarked, ← hsame]
    exact hmarked
  · rcases ServerHistory.marked_serveAll_of_no_feed requests
      (h := ServerHistory.opened config port address arrivals) rfl rfl hnofeed with
      ⟨l₁, hl₁, hmarked⟩
    have hsame : l₁ = l := Option.some.inj (hl₁.symm.trans hl)
    rw [hsound.tidy_iff_unmarked, ← hsame]
    exact hmarked
  · rw [hcount]
    exact hsound'.tidy_iff_count
  · rw [houtput] at hwaits
    exact htidy.exists_writable hsound' hwaits

/-- A peer has come in and is ended by a line of the server's own. An event of the
    listener is enough for it to be taken out. -/
theorem update_tidies_after_long_line :
    let address : UInt16 → SocketAddress := .v4 ⟨127, 0, 0, 1⟩
    let accepting : Event := ⟨0, true, false, false, false⟩
    let requests : List ServerRequest := [
      .update [.ok (Socket.idle, address 1)] (fun _ => none) (.ok [accepting]),
      .feed "abcd\n".toUTF8 (fun _ => none)]
    let h := ServerHistory.serveAll requests (ServerHistory.opened ⟨2, 4, 4⟩ 1 (address 0) [])
    let h' := h.serve (.update [.ok (Socket.idle, address 2)] (fun _ => none) (.ok [accepting]))
    ∃ l l', h.server.listening = some l ∧ h'.server.listening = some l' ∧
      ¬ l.registry.Tidy ∧ l'.registry.Tidy ∧
      h'.server.peerCount = l'.registry.peers.countP (·.connection.isActive) ∧
      h'.server.peerCount = 1 := by
  intro address accepting requests h h'
  rcases update_tidies ⟨2, 4, 4⟩ 1 (address 0) [] requests [.ok (Socket.idle, address 2)]
    (fun _ => none) (.ok [accepting]) with ⟨l, l', hl, hl', hiff, _, hcount, _⟩
  have htidy : l'.registry.Tidy := hiff.mpr (Or.inl ⟨accepting, [], rfl⟩)
  have hmarked : h.server.listening.map (·.registry.marked) = some [⟨1⟩] := by decide +kernel
  rw [hl, Option.map_some, Option.some.injEq] at hmarked
  refine ⟨l, l', hl, hl', fun hbefore => ?_, htidy, hcount.mp htidy, by decide +kernel⟩
  have hnone := hbefore.unmarked
  rw [hmarked] at hnone
  cases hnone

/-- A peer that does not read has the bytes of one line in its queue, and a second
    line of the server's own ends it. The next update times out, and the peer is
    still there: it is counted, and output is reported, while no peer is left that
    could take it. -/
theorem timed_out_update_keeps_closed_peer :
    let address : UInt16 → SocketAddress := .v4 ⟨127, 0, 0, 1⟩
    let requests : List ServerRequest := [
      .update [.ok (Socket.idle, address 1)] (fun _ => none)
        (.ok [⟨0, true, false, false, false⟩]),
      .feed "ab\n".toUTF8 (fun _ => none),
      .update [] (fun _ => none) (.ok [⟨1, false, true, false, false⟩]),
      .feed "cd\n".toUTF8 (fun _ => none),
      .update [] (fun _ => none) (.ok [])]
    let h := ServerHistory.serveAll requests (ServerHistory.opened ⟨2, 4, 4⟩ 1 (address 0) [])
    ∃ l c, h.server.listening = some l ∧ l.registry.marked = [⟨1⟩] ∧
      l.registry.get? ⟨1⟩ = some c ∧ c.state = .closing ∧
      h.server.peerCount = 1 ∧ h.server.pendingEvents.output = true ∧
      l.registry.peers.countP (·.connection.isActive) = 0 := by
  intro address requests h
  have hlook : h.server.listening.map (fun l => (l.registry.marked,
      (l.registry.get? ⟨1⟩).map (·.state), l.registry.peers.countP (·.connection.isActive)))
      = some ([⟨1⟩], some .closing, 0) := by decide +kernel
  rcases Option.map_eq_some_iff.mp hlook with ⟨l, hl, hseen⟩
  rw [Prod.mk.injEq, Prod.mk.injEq] at hseen
  rcases Option.map_eq_some_iff.mp hseen.2.1 with ⟨c, hc, hstate⟩
  exact ⟨l, c, hl, hseen.1, hc, hstate, by decide +kernel, by decide +kernel, hseen.2.2⟩

end LineChat
