import LineChat.Proofs.Session.Fate

/-!
# Taking Peers Out

A peer that has ended is marked, and a peer that is marked is taken out once.

A peer can end wherever its connection is used: in a read, in a write, when an
interest is registered, by what an event says, or because somebody else's
message does not fit into its queue. None of these takes it out. What follows
each of them is `Registry.markEnded`, and the end of a batch takes out whoever
is marked. For that to be right the marks have to say exactly who has ended, at
any moment, and that is `Registry.MarksEnded`. It is a law about one registry
and says nothing of how a peer has ended, so an operation on a connection
enters only as the connection that it led to (`MarksEnded.settle`).

That nobody is taken out twice is a law about the record. It needs no marks: a
peer that is gone does not come back, since its number is not given again.

## Main definitions

* `Registry.MarksEnded`: The marked peers are those that have ended.
* `unwatched`: How often the registration of a peer was given up.
* `Released`: The account of the registration of one peer.
* `Listening.during`: A batch behind some of its events.

## Theorems

* `marksEnded_of_course`: The marks are right at every moment.
* `get?_removeMarked`: The end of a batch takes out those that have ended.
* `released_of_course`: A peer is released once, and not while it is there.
* `ended_peers_leave_once`: Both laws for every run.
-/

namespace LineChat

/-! ## Marks -/

theorem Connection.isActive_equip (c : Connection) (socket : Option Socket) :
    (c.equip socket).isActive = c.isActive := by
  cases socket with
  | none => rfl
  | some s => rfl

namespace Registry

/-- The marked peers are those that have ended, each of them once. -/
structure MarksEnded (r : Registry) : Prop where
  once : r.marked.Nodup
  ended : ∀ q, q ∈ r.marked ↔ ∃ c, r.get? q = some c ∧ c.isActive = false

theorem mem_markEnded (r : Registry) (id q : PeerId) (c : Connection) :
    q ∈ (r.markEnded id c).marked ↔ q ∈ r.marked ∨ (q = id ∧ c.isActive = false) := by
  unfold markEnded
  by_cases hactive : c.isActive = true
  · simp [hactive]
  · rw [if_neg hactive, mem_mark]
    simp [Bool.eq_false_iff.mpr hactive]

theorem nodup_markEnded {r : Registry} (h : r.marked.Nodup) (id : PeerId) (c : Connection) :
    (r.markEnded id c).marked.Nodup := by
  unfold markEnded
  split
  · exact h
  · exact nodup_mark h id

theorem marksEnded_empty (maxPeers : Nat) : (empty maxPeers).MarksEnded := by
  refine ⟨List.nodup_nil, fun q => ⟨fun hq => (by cases hq), ?_⟩⟩
  rintro ⟨c, hc, _⟩
  cases hc

namespace MarksEnded

variable {r r' : Registry}

-- A peer that is there is active if and only if it has no mark.
theorem isActive_iff (h : r.MarksEnded) {q : PeerId} {c : Connection} (hc : r.get? q = some c) :
    c.isActive = true ↔ q ∉ r.marked := by
  rw [h.ended, hc]
  simp

-- The same marks are right as long as the same peers have ended.
theorem of_same (h : r.MarksEnded) (hmarked : r'.marked = r.marked)
    (hsame : ∀ q, (∃ c, r'.get? q = some c ∧ c.isActive = false) ↔
      ∃ c, r.get? q = some c ∧ c.isActive = false) : r'.MarksEnded := by
  refine ⟨?_, fun q => ?_⟩
  · rw [hmarked]
    exact h.once
  · rw [hmarked, hsame]
    exact h.ended q

theorem equip (h : r.MarksEnded) (sockets : PeerId → Option Socket) :
    (r.equip sockets).MarksEnded := by
  refine h.of_same rfl fun q => ?_
  rw [get?_equip]
  cases r.get? q with
  | none => simp
  | some c => simp [Connection.isActive_equip]

-- Whoever comes in is active.
theorem join (h : r.MarksEnded) (id : PeerId) {c : Connection} (hactive : c.isActive = true) :
    (r.allocate.2.insert id c).MarksEnded := by
  refine h.of_same rfl fun q => ?_
  have hlook : (r.allocate.2.insert id c).get? q
      = (r.get? q).or (if id = q then some c else none) := get?_insert _ _ _ _
  rw [hlook]
  cases r.get? q with
  | none =>
      by_cases hq : id = q
      · simp [hq, hactive]
      · simp [hq]
  | some c₀ => simp

-- The connection of an active peer is replaced, and the peer is marked if the new
-- one has ended. It was not marked before, so it is not marked twice.
theorem settle (h : r.MarksEnded) {id : PeerId} {c₀ : Connection} (hget : r.get? id = some c₀)
    (hactive : c₀.isActive = true) (c : Connection) :
    ((r.set id c).markEnded id c).MarksEnded := by
  refine ⟨nodup_markEnded (r := r.set id c) h.once id c, fun q => ?_⟩
  rw [mem_markEnded, get?_markEnded, get?_set]
  change q ∈ r.marked ∨ _ ↔ _
  by_cases hq : q = id
  · subst hq
    have hnot : q ∉ r.marked := (h.isActive_iff hget).mp hactive
    rw [if_pos rfl, hget]
    simp [hnot]
  · rw [if_neg hq, h.ended]
    simp [hq]

end MarksEnded

end Registry

-- What is relayed to one peer ends no other, so each peer of the list is still as
-- it was when its turn comes.
theorem marksEnded_fanOutTo (sender : Option PeerId) (m : Message) (ps : List Peer) {r : Registry}
    (h : r.MarksEnded) (hnodup : (ps.map (·.id)).Nodup)
    (hpeers : ∀ p ∈ ps, r.get? p.id = some p.connection) :
    (fanOutTo sender m ps r).registry.MarksEnded := by
  induction ps generalizing r with
  | nil => exact h
  | cons p ps ih =>
      rw [List.map_cons, List.nodup_cons] at hnodup
      rw [fanOutTo]
      by_cases hskip : (decide (some p.id = sender) || !p.connection.isActive) = true
      · rw [if_pos hskip]
        exact ih h hnodup.2 fun p' hp' => hpeers p' (List.mem_cons_of_mem p hp')
      · rw [if_neg hskip]
        dsimp only
        have hactive := Connection.isActive_of_not_passed hskip
        refine ih (h.settle (hpeers p List.mem_cons_self) hactive _) hnodup.2 fun p' hp' => ?_
        have hne : p'.id ≠ p.id := by
          intro heq
          exact hnodup.1 (heq ▸ List.mem_map.mpr ⟨p', hp', rfl⟩)
        rw [Registry.get?_markEnded, Registry.get?_set, if_neg hne]
        exact hpeers p' (List.mem_cons_of_mem p hp')

theorem marked_releaseMarked (ids : List PeerId) (r : Registry) :
    (releaseMarked ids r).registry.marked = r.marked := by
  induction ids generalizing r with
  | nil => rfl
  | cons id ids ih =>
      rw [releaseMarked]
      split
      · exact ih r
      · exact ih (r.erase id)

theorem marked_removeMarked (r : Registry) : (removeMarked r).registry.marked = [] :=
  marked_releaseMarked r.marked { r with marked := [] }

/-- The end of a batch takes out the peers that have ended, and nobody else. -/
theorem get?_removeMarked {r : Registry} (h : r.MarksEnded) (q : PeerId) :
    (removeMarked r).registry.get? q = (r.get? q).filter (·.isActive) := by
  by_cases hmarked : q ∈ r.marked
  · rcases (h.ended q).mp hmarked with ⟨c, hc, hended⟩
    have hself := releaseMarked_self r.marked { r with marked := [] } hmarked (c := c) hc
    rw [show (removeMarked r).registry.get? q = none from hself.1, hc]
    exact (Option.filter_some_neg hended).symm
  · have hother := releaseMarked_other r.marked { r with marked := [] } hmarked
    rw [show (removeMarked r).registry.get? q = r.get? q from hother.1]
    cases hget : r.get? q with
    | none => rfl
    | some c => exact (Option.filter_some_pos ((h.isActive_iff hget).mpr hmarked)).symm

theorem marksEnded_removeMarked {r : Registry} (h : r.MarksEnded) :
    (removeMarked r).registry.MarksEnded := by
  refine ⟨?_, fun q => ?_⟩
  · rw [marked_removeMarked]
    exact List.nodup_nil
  · rw [marked_removeMarked, get?_removeMarked h]
    cases r.get? q with
    | none => simp
    | some c => simp [Option.filter_eq_some_iff]

theorem marksEnded_step {limit : Nat} {s s' : Stage} {es : List Deed} (h : Step limit s es s')
    (horderly : s.registry.Orderly) (hm : s.registry.MarksEnded) : s'.registry.MarksEnded := by
  cases h with
  | equip r sockets => exact hm.equip sockets
  | turnAway r address hfull => exact hm
  | acceptFault r fault => exact hm
  | lose r socket address fault hroom hlost => exact hm.of_same rfl fun _ => Iff.rfl
  | join r socket address c hroom hjoined =>
      refine hm.join _ ?_
      rcases Connection.heard_of_register hjoined with ⟨_, _, _, _, hstate⟩
      unfold Connection.isActive
      rw [hstate]
      rfl
  | dispatch r e =>
      rcases dispatch_cases e r with ⟨hnothing, _⟩ | ⟨c, hsender, hactive, hhandled⟩
      · rw [hnothing]
        exact hm
      · rw [hhandled]
        exact hm.settle hsender hactive _
  | broadcast r ms => exact hm
  | relay r sender m waiting =>
      exact marksEnded_fanOutTo sender m r.peers hm horderly.nodup fun p hp =>
        Registry.get?_of_mem horderly hp
  | remove r => exact marksEnded_removeMarked hm

/-- The marks are right at every moment of every course. -/
theorem marksEnded_of_course {limit maxPeers : Nat} {s : Stage} {ds : List Deed}
    (h : Course limit ⟨Registry.empty maxPeers, []⟩ ds s) : s.registry.MarksEnded := by
  induction h with
  | rest => exact Registry.marksEnded_empty maxPeers
  | step before last ih => exact marksEnded_step last (numbered_of_course before).orderly ih

/-! ## Releases -/

/-- How often the registration of a peer was given up. -/
def unwatched (q : PeerId) (ds : List Deed) : Nat := (callsOn q ds).countP SocketCall.isUnwatch

theorem unwatched_append (q : PeerId) (ds es : List Deed) :
    unwatched q (ds ++ es) = unwatched q ds + unwatched q es := by
  unfold unwatched
  rw [callsOn_append, List.countP_append]

-- A step gives up the registration of the peer that goes, and no other.
theorem Fate.releases {limit : Nat} {q : PeerId} {marked : List PeerId} {es : List Deed}
    {before after : Option Connection} (h : Fate limit q marked es before after)
    (hkept : ∀ c, before = some c → c.Unreleased) :
    let gone := if before.isSome ∧ after.isNone then 1 else 0
    unwatched q es = gone ∧ (departures es).count q = gone := by
  cases h with
  | away hcalls hnew hleft => simp [unwatched, hcalls, hleft]
  | comes socket address c hjoined hes =>
      rw [hes]
      have hone : departures [.joined q address, .called q (.watch .readable (.ok ()))] = [] := rfl
      simp [unwatched, callsOn, Deed.call?, SocketCall.isUnwatch, hone]
  | stays c c' htouch hnew hleft =>
      have hnone : unwatched q es = 0 := by
        unfold unwatched
        rw [List.countP_eq_zero]
        intro call hcall
        simp [htouch.keeps_watch call hcall]
      simp [hnone, hleft]
  | goes c hmarked hcalls hnew hleft =>
      have hone : unwatched q es = 1 := by
        unfold unwatched
        rw [hcalls, (hkept c rfl).release_calls]
        rfl
      simp [hone, hleft]

/-- The peer `q` has its registration for as long as it is there. Once it is gone
    the registration was given up and the peer has left, each of them once. -/
structure Released (q : PeerId) (s : Stage) (ds : List Deed) : Prop where
  kept : ∀ c, s.registry.get? q = some c → c.Unreleased
  once : let gone := if (s.registry.get? q).isNone ∧ q ∈ newcomers ds then 1 else 0
    unwatched q ds = gone ∧ (departures ds).count q = gone

theorem released_step {limit : Nat} {s s' : Stage} {ds es : List Deed} (h : Step limit s es s')
    (hn : Numbered s ds) {q : PeerId} (hr : Released q s ds) : Released q s' (ds ++ es) := by
  have hfate := fate_of_step h hn.orderly q
  have hpresent := hn.present q
  have hcomes := (numbered_step h hn).not_mem_of_newcomer (q := q)
  rcases hr with ⟨hkept, hunwatch, hleave⟩
  generalize s.registry.get? q = before at hfate hkept hunwatch hleave hpresent
  generalize hafter : s'.registry.get? q = after at hfate
  refine ⟨fun c hc => ?_, ?_⟩
  · rw [hafter] at hc
    subst hc
    cases hfate with
    | comes socket address c hjoined hes =>
        exact Connection.unreleased_of_register hjoined (by decide)
    | stays c₀ c htouch hnew hleft => exact htouch.unreleased (hkept c₀ rfl)
  · rcases hfate.releases hkept with ⟨hunwatch', hleave'⟩
    -- Whoever is gone was gone before or has gone in this step.
    have hgone : (if before.isNone ∧ q ∈ newcomers ds then 1 else 0)
        + (if before.isSome ∧ after.isNone then 1 else 0)
        = if after.isNone ∧ q ∈ newcomers (ds ++ es) then 1 else 0 := by
      simp only [newcomers_append, List.mem_append, hfate.newcomer_iff]
      cases before with
      | none =>
          cases after with
          | none => simp
          | some c' =>
              have hnot : q ∉ newcomers ds := hcomes (hfate.newcomer_iff.mpr ⟨rfl, rfl⟩)
              simp [hnot]
      | some c =>
          cases after with
          | none => simp [hpresent c rfl]
          | some c' => simp
    rw [unwatched_append, departures_append, List.count_append, hunwatch, hleave, hunwatch',
      hleave', hafter, hgone]
    exact ⟨rfl, rfl⟩

/-- A peer is released once, and not while it is there. -/
theorem released_of_course {limit maxPeers : Nat} {s : Stage} {ds : List Deed}
    (h : Course limit ⟨Registry.empty maxPeers, []⟩ ds s) (q : PeerId) : Released q s ds := by
  induction h with
  | rest =>
      refine ⟨fun c hc => ?_, rfl, rfl⟩
      cases hc
  | step before last ih => exact released_step last (numbered_of_course before) ih

/-! ## The end of a batch -/

-- Whoever is there at the end of a batch is released then or was never released.
theorem released_removeMarked {limit maxPeers : Nat} {r : Registry} {ds : List Deed}
    (h : Course limit ⟨Registry.empty maxPeers, []⟩ ds ⟨r, []⟩) {q : PeerId} {c : Connection}
    (hc : r.get? q = some c) :
    let gone := if c.isActive then 0 else 1
    unwatched q (ds ++ (removeMarked r).deeds) = gone ∧
      (departures (ds ++ (removeMarked r).deeds)).count q = gone := by
  intro gone
  have hlook := get?_removeMarked (marksEnded_of_course h) q
  have hcame : q ∈ newcomers (ds ++ (removeMarked r).deeds) := by
    rw [newcomers_append]
    exact List.mem_append_left _ ((numbered_of_course h).present q c hc)
  rcases released_of_course (h.step (.remove r)) q with ⟨_, hunwatch, hleave⟩
  rw [hunwatch, hleave, hlook, hc, Option.filter_some]
  by_cases hactive : c.isActive = true
  · simp [gone, hactive]
  · simp only [gone, hactive, hcame, if_neg, and_self, Option.isNone_none, if_true,
      Bool.false_eq_true, not_false_eq_true]

/-- The batch of a listening server behind some of its events. The listener and
    the sockets have other answers since the batch began. -/
def Listening.during (l : Listening) (limit : Nat) (arrivals : List AcceptAnswer)
    (sockets : PeerId → Option Socket) (events : List Event) : Batch :=
  events.foldl (Batch.step limit) ⟨l.registry.equip sockets, arrivals, [], [], none⟩

theorem Listening.course_during {limit : Nat} {s : Stage} {ds : List Deed} {l : Listening}
    (h : Course limit s ds ⟨l.registry, []⟩) (arrivals : List AcceptAnswer)
    (sockets : PeerId → Option Socket) (events : List Event) :
    Course limit s (ds ++ (l.during limit arrivals sockets events).deeds)
      ⟨(l.during limit arrivals sockets events).registry, []⟩ := by
  rcases course_batch limit events ⟨l.registry.equip sockets, arrivals, [], [], none⟩ with
    ⟨es, hes, hcourse⟩
  have hequip : Course limit s (ds ++ []) ⟨l.registry.equip sockets, []⟩ :=
    h.step (.equip l.registry sockets)
  rw [List.append_nil] at hequip
  rw [List.nil_append] at hes
  unfold during
  rw [hes]
  exact hequip.trans hcourse

namespace ServerHistory

-- An update that was told of events goes through them and takes out the marked
-- peers.
theorem serve_update_ready (h : ServerHistory) {l : Listening} (hl : h.server.listening = some l)
    {limit : Nat} (hlimit : h.server.config.maxBuffer = limit) (arrivals : List AcceptAnswer)
    (sockets : PeerId → Option Socket) (e : Event) (es : List Event) :
    (∃ l', (h.serve (.update arrivals sockets (.ok (e :: es)))).server.listening = some l' ∧
      l'.registry = (removeMarked (l.during limit arrivals sockets (e :: es)).registry).registry) ∧
    (h.serve (.update arrivals sockets (.ok (e :: es)))).deeds
      = h.deeds ++ (l.during limit arrivals sockets (e :: es)).deeds ++
        (removeMarked (l.during limit arrivals sockets (e :: es)).registry).deeds := by
  subst hlimit
  rw [List.append_assoc]
  simp only [serve, Server.equip, Server.update, hl, Option.map_some, waitOutcome,
    Server.dispatchBatch]
  exact ⟨⟨_, rfl, rfl⟩, rfl⟩

end ServerHistory

/-- At every moment of every run the marked peers are those that have ended, each
    of them once: between two operations, and behind each event of a batch. An
    update that was told of events takes out those that have ended, and nobody
    else. Whoever has come in and is gone was released once and has left once,
    and nobody is released who is there. -/
theorem ended_peers_leave_once (config : ServerConfig) (port : UInt16) (address : SocketAddress)
    (arrivals : List AcceptAnswer) (requests : List ServerRequest) :
    let h := ServerHistory.serveAll requests
      (ServerHistory.opened config port address arrivals)
    ∃ l, h.server.listening = some l ∧ l.registry.MarksEnded ∧
      (∀ q, let gone := if (l.registry.get? q).isNone ∧ q ∈ newcomers h.deeds then 1 else 0
        unwatched q h.deeds = gone ∧ (departures h.deeds).count q = gone) ∧
      ∀ arrivals' sockets,
        (∀ events, (l.during config.maxBuffer arrivals' sockets events).registry.MarksEnded) ∧
        ∀ e es,
          let batch := l.during config.maxBuffer arrivals' sockets (e :: es)
          let h' := h.serve (.update arrivals' sockets (.ok (e :: es)))
          ∃ l', h'.server.listening = some l' ∧ l'.registry.marked = [] ∧
            ∀ q, l'.registry.get? q = (batch.registry.get? q).filter (·.isActive) ∧
              ∀ c, batch.registry.get? q = some c →
                let gone := if c.isActive then 0 else 1
                unwatched q h'.deeds = gone ∧ (departures h'.deeds).count q = gone := by
  intro h
  rcases ServerHistory.course_of_opened config port address arrivals requests with
    ⟨l, hl, hcourse⟩
  rcases ServerHistory.course_serveAll requests
    (ServerHistory.opened config port address arrivals) rfl with ⟨_, _, _, hconfig, _, _⟩
  have hlimit : h.server.config.maxBuffer = config.maxBuffer := congrArg (·.maxBuffer) hconfig
  refine ⟨l, hl, marksEnded_of_course hcourse, fun q => ?_, fun arrivals' sockets => ⟨?_, ?_⟩⟩
  · exact (released_of_course hcourse q).once
  · intro events
    exact marksEnded_of_course (l.course_during hcourse arrivals' sockets events)
  · intro e es batch h'
    have hbatch : Course config.maxBuffer ⟨Registry.empty config.maxPeers, []⟩
        (h.deeds ++ batch.deeds) ⟨batch.registry, []⟩ :=
      l.course_during hcourse arrivals' sockets (e :: es)
    rcases h.serve_update_ready hl hlimit arrivals' sockets e es with ⟨⟨l', hl', hregistry⟩, hdeeds⟩
    refine ⟨l', hl', ?_, fun q => ⟨?_, fun c hc => ?_⟩⟩
    · rw [hregistry]
      exact marked_removeMarked _
    · rw [hregistry]
      exact get?_removeMarked (marksEnded_of_course hbatch) q
    · rw [hdeeds]
      exact released_removeMarked hbatch hc

/-- The first of three peers sends a line and hangs up. The second still has three
    bytes in its queue, and the line does not fit; the third has just written
    them. Two peers are marked, in the order in which they ended, and each is
    released once. -/
theorem ended_peers_leave_once_two_of_three :
    let address : UInt16 → SocketAddress := .v4 ⟨127, 0, 0, 1⟩
    let requests : List ServerRequest := [
      .update [.ok (Socket.idle, address 1), .ok (Socket.idle, address 2),
        .ok (Socket.idle, address 3)] (fun _ => none) (.ok [⟨0, true, false, false, false⟩]),
      .feed "ab\n".toUTF8 (fun _ => none)]
    let sockets : PeerId → Option Socket := fun q =>
      if q = ⟨1⟩ then some ⟨[.ok "cd\n".toUTF8], [], [], none⟩ else some ⟨[], [.ok 3], [], none⟩
    let events : List Event := [⟨3, false, true, false, false⟩, ⟨1, true, false, true, false⟩]
    let h := ServerHistory.serveAll requests (ServerHistory.opened ⟨3, 4, 4⟩ 1 (address 0) [])
    let h' := h.serve (.update [] sockets (.ok events))
    ∃ l l' c, h.server.listening = some l ∧ h'.server.listening = some l' ∧
      (l.during 4 [] sockets events).registry.marked = [⟨1⟩, ⟨2⟩] ∧
      (l.during 4 [] sockets events).registry.get? ⟨2⟩ = some c ∧ c.isActive = false ∧
      l'.registry.marked = [] ∧
      unwatched ⟨2⟩ h'.deeds = 1 ∧ (departures h'.deeds).count ⟨2⟩ = 1 := by
  intro address requests sockets events h h'
  rcases ended_peers_leave_once ⟨3, 4, 4⟩ 1 (address 0) [] requests with ⟨l, hl, _, _, hupdate⟩
  rcases (hupdate [] sockets).2 ⟨3, false, true, false, false⟩ [⟨1, true, false, true, false⟩] with
    ⟨l', hl', hmarked, hpeers⟩
  have hlook : h.server.listening.map (fun l =>
      let registry := (l.during 4 [] sockets events).registry
      (registry.marked, (registry.get? ⟨2⟩).map (·.isActive)))
      = some ([⟨1⟩, ⟨2⟩], some false) := by decide +kernel
  rw [hl, Option.map_some, Option.some.injEq, Prod.mk.injEq] at hlook
  rcases Option.map_eq_some_iff.mp hlook.2 with ⟨c, hc, hended⟩
  have hgone := (hpeers ⟨2⟩).2 c hc
  rw [hended] at hgone
  exact ⟨l, l', c, hl, hl', hlook.1, hc, hended, hmarked, hgone.1, hgone.2⟩

end LineChat
