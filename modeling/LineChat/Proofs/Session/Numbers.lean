import LineChat.Proofs.Session.Removal

/-!
# The Numbers of Peers

A number is given once, and a place is given up before it is given again.

Numbers are also given to connections that never become peers, because they
could not be registered. So the numbers of those who came in may have gaps, and
what counts up without a gap are the numbers that were handed out. They begin
with one, which keeps every peer apart from the listener, and they are counted
by the next number, so a run that hands out fewer numbers than a machine word
holds never comes to its end.

Everything is a law about one registry and the record of how it came to be
(`Registry.Numbers`). A step hands out the next number or none, and only the
coming in of a peer takes a place. The rest follows: the next number is above
all that were handed out, so nobody is there under it when a peer comes in, and
nobody will be there under the number of a peer that has left.

## Main definitions

* `handedOut`: The numbers that were given.
* `Registry.Numbers`: What the record says about numbers and places.

## Theorems

* `handedOut_of_step`: A step hands out the next number or none.
* `roomy_of_step`: A step keeps to the number of places.
* `get?_acceptAll`: Whoever is there is still there when others come in.
* `step_of_absent`: An event of a peer that is gone is nothing.
* `numbers_of_course`: The law for every moment of every course.
* `numbers_are_given_once`: The law for every run.
-/

namespace LineChat

/-- The number that a deed has given to a connection, if it did. -/
def Deed.given? : Deed → Option PeerId
  | joined id _ => some id
  | notRegistered id _ _ => some id
  | _ => none

/-- The numbers that were given to connections, in order. -/
def handedOut (ds : List Deed) : List PeerId := ds.filterMap Deed.given?

@[simp] theorem handedOut_append (ds es : List Deed) :
    handedOut (ds ++ es) = handedOut ds ++ handedOut es := List.filterMap_append

@[simp] theorem handedOut_map_called (id : PeerId) (calls : List SocketCall) :
    handedOut (calls.map (.called id)) = [] := by
  unfold handedOut
  rw [List.filterMap_map, List.filterMap_eq_nil_iff]
  exact fun _ _ => rfl

@[simp] theorem handedOut_map_framed (sender : Option PeerId) (ms : List Message) :
    handedOut (ms.map (.framed sender)) = [] := by
  unfold handedOut
  rw [List.filterMap_map, List.filterMap_eq_nil_iff]
  exact fun _ _ => rfl

-- Whoever comes in was given a number.
theorem newcomers_sublist_handedOut (ds : List Deed) : (newcomers ds).Sublist (handedOut ds) := by
  induction ds with
  | nil => exact List.nil_sublist _
  | cons d ds ih =>
      unfold newcomers handedOut at ih ⊢
      cases d with
      | joined id address => exact ih.cons_cons id
      | notRegistered id address fault => exact ih.cons id
      | turnedAway address => exact ih
      | acceptFault fault => exact ih
      | called id call => exact ih
      | framed sender m => exact ih
      | left id => exact ih

/-! ## What a step hands out -/

theorem handedOut_dispatch (e : Event) (r : Registry) : handedOut (dispatch e r).2.deeds = [] := by
  rcases dispatch_cases e r with ⟨hnothing, _⟩ | ⟨c, _, _, hhandled⟩
  · rw [hnothing]
    rfl
  · rw [hhandled]
    simp

theorem handedOut_fanOutTo (sender : Option PeerId) (m : Message) (ps : List Peer)
    (r : Registry) : handedOut (fanOutTo sender m ps r).deeds = [] := by
  induction ps generalizing r with
  | nil => rfl
  | cons p ps ih =>
      rw [fanOutTo]
      split
      · exact ih r
      · simp [ih]

theorem handedOut_releaseMarked (ids : List PeerId) (r : Registry) :
    handedOut (releaseMarked ids r).deeds = [] := by
  induction ids generalizing r with
  | nil => rfl
  | cons id ids ih =>
      rw [releaseMarked]
      split
      · exact ih r
      · rw [handedOut_append, handedOut_map_called, List.nil_append]
        exact ih _

/-- A step hands out the next number, and then the number after it is the next,
    or it hands out none. -/
theorem handedOut_of_step {limit : Nat} {s s' : Stage} {es : List Deed} (h : Step limit s es s')
    (horderly : s.registry.Orderly) :
    handedOut es = [] ∧ s'.registry.nextNumber = s.registry.nextNumber ∨
      handedOut es = [⟨s.registry.nextNumber⟩] ∧
        s'.registry.nextNumber = s.registry.nextNumber + 1 := by
  cases h with
  | equip r sockets => exact Or.inl ⟨rfl, rfl⟩
  | turnAway r address hfull => exact Or.inl ⟨rfl, rfl⟩
  | acceptFault r fault => exact Or.inl ⟨rfl, rfl⟩
  | lose r socket address fault hroom hlost => exact Or.inr ⟨rfl, rfl⟩
  | join r socket address c hroom hjoined => exact Or.inr ⟨rfl, rfl⟩
  | dispatch r e => exact Or.inl ⟨handedOut_dispatch e r, (record_dispatch e r).2.2.2⟩
  | broadcast r ms => exact Or.inl ⟨handedOut_map_framed none ms, rfl⟩
  | relay r sender m waiting =>
      exact Or.inl ⟨handedOut_fanOutTo sender m r.peers r, (record_fanOut sender m r).2.2.2⟩
  | remove r =>
      exact Or.inl ⟨handedOut_releaseMarked r.marked _, (record_removeMarked horderly).2.2.2⟩

/-! ## Places -/

namespace Registry

theorem size_eq_length_ids (r : Registry) : r.size = r.ids.length := (List.length_map ..).symm

/-- There are places for so many peers, and no more peers than that. -/
def Roomy (r : Registry) (places : Nat) : Prop := r.maxPeers = places ∧ r.size ≤ places

-- Who keeps the number of places and has the same peers, or fewer, keeps to it.
theorem Roomy.of_length_le {r r' : Registry} {places : Nat} (h : r.Roomy places)
    (hmax : r'.maxPeers = r.maxPeers) (hids : r'.ids.length ≤ r.ids.length) : r'.Roomy places := by
  refine ⟨hmax.trans h.1, ?_⟩
  rw [size_eq_length_ids]
  rw [← size_eq_length_ids r] at hids
  exact Nat.le_trans hids h.2

theorem maxPeers_markEnded (r : Registry) (id : PeerId) (c : Connection) :
    (r.markEnded id c).maxPeers = r.maxPeers := by
  unfold markEnded mark
  split
  · rfl
  · split <;> rfl

-- A peer comes in only if there is a place for it.
theorem Roomy.insert {r : Registry} {places : Nat} (h : r.Roomy places) (hroom : r.isFull = false)
    (c : Connection) : (r.allocate.2.insert r.allocate.1 c).Roomy places := by
  have hplace : r.size < r.maxPeers := Nat.lt_of_not_le (of_decide_eq_false hroom)
  have hsize : (r.allocate.2.insert r.allocate.1 c).size = r.size + 1 := List.length_append ..
  refine ⟨h.1, ?_⟩
  rw [hsize, ← h.1]
  exact hplace

end Registry

theorem maxPeers_fanOutTo (sender : Option PeerId) (m : Message) (ps : List Peer) (r : Registry) :
    (fanOutTo sender m ps r).registry.maxPeers = r.maxPeers := by
  induction ps generalizing r with
  | nil => rfl
  | cons p ps ih =>
      rw [fanOutTo]
      split
      · exact ih r
      · exact (ih _).trans (Registry.maxPeers_markEnded _ _ _)

theorem roomy_releaseMarked (ids : List PeerId) {r : Registry} {places : Nat}
    (h : r.Roomy places) : (releaseMarked ids r).registry.Roomy places := by
  induction ids generalizing r with
  | nil => exact h
  | cons id ids ih =>
      rw [releaseMarked]
      split
      · exact ih h
      · exact ih ⟨h.1, Nat.le_trans (List.length_filter_le _ _) h.2⟩

/-- A step keeps to the number of places. -/
theorem roomy_of_step {limit places : Nat} {s s' : Stage} {es : List Deed}
    (h : Step limit s es s') (hroomy : s.registry.Roomy places) : s'.registry.Roomy places := by
  cases h with
  | equip r sockets =>
      exact hroomy.of_length_le rfl (Nat.le_of_eq (congrArg _ (Registry.ids_equip r sockets)))
  | turnAway r address hfull => exact hroomy
  | acceptFault r fault => exact hroomy
  | lose r socket address fault hroom hlost => exact hroomy
  | join r socket address c hroom hjoined => exact hroomy.insert hroom c
  | dispatch r e =>
      refine hroomy.of_length_le ?_ (Nat.le_of_eq (congrArg _ (record_dispatch e r).2.2.1))
      rcases dispatch_cases e r with ⟨hnothing, _⟩ | ⟨c, _, _, hhandled⟩
      · rw [hnothing]
      · rw [hhandled]
        exact Registry.maxPeers_markEnded _ _ _
  | broadcast r ms => exact hroomy
  | relay r sender m waiting =>
      exact hroomy.of_length_le (maxPeers_fanOutTo sender m r.peers r)
        (Nat.le_of_eq (congrArg _ (record_fanOut sender m r).2.2.1))
  | remove r => exact roomy_releaseMarked r.marked hroomy

/-! ## Who is there -/

/-- Whoever is there is still there when others come in, and as before. -/
theorem get?_acceptAll (limit : Nat) (arrivals : List AcceptAnswer) (r : Registry) {q : PeerId}
    {c : Connection} (hc : r.get? q = some c) :
    (acceptAll limit arrivals r).registry.get? q = some c := by
  refine acceptAll_law (R := fun r _ r' => r.get? q = some c → r'.get? q = some c) (fun _ => id)
    (fun h h' hc => h' (h hc)) (fun {r _ _} harrival hc => ?_) arrivals r hc
  cases harrival with
  | turnAway address hfull => exact hc
  | acceptFault fault => exact hc
  | lose socket address fault hroom hlost => exact hc
  | join socket address c' hroom hjoined =>
      rw [Registry.get?_insert, show r.allocate.2.get? q = some c from hc]
      rfl

/-- An event that tells neither of the listener nor of anybody who is there is
    nothing. -/
theorem step_of_absent (limit : Nat) (b : Batch) {e : Event} (hpeer : e.token ≠ listenerToken)
    (hgone : b.registry.get? (PeerId.ofToken e.token) = none) : b.step limit e = b := by
  have hnothing : dispatch e b.registry = ([], ⟨b.registry, []⟩) := by
    unfold dispatch
    simp only [hgone]
  unfold Batch.step
  rw [if_neg hpeer, hnothing]
  simp [fanOutAll]

/-! ## Every moment of every course -/

/-- What the record of a server says about its peers and their numbers, if there
    are places for `places` of them. -/
structure Registry.Numbers (r : Registry) (places : Nat) (ds : List Deed) : Prop where
  /-- Nobody is there without a place. -/
  places : r.size ≤ places
  /-- Numbers count up from one. -/
  counted : (handedOut ds).map (·.number) = List.range' 1 (handedOut ds).length
  /-- The next number is the one behind them. -/
  next : r.nextNumber = (handedOut ds).length + 1
  /-- Whoever is there has come in. -/
  present : ∀ q c, r.get? q = some c → q ∈ newcomers ds
  /-- Nobody comes in twice under one number. -/
  once : (newcomers ds).Nodup
  /-- Whoever has left had come in, and is not there. -/
  gone : ∀ q ∈ departures ds, q ∈ newcomers ds ∧ r.get? q = none

namespace Registry.Numbers

variable {r : Registry} {places : Nat} {ds : List Deed}

-- Every number that was given is at least one and below the next.
theorem mem_handedOut (h : r.Numbers places ds) {q : PeerId} (hq : q ∈ handedOut ds) :
    1 ≤ q.number ∧ q.number < r.nextNumber := by
  have hmem : q.number ∈ (handedOut ds).map (·.number) := List.mem_map.mpr ⟨q, hq, rfl⟩
  rw [h.counted, List.mem_range'_1] at hmem
  rw [h.next]
  omega

theorem number_of_newcomer (h : r.Numbers places ds) {q : PeerId} (hq : q ∈ newcomers ds) :
    1 ≤ q.number ∧ q.number < r.nextNumber :=
  h.mem_handedOut ((newcomers_sublist_handedOut ds).subset hq)

-- The next number is nobody's.
theorem get?_next (h : r.Numbers places ds) : r.get? r.allocate.1 = none := by
  cases hget : r.get? r.allocate.1 with
  | none => rfl
  | some c =>
      have hlt := (h.number_of_newcomer (h.present _ c hget)).2
      exact absurd hlt (Nat.lt_irrefl _)

end Registry.Numbers

theorem roomy_of_course {limit maxPeers : Nat} {s : Stage} {ds : List Deed}
    (h : Course limit ⟨Registry.empty maxPeers, []⟩ ds s) : s.registry.Roomy maxPeers := by
  induction h with
  | rest => exact ⟨rfl, Nat.zero_le _⟩
  | step before last ih => exact roomy_of_step last ih

theorem counted_of_course {limit maxPeers : Nat} {s : Stage} {ds : List Deed}
    (h : Course limit ⟨Registry.empty maxPeers, []⟩ ds s) :
    (handedOut ds).map (·.number) = List.range' 1 (handedOut ds).length ∧
      s.registry.nextNumber = (handedOut ds).length + 1 := by
  induction h with
  | rest => exact ⟨rfl, rfl⟩
  | step before last ih =>
      rcases ih with ⟨hcounted, hnext⟩
      rcases handedOut_of_step last (numbered_of_course before).orderly with
        ⟨hnone, hsame⟩ | ⟨hone, hmore⟩
      · rw [handedOut_append, hnone, List.append_nil, hsame]
        exact ⟨hcounted, hnext⟩
      · rw [handedOut_append, hone, List.map_append, hcounted, List.length_append, hmore, hnext,
          List.range'_append_1.symm]
        exact ⟨congrArg _ (by rw [List.length_singleton, Nat.add_comm 1]; rfl), rfl⟩

/-- The record of every course says what a registry has to say about numbers. -/
theorem numbers_of_course {limit maxPeers : Nat} {s : Stage} {ds : List Deed}
    (h : Course limit ⟨Registry.empty maxPeers, []⟩ ds s) : s.registry.Numbers maxPeers ds := by
  have hn := numbered_of_course h
  rcases counted_of_course h with ⟨hcounted, hnext⟩
  refine ⟨(roomy_of_course h).2, hcounted, hnext, hn.present, hn.rising.imp ?_, fun q hq => ?_⟩
  · rintro a b hlt rfl
    exact Nat.lt_irrefl _ hlt
  · have hleft : (departures ds).count q ≠ 0 := Nat.ne_of_gt (List.count_pos_iff.mpr hq)
    rw [(released_of_course h q).once.2] at hleft
    rcases (ite_ne_right_iff.mp hleft).1 with ⟨hgone, hcame⟩
    exact ⟨hcame, Option.isNone_iff_eq_none.mp hgone⟩

/-- At every moment of every run, between two operations and behind each event of
    a batch, there are no more peers than places. The numbers that were handed
    out are one, two, three and so on up to the next one, so the next number
    fits into a word as long as the run hands out fewer. Whoever is there has one
    of them, which is not the listener's, and had it alone. Nobody is there under
    the next number, and whoever is there stays as it is when others come in. An
    event of a peer that has left is nothing. -/
theorem numbers_are_given_once (config : ServerConfig) (port : UInt16) (address : SocketAddress)
    (arrivals : List AcceptAnswer) (requests : List ServerRequest) :
    let h := ServerHistory.serveAll requests
      (ServerHistory.opened config port address arrivals)
    ∃ l, h.server.listening = some l ∧ l.registry.Numbers config.maxPeers h.deeds ∧
      ∀ arrivals' sockets events,
        let b := l.during config.maxBuffer arrivals' sockets events
        b.registry.Numbers config.maxPeers (h.deeds ++ b.deeds) ∧
        b.registry.get? b.registry.allocate.1 = none ∧
        (∀ q c, b.registry.get? q = some c →
          q.token ≠ listenerToken ∧ q.number < b.registry.nextNumber ∧
          ∀ others, (acceptAll config.maxBuffer others b.registry).registry.get? q = some c) ∧
        ∀ e : Event, PeerId.ofToken e.token ∈ departures (h.deeds ++ b.deeds) →
          b.step config.maxBuffer e = b := by
  intro h
  rcases ServerHistory.course_of_opened config port address arrivals requests with
    ⟨l, hl, hcourse⟩
  refine ⟨l, hl, numbers_of_course hcourse, fun arrivals' sockets events => ?_⟩
  intro b
  have hb : b.registry.Numbers config.maxPeers (h.deeds ++ b.deeds) :=
    numbers_of_course (l.course_during hcourse arrivals' sockets events)
  refine ⟨hb, hb.get?_next, fun q c hc => ?_, fun e he => ?_⟩
  · rcases hb.number_of_newcomer (hb.present q c hc) with ⟨hpos, hlt⟩
    exact ⟨Nat.ne_of_gt hpos, hlt, fun others => get?_acceptAll _ others _ hc⟩
  · rcases hb.gone _ he with ⟨hcame, hgone⟩
    exact step_of_absent _ b (Nat.ne_of_gt (hb.number_of_newcomer hcame).1) hgone

/-- There is place for one peer. The first has left when three connections are
    accepted: one that cannot be registered and has used up a number, one that
    comes in, and one for which there is no place. An event that still tells of
    the first peer does not reach the third number. -/
theorem numbers_are_given_once_four_connections :
    let address : UInt16 → SocketAddress := .v4 ⟨127, 0, 0, 1⟩
    let accepting : Event := ⟨0, true, false, false, false⟩
    let stale : Event := ⟨1, true, true, true, true⟩
    let refusing : Socket := ⟨[], [], [.error (.plain .outOfMemory)], none⟩
    let requests : List ServerRequest := [
      .update [.ok (Socket.idle, address 1)] (fun _ => none) (.ok [accepting]),
      .update [] (fun _ => none) (.ok [⟨1, false, false, true, false⟩])]
    let later : List AcceptAnswer := [.ok (refusing, address 2), .ok (Socket.idle, address 3),
      .ok (Socket.idle, address 4)]
    let h := ServerHistory.serveAll requests (ServerHistory.opened ⟨1, 4, 4⟩ 1 (address 0) [])
    ∃ l, h.server.listening = some l ∧
      let b := l.during 4 later (fun _ => none) [accepting]
      handedOut (h.deeds ++ b.deeds) = [⟨1⟩, ⟨2⟩, ⟨3⟩] ∧
      newcomers (h.deeds ++ b.deeds) = [⟨1⟩, ⟨3⟩] ∧
      b.registry.ids = [⟨3⟩] ∧ b.registry.size ≤ 1 ∧ b.step 4 stale = b := by
  intro address accepting stale refusing requests later h
  rcases numbers_are_given_once ⟨1, 4, 4⟩ 1 (address 0) [] requests with ⟨l, hl, _, hbatch⟩
  rcases hbatch later (fun _ => none) [accepting] with ⟨hnumbers, _, _, hstale⟩
  have hlook : h.server.listening.map (fun l =>
      let b := l.during 4 later (fun _ => none) [accepting]
      let ds := h.deeds ++ b.deeds
      (handedOut ds, newcomers ds, departures ds, b.registry.ids))
      = some ([⟨1⟩, ⟨2⟩, ⟨3⟩], [⟨1⟩, ⟨3⟩], [⟨1⟩], [⟨3⟩]) := by decide +kernel
  simp only [show h.server.listening = some l from hl, Option.map_some, Option.some.injEq,
    Prod.mk.injEq] at hlook
  rcases hlook with ⟨hgiven, hcame, hleft, hthere⟩
  have hold : PeerId.ofToken stale.token ∈ departures
      (h.deeds ++ (l.during 4 later (fun _ => none) [accepting]).deeds) := by
    rw [hleft]
    exact List.mem_singleton.mpr rfl
  exact ⟨l, hl, hgiven, hcame, hthere, hnumbers.places, hstale stale hold⟩

end LineChat
