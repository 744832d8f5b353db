import LineChat.Proofs.Session.Deeds
import LineChat.Proofs.Session.Traffic
import Mathlib.Data.List.Nodup

/-!
# One Peer Among Many

What the operations of a server do to a single peer.

The server works on the whole registry, and what becomes of one peer is asked
for by its number. So each operation on a registry gets a lemma that looks one
number up afterwards, and each function of the server one for the peers it
means and one for all others. A relay goes through a list of peers that was
taken beforehand; it reaches every peer once because no two have one number,
which is part of `Registry.Orderly`.

## Main definitions

* `Registry.Orderly`: Numbers rise, and the next one is new.
* `Connection.offer`: A message is offered to a peer.

## Theorems

* `get?_equip`, `get?_set`, `get?_insert`, `get?_erase`: Looking up afterwards.
* `fanOut_peer`: What a relay does to a peer.
* `releaseMarked_other`, `releaseMarked_self`: Who is taken out, and who stays.
-/

namespace LineChat

namespace Registry

/-- The numbers of the peers, in order. -/
def ids (r : Registry) : List PeerId := r.peers.map (·.id)

/-- The numbers of the peers rise, and the next one is above them. -/
structure Orderly (r : Registry) : Prop where
  rising : r.ids.Pairwise (·.number < ·.number)
  below : ∀ id ∈ r.ids, id.number < r.nextNumber

theorem get?_equip (r : Registry) (sockets : PeerId → Option Socket) (q : PeerId) :
    (r.equip sockets).get? q = (r.get? q).map (·.equip (sockets q)) := by
  unfold get? equip
  rw [List.find?_map]
  cases hfound : r.peers.find? ((fun p : Peer => decide (p.id = q)) ∘
      fun p => ⟨p.id, p.connection.equip (sockets p.id)⟩) with
  | none =>
      rw [show r.peers.find? (fun p => decide (p.id = q)) = none from hfound]
      rfl
  | some p =>
      have hq : p.id = q := by simpa using List.find?_some hfound
      rw [show r.peers.find? (fun p => decide (p.id = q)) = some p from hfound, ← hq]
      rfl

theorem get?_set (r : Registry) (id q : PeerId) (c : Connection) :
    (r.set id c).get? q = if q = id then (r.get? q).map (fun _ => c) else r.get? q := by
  unfold get? set
  have hsame : ((fun p : Peer => decide (p.id = q)) ∘ fun p => if p.id = id then ⟨id, c⟩ else p)
      = fun p => decide (p.id = q) := by
    funext p
    by_cases hp : p.id = id
    · simp [hp]
    · simp [hp]
  rw [List.find?_map, hsame]
  cases hfound : r.peers.find? (fun p => decide (p.id = q)) with
  | none => simp
  | some p =>
      have hq : p.id = q := by simpa using List.find?_some hfound
      by_cases hid : q = id
      · simp [hq, hid]
      · simp [hq, hid]

theorem get?_insert (r : Registry) (id q : PeerId) (c : Connection) :
    (r.insert id c).get? q = (r.get? q).or (if id = q then some c else none) := by
  unfold get? insert
  rw [List.find?_append]
  cases r.peers.find? (fun p => decide (p.id = q)) with
  | none =>
      by_cases hid : id = q
      · simp [hid]
      · simp [hid]
  | some p => rfl

theorem get?_erase (r : Registry) (id q : PeerId) :
    (r.erase id).get? q = if q = id then none else r.get? q := by
  unfold get? erase
  rw [List.find?_filter]
  by_cases hid : q = id
  · rw [if_pos hid, Option.map_eq_none_iff, List.find?_eq_none]
    intro p _
    simp [hid]
  · rw [if_neg hid]
    congr 2
    funext p
    by_cases hp : p.id = q
    · simp [hp, hid]
    · simp [hp]

theorem get?_mark (r : Registry) (id q : PeerId) : (r.mark id).get? q = r.get? q := by
  unfold mark
  split <;> rfl

theorem get?_markEnded (r : Registry) (id q : PeerId) (c : Connection) :
    (r.markEnded id c).get? q = r.get? q := by
  unfold markEnded
  split
  · rfl
  · exact get?_mark r id q

-- Whoever is found has the number that was looked for.
theorem mem_of_get? {r : Registry} {q : PeerId} {c : Connection} (h : r.get? q = some c) :
    ⟨q, c⟩ ∈ r.peers := by
  unfold get? at h
  rcases Option.map_eq_some_iff.mp h with ⟨p, hfound, hc⟩
  have hq : p.id = q := by simpa using List.find?_some hfound
  rw [← hq, ← hc]
  exact List.mem_of_find?_eq_some hfound

theorem Orderly.nodup {r : Registry} (h : r.Orderly) : r.ids.Nodup := by
  refine h.rising.imp ?_
  intro a b hlt hab
  rw [hab] at hlt
  exact absurd hlt (Nat.lt_irrefl _)

theorem get?_of_mem {r : Registry} (h : r.Orderly) {p : Peer} (hp : p ∈ r.peers) :
    r.get? p.id = some p.connection := by
  unfold get?
  cases hfound : r.peers.find? (fun p' => decide (p'.id = p.id)) with
  | none =>
      have hnot := List.find?_eq_none.mp hfound p hp
      simp at hnot
  | some p' =>
      have hid : p'.id = p.id := by simpa using List.find?_some hfound
      have hsame := List.inj_on_of_nodup_map h.nodup (List.mem_of_find?_eq_some hfound) hp hid
      rw [hsame]
      rfl

theorem get?_eq_none_of_le {r : Registry} (h : r.Orderly) {q : PeerId}
    (hq : r.nextNumber ≤ q.number) : r.get? q = none := by
  cases hget : r.get? q with
  | none => rfl
  | some c =>
      have hlt := h.below q (List.mem_map.mpr ⟨_, mem_of_get? hget, rfl⟩)
      exact absurd hlt (by omega)

/-! ## Numbers -/

theorem Orderly.of_ids {r r' : Registry} (h : r.Orderly) (hids : r'.ids = r.ids)
    (hnext : r'.nextNumber = r.nextNumber) : r'.Orderly := by
  refine ⟨?_, ?_⟩
  · rw [hids]
    exact h.rising
  · rw [hids, hnext]
    exact h.below

theorem ids_equip (r : Registry) (sockets : PeerId → Option Socket) :
    (r.equip sockets).ids = r.ids := by
  unfold ids equip
  rw [List.map_map]
  rfl

theorem ids_set (r : Registry) (id : PeerId) (c : Connection) : (r.set id c).ids = r.ids := by
  unfold ids set
  rw [List.map_map]
  apply List.map_congr_left
  intro p _
  by_cases hp : p.id = id
  · simp [hp]
  · simp [hp]

theorem ids_markEnded (r : Registry) (id : PeerId) (c : Connection) :
    (r.markEnded id c).ids = r.ids := by
  unfold markEnded mark
  split
  · rfl
  · split <;> rfl

theorem nextNumber_markEnded (r : Registry) (id : PeerId) (c : Connection) :
    (r.markEnded id c).nextNumber = r.nextNumber := by
  unfold markEnded mark
  split
  · rfl
  · split <;> rfl

-- The number of a peer that comes in is above the others, and below the next.
theorem orderly_insert {r : Registry} (h : r.Orderly) (c : Connection) :
    (r.allocate.2.insert r.allocate.1 c).Orderly := by
  have hids : (r.allocate.2.insert r.allocate.1 c).ids = r.ids ++ [⟨r.nextNumber⟩] := by
    simp [ids, insert, allocate]
  refine ⟨?_, ?_⟩
  · rw [hids, List.pairwise_append]
    refine ⟨h.rising, List.pairwise_singleton _ _, ?_⟩
    intro a ha b hb
    rw [List.mem_singleton.mp hb]
    exact h.below a ha
  · rw [hids]
    intro id hid
    change id.number < r.nextNumber + 1
    rcases List.mem_append.mp hid with hold | hnew
    · have hlt := h.below id hold
      omega
    · rw [List.mem_singleton.mp hnew]
      exact Nat.lt_succ_self _

theorem orderly_allocate {r : Registry} (h : r.Orderly) : r.allocate.2.Orderly := by
  refine ⟨h.rising, ?_⟩
  intro id hid
  have hlt := h.below id hid
  change id.number < r.nextNumber + 1
  omega

theorem orderly_erase {r : Registry} (h : r.Orderly) (id : PeerId) : (r.erase id).Orderly := by
  have hsub : (r.erase id).ids.Sublist r.ids := List.Sublist.map _ List.filter_sublist
  refine ⟨h.rising.sublist hsub, ?_⟩
  intro id' hid
  exact h.below id' (hsub.subset hid)

end Registry

/-! ## Events -/

-- An event is nothing unless it tells of a peer that is active.
theorem dispatch_cases (e : Event) (r : Registry) :
    (dispatch e r = ([], ⟨r, []⟩) ∧
        ∀ c, r.get? (PeerId.ofToken e.token) = some c → c.isActive = false) ∨
      ∃ c, r.get? (PeerId.ofToken e.token) = some c ∧ c.isActive = true ∧
        dispatch e r = ((c.handle e).messages,
          ⟨(r.set (PeerId.ofToken e.token) (c.handle e).connection).markEnded
              (PeerId.ofToken e.token) (c.handle e).connection,
            (c.handle e).calls.map (.called (PeerId.ofToken e.token)) ++
              (c.handle e).messages.map (.framed (some (PeerId.ofToken e.token)))⟩) := by
  unfold dispatch
  cases hget : r.get? (PeerId.ofToken e.token) with
  | none =>
      left
      refine ⟨?_, fun c hc => (by cases hc)⟩
      simp only [hget]
  | some c =>
      by_cases hactive : c.isActive = true
      · right
        refine ⟨c, rfl, hactive, ?_⟩
        simp only [hget, if_pos hactive]
      · left
        refine ⟨?_, fun c' hc => ?_⟩
        · simp only [hget, if_neg hactive]
        · cases hc
          exact Bool.eq_false_iff.mpr hactive

-- What a dispatch leaves in the record is what it framed and called, and the
-- peers keep their numbers.
theorem record_dispatch (e : Event) (r : Registry) :
    framings (dispatch e r).2.deeds
        = (dispatch e r).1.map (Prod.mk (some (PeerId.ofToken e.token))) ∧
      newcomers (dispatch e r).2.deeds = [] ∧
      (dispatch e r).2.registry.ids = r.ids ∧
      (dispatch e r).2.registry.nextNumber = r.nextNumber := by
  rcases dispatch_cases e r with ⟨hnothing, _⟩ | ⟨c, _, _, hhandled⟩
  · rw [hnothing]
    exact ⟨rfl, rfl, rfl, rfl⟩
  · rw [hhandled]
    refine ⟨?_, ?_, ?_, ?_⟩
    · rw [framings_append, framings_map_called, framings_map_framed, List.nil_append]
    · rw [newcomers_append, newcomers_map_called, newcomers_map_framed, List.nil_append]
    · rw [Registry.ids_markEnded, Registry.ids_set]
    · rw [Registry.nextNumber_markEnded]
      rfl

/-! ## Relaying -/

/-- A message is offered to the peer `q`. The sender does not take it, nor does
    a peer that is not active. -/
def Connection.offer (c : Connection) (q : PeerId) (sender : Option PeerId) (m : Message) :
    Connection × List SocketCall :=
  if some q = sender || !c.isActive then (c, [])
  else ((c.queueMessage m).connection, (c.queueMessage m).calls)

-- Only an active peer is not passed over.
theorem Connection.isActive_of_not_passed {c : Connection} {p : Prop} [Decidable p]
    (h : ¬ (decide p || !c.isActive) = true) : c.isActive = true := by
  simp only [Bool.or_eq_true, not_or, Bool.not_eq_true, Bool.not_eq_false'] at h
  exact h.2

-- A peer that is not on the list is not touched.
theorem fanOutTo_other (sender : Option PeerId) (m : Message) (ps : List Peer) (r : Registry)
    {q : PeerId} (hq : q ∉ ps.map (·.id)) :
    (fanOutTo sender m ps r).registry.get? q = r.get? q ∧
      callsOn q (fanOutTo sender m ps r).deeds = [] := by
  induction ps generalizing r with
  | nil => exact ⟨rfl, rfl⟩
  | cons p ps ih =>
      rw [List.map_cons, List.mem_cons, not_or] at hq
      rw [fanOutTo]
      split
      · exact ih r hq.2
      · refine ⟨?_, ?_⟩
        · rw [(ih _ hq.2).1, Registry.get?_markEnded, Registry.get?_set, if_neg hq.1]
        · rw [callsOn_append, callsOn_map_called, if_neg (Ne.symm hq.1), List.nil_append]
          exact (ih _ hq.2).2

-- The peers behind the first do not have its number, so its connection is not
-- touched again.
theorem fanOutTo_self (sender : Option PeerId) (m : Message) (ps : List Peer) (r : Registry)
    (hnodup : (ps.map (·.id)).Nodup) {p : Peer} (hp : p ∈ ps)
    (hget : r.get? p.id = some p.connection) :
    (fanOutTo sender m ps r).registry.get? p.id = some (p.connection.offer p.id sender m).1 ∧
      callsOn p.id (fanOutTo sender m ps r).deeds = (p.connection.offer p.id sender m).2 := by
  induction ps generalizing r with
  | nil => cases hp
  | cons p' ps ih =>
      rw [List.map_cons, List.nodup_cons] at hnodup
      rw [fanOutTo]
      rcases List.mem_cons.mp hp with rfl | hmem
      · -- Its turn is now, and the rest of the list leaves it as it is.
        unfold Connection.offer
        by_cases hskip : (some p.id = sender || !p.connection.isActive) = true
        · rw [if_pos hskip, if_pos hskip]
          have hother := fanOutTo_other sender m ps r hnodup.1
          rw [hother.1, hget]
          exact ⟨rfl, hother.2⟩
        · rw [if_neg hskip, if_neg hskip]
          refine ⟨?_, ?_⟩
          · rw [(fanOutTo_other sender m ps _ hnodup.1).1, Registry.get?_markEnded,
              Registry.get?_set, if_pos rfl, hget]
            rfl
          · rw [callsOn_append, callsOn_map_called, if_pos rfl,
              (fanOutTo_other sender m ps _ hnodup.1).2, List.append_nil]
      · -- Its turn comes later, and the one before it has another number.
        have hne : p.id ≠ p'.id := by
          intro heq
          exact hnodup.1 (heq ▸ List.mem_map.mpr ⟨p, hmem, rfl⟩)
        split
        · exact ih r hnodup.2 hmem hget
        · have hgo := ih (((r.set p'.id (p'.connection.queueMessage m).connection).markEnded p'.id
            (p'.connection.queueMessage m).connection)) hnodup.2 hmem (by
              rw [Registry.get?_markEnded, Registry.get?_set, if_neg hne, hget])
          refine ⟨hgo.1, ?_⟩
          rw [callsOn_append, callsOn_map_called, if_neg (Ne.symm hne), List.nil_append]
          exact hgo.2

-- A relay offers the message to every peer, once.
theorem fanOut_peer {r : Registry} (h : r.Orderly) (sender : Option PeerId) (m : Message)
    (q : PeerId) :
    (r.get? q = none → (fanOut sender m r).registry.get? q = none ∧
      callsOn q (fanOut sender m r).deeds = []) ∧
    (∀ c, r.get? q = some c →
      (fanOut sender m r).registry.get? q = some (c.offer q sender m).1 ∧
      callsOn q (fanOut sender m r).deeds = (c.offer q sender m).2) := by
  refine ⟨fun hnone => ?_, fun c hc => ?_⟩
  · have hnot : q ∉ r.ids := by
      intro hmem
      rcases List.mem_map.mp hmem with ⟨p, hp, rfl⟩
      rw [Registry.get?_of_mem h hp] at hnone
      cases hnone
    have hother := fanOutTo_other sender m r.peers r hnot
    rw [hnone] at hother
    exact hother
  · exact fanOutTo_self sender m r.peers r h.nodup (Registry.mem_of_get? hc) hc

theorem record_fanOutTo (sender : Option PeerId) (m : Message) (ps : List Peer) (r : Registry) :
    framings (fanOutTo sender m ps r).deeds = [] ∧ newcomers (fanOutTo sender m ps r).deeds = [] ∧
      (fanOutTo sender m ps r).registry.ids = r.ids ∧
      (fanOutTo sender m ps r).registry.nextNumber = r.nextNumber := by
  induction ps generalizing r with
  | nil => exact ⟨rfl, rfl, rfl, rfl⟩
  | cons p ps ih =>
      rw [fanOutTo]
      split
      · exact ih r
      · rcases ih ((r.set p.id (p.connection.queueMessage m).connection).markEnded p.id
          (p.connection.queueMessage m).connection) with ⟨hframed, hjoined, hids, hnext⟩
        refine ⟨?_, ?_, ?_, ?_⟩
        · rw [framings_append, framings_map_called, hframed]
          rfl
        · rw [newcomers_append, newcomers_map_called, hjoined]
          rfl
        · rw [hids, Registry.ids_markEnded, Registry.ids_set]
        · rw [hnext, Registry.nextNumber_markEnded]
          rfl

theorem record_fanOut (sender : Option PeerId) (m : Message) (r : Registry) :
    framings (fanOut sender m r).deeds = [] ∧ newcomers (fanOut sender m r).deeds = [] ∧
      (fanOut sender m r).registry.ids = r.ids ∧
      (fanOut sender m r).registry.nextNumber = r.nextNumber :=
  record_fanOutTo sender m r.peers r

/-! ## Taking peers out -/

-- A peer without a mark stays.
theorem releaseMarked_other (ids : List PeerId) (r : Registry) {q : PeerId} (hq : q ∉ ids) :
    (releaseMarked ids r).registry.get? q = r.get? q ∧
      callsOn q (releaseMarked ids r).deeds = [] := by
  induction ids generalizing r with
  | nil => exact ⟨rfl, rfl⟩
  | cons id ids ih =>
      rw [List.mem_cons, not_or] at hq
      rw [releaseMarked]
      split
      · exact ih r hq.2
      · refine ⟨?_, ?_⟩
        · rw [(ih _ hq.2).1, Registry.get?_erase, if_neg hq.1]
        · rw [callsOn_append, callsOn_map_called, if_neg (Ne.symm hq.1), List.nil_append]
          exact (ih _ hq.2).2

-- A number without a peer gets none, whatever else is released.
theorem releaseMarked_absent (ids : List PeerId) (r : Registry) {q : PeerId}
    (hq : r.get? q = none) :
    (releaseMarked ids r).registry.get? q = none ∧
      callsOn q (releaseMarked ids r).deeds = [] := by
  induction ids generalizing r with
  | nil => exact ⟨hq, rfl⟩
  | cons id ids ih =>
      rw [releaseMarked]
      cases hget : r.get? id with
      | none => exact ih r hq
      | some c =>
          have hne : id ≠ q := by
            rintro rfl
            rw [hget] at hq
            cases hq
          have hgo := ih (r.erase id) (by
            rw [Registry.get?_erase]
            split
            · rfl
            · exact hq)
          refine ⟨hgo.1, ?_⟩
          rw [callsOn_append, callsOn_map_called, if_neg hne, List.nil_append]
          exact hgo.2

-- A peer is released the first time its number comes up, and then it is gone.
theorem releaseMarked_self (ids : List PeerId) (r : Registry) {q : PeerId} (hq : q ∈ ids)
    {c : Connection} (hc : r.get? q = some c) :
    (releaseMarked ids r).registry.get? q = none ∧
      callsOn q (releaseMarked ids r).deeds = c.release.2 := by
  induction ids generalizing r with
  | nil => cases hq
  | cons id ids ih =>
      rw [releaseMarked]
      by_cases hid : id = q
      · rw [hid, hc]
        have hgone := releaseMarked_absent ids (r.erase q) (q := q) (by
          rw [Registry.get?_erase, if_pos rfl])
        refine ⟨hgone.1, ?_⟩
        rw [callsOn_append, callsOn_map_called, if_pos rfl]
        have hleft : callsOn q (.left q :: (releaseMarked ids (r.erase q)).deeds)
            = callsOn q (releaseMarked ids (r.erase q)).deeds := rfl
        rw [hleft, hgone.2, List.append_nil]
      · have hmem : q ∈ ids := by
          rcases List.mem_cons.mp hq with heq | hmem
          · exact absurd heq.symm hid
          · exact hmem
        cases hget : r.get? id with
        | none => exact ih r hmem hc
        | some c' =>
            have hgo := ih (r.erase id) hmem (by
              rw [Registry.get?_erase, if_neg (Ne.symm hid), hc])
            refine ⟨hgo.1, ?_⟩
            rw [callsOn_append, callsOn_map_called, if_neg hid, List.nil_append]
            exact hgo.2

theorem framings_releaseMarked (ids : List PeerId) (r : Registry) :
    framings (releaseMarked ids r).deeds = [] := by
  induction ids generalizing r with
  | nil => rfl
  | cons id ids ih =>
      rw [releaseMarked]
      cases hget : r.get? id with
      | none => exact ih r
      | some c =>
          dsimp only
          rw [framings_append, framings_map_called, List.nil_append]
          exact ih (r.erase id)

theorem record_releaseMarked (ids : List PeerId) (r : Registry) (h : r.Orderly) :
    framings (releaseMarked ids r).deeds = [] ∧ newcomers (releaseMarked ids r).deeds = [] ∧
      (releaseMarked ids r).registry.Orderly ∧
      (releaseMarked ids r).registry.nextNumber = r.nextNumber := by
  refine ⟨framings_releaseMarked ids r, ?_⟩
  induction ids generalizing r with
  | nil => exact ⟨rfl, h, rfl⟩
  | cons id ids ih =>
      rw [releaseMarked]
      cases hget : r.get? id with
      | none => exact ih r h
      | some c =>
          rcases ih (r.erase id) (Registry.orderly_erase h id) with ⟨hjoined, horderly, hnext⟩
          refine ⟨?_, horderly, hnext⟩
          rw [newcomers_append, newcomers_map_called, List.nil_append]
          exact hjoined

theorem record_removeMarked {r : Registry} (h : r.Orderly) :
    framings (removeMarked r).deeds = [] ∧ newcomers (removeMarked r).deeds = [] ∧
      (removeMarked r).registry.Orderly ∧
      (removeMarked r).registry.nextNumber = r.nextNumber :=
  record_releaseMarked r.marked { r with marked := [] } ⟨h.rising, h.below⟩

theorem release_calls (c : Connection) :
    receivedBytes c.release.2 = ByteArray.empty ∧ sentBytes c.release.2 = ByteArray.empty := by
  unfold Connection.release
  cases c.registration with
  | none => exact ⟨rfl, rfl⟩
  | some r => exact ⟨rfl, rfl⟩

end LineChat
