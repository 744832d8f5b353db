import LineChat.Proofs.Session.Course

/-!
# What Is Framed From a Peer

The messages of a peer are the records of the bytes it was read.

A peer is read in chunks of any size, over any number of events, and the reading
may end in the middle with the end of the stream, a fault, a hangup, or a line
that is too long. The record of calls has all the bytes, and the record of
framings all the messages with their senders. `Understood` says that the one
determines the other, also for a peer that is gone.

## Main definitions

* `Understood`: The account of what was framed from one peer.

## Theorems

* `understood_step`: Every step keeps the account.
* `understood_of_course`: The account of every course.
* `Understood.messages`: What it says of the messages.
-/

namespace LineChat

/-- What was framed from the peer `q` are the messages of the bytes that were
    read from it, up to the first line that was too long. While the peer is
    there its connection goes on from them. -/
structure Understood (limit : Nat) (q : PeerId) (s : Stage) (ds : List Deed) : Prop where
  here : ∀ c, s.registry.get? q = some c →
    c.inbound.limit = limit ∧ c.Heard (receivedBytes (callsOn q ds)) (fromPeer q (framings ds))
  gone : s.registry.get? q = none → fromPeer q (framings ds)
    = messagesOf ((split (receivedBytes (callsOn q ds))).within limit)

theorem understood_step {limit : Nat} (hlimit : limit < wordBound) {s s' : Stage}
    {ds es : List Deed} (h : Step limit s es s') (hn : Numbered s ds) {q : PeerId}
    (hu : Understood limit q s ds) : Understood limit q s' (ds ++ es) := by
  have hturn := turn_of_step h hn.orderly q
  rcases hu with ⟨hhere, hgone⟩
  generalize s.registry.get? q = before at hturn hhere hgone
  generalize hafter : s'.registry.get? q = after at hturn
  have hframings : fromPeer q (framings (ds ++ es))
      = fromPeer q (framings ds) ++ fromPeer q (framings es) := by
    rw [framings_append, fromPeer_append]
  have hbytes : receivedBytes (callsOn q (ds ++ es))
      = receivedBytes (callsOn q ds) ++ receivedBytes (callsOn q es) := by
    rw [callsOn_append, receivedBytes_append]
  refine ⟨fun c hc => ?_, fun hnone => ?_⟩
  · rw [hafter] at hc
    subst hc
    rw [hframings, hbytes]
    cases hturn with
    | comes socket address c hjoined hes hwaiting =>
        have hnot : q ∉ newcomers ds := by
          refine (numbered_step h hn).not_mem_of_newcomer ?_
          rw [hes]
          exact List.mem_cons_self
        rcases hn.silent q hnot with ⟨hcalls, hframed⟩
        rcases Connection.heard_of_register hjoined with ⟨hheard, _, hin, _, _⟩
        have hcalls' : receivedBytes (callsOn q es) = ByteArray.empty := by
          rw [hes]
          simp [callsOn, Deed.call?, receivedBytes, SocketCall.received]
        have hframed' : fromPeer q (framings es) = [] := by
          rw [hes]
          rfl
        rw [hcalls, hcalls', hframed, hframed']
        exact ⟨hin, hheard⟩
    | works c₀ c given hcarries hstays hgiven hall hidle =>
        rcases hhere c₀ rfl with ⟨hin, hheard⟩
        exact ⟨hcarries.inLimit.trans hin, hcarries.heard (by rw [hin]; exact hlimit) _ _ hheard⟩
  · rw [hafter] at hnone
    subst hnone
    rw [hframings, hbytes]
    cases hturn with
    | away hcalls hframed hstays =>
        rw [hcalls, hframed, List.append_nil, receivedBytes, ByteArray.append_empty]
        exact hgone rfl
    | leaves c hcalls hframed hstays =>
        rcases hhere c rfl with ⟨hin, hheard⟩
        rw [hcalls, hframed, (release_calls c).1, ByteArray.append_empty]
        rw [← hin, ← hheard.messages]
        exact List.append_nil _

theorem understood_of_course {limit maxPeers : Nat} (hlimit : limit < wordBound) {s : Stage}
    {ds : List Deed} (h : Course limit ⟨Registry.empty maxPeers, []⟩ ds s) (q : PeerId) :
    Understood limit q s ds := by
  induction h with
  | rest =>
      refine ⟨fun c hc => (by cases hc), fun _ => ?_⟩
      exact (messagesOf_split_empty limit).symm
  | step before last ih => exact understood_step hlimit last (numbered_of_course before) ih

/-- The messages of a peer, whether it is there or gone. -/
theorem Understood.messages {limit : Nat} {q : PeerId} {s : Stage} {ds : List Deed}
    (h : Understood limit q s ds) : fromPeer q (framings ds)
      = messagesOf ((split (receivedBytes (callsOn q ds))).within limit) := by
  cases hget : s.registry.get? q with
  | none => exact h.gone hget
  | some c =>
      rcases h.here c hget with ⟨hin, hheard⟩
      rw [← hin]
      exact hheard.messages

end LineChat
