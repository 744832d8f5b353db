import LineChat.Proofs.Session.Peers
import LineChat.Session.History

/-!
# The Course of a Server

A run of a server, taken apart into steps.

The functions of the server are loops inside loops: a batch goes through its
events, an event through its messages, a message through the peers. A law about
every run would have to be carried through each of those loops. Here that is
done once. A `Stage` is what a server holds between two steps: the peers, and
the messages that were framed and have not been relayed yet. A `Step` is one
thing that the server does to all of it, with the deeds that it leaves in the
record, and a `Course` is steps one after the other. `course_serveAll` says that
every history of a listening server is a course with the same record, and from
there on a law about every run is an induction on the steps.

Most laws speak of one peer, and for one peer a step is one of four things: it
stays away, comes in, works, or leaves. `turn_of_step` says so, and the laws
about peers are proved for a `Turn`.

## Main definitions

* `Stage`: What a server holds between two steps.
* `Step`: One step and its deeds.
* `Course`: Steps one after the other.
* `Arrival`: An answer after which accepting goes on.
* `Turn`: What a step is for one peer.
* `Numbered`: The record and the peers agree on who has come in.
* `ServerHistory.opened`: A server that listens and has done nothing yet.

## Theorems

* `acceptAll_law`: A law of every arrival is one of accepting.
* `course_serveAll`: Every history is a course.
* `turn_of_step`: Every step is a turn for every peer.
* `numbered_of_course`: Numbers are given once.
-/

namespace LineChat

/-- The peers, and the messages that were framed and not relayed yet. -/
structure Stage where
  registry : Registry
  waiting : List Framing

/-- One step of a server whose buffers have a limit, and the deeds of it. Only
    a relay may be done while messages are waiting. -/
inductive Step (limit : Nat) : Stage → List Deed → Stage → Prop
  | equip (r : Registry) (sockets : PeerId → Option Socket) :
      Step limit ⟨r, []⟩ [] ⟨r.equip sockets, []⟩
  | turnAway (r : Registry) (address : SocketAddress) (hfull : r.isFull = true) :
      Step limit ⟨r, []⟩ [.turnedAway address] ⟨r, []⟩
  | acceptFault (r : Registry) (fault : Fault) :
      Step limit ⟨r, []⟩ [.acceptFault fault] ⟨r, []⟩
  | lose (r : Registry) (socket : Socket) (address : SocketAddress) (fault : Fault)
      (hroom : r.isFull = false)
      (hlost : Connection.accepted socket address r.allocate.1.token limit = .error fault) :
      Step limit ⟨r, []⟩ [.notRegistered r.allocate.1 address fault] ⟨r.allocate.2, []⟩
  | join (r : Registry) (socket : Socket) (address : SocketAddress) (c : Connection)
      (hroom : r.isFull = false)
      (hjoined : Connection.accepted socket address r.allocate.1.token limit = .ok c) :
      Step limit ⟨r, []⟩
        [.joined r.allocate.1 address, .called r.allocate.1 (.watch .readable (.ok ()))]
        ⟨r.allocate.2.insert r.allocate.1 c, []⟩
  | dispatch (r : Registry) (e : Event) :
      Step limit ⟨r, []⟩ (dispatch e r).2.deeds
        ⟨(dispatch e r).2.registry,
          (dispatch e r).1.map (Prod.mk (some (PeerId.ofToken e.token)))⟩
  | broadcast (r : Registry) (ms : List Message) :
      Step limit ⟨r, []⟩ (ms.map (.framed none)) ⟨r, ms.map (Prod.mk none)⟩
  | relay (r : Registry) (sender : Option PeerId) (m : Message) (waiting : List Framing) :
      Step limit ⟨r, (sender, m) :: waiting⟩ (fanOut sender m r).deeds
        ⟨(fanOut sender m r).registry, waiting⟩
  | remove (r : Registry) :
      Step limit ⟨r, []⟩ (removeMarked r).deeds ⟨(removeMarked r).registry, []⟩

/-- Steps one after the other, with all their deeds. -/
inductive Course (limit : Nat) (s : Stage) : List Deed → Stage → Prop
  | rest : Course limit s [] s
  | step {ds es : List Deed} {s' s'' : Stage} (before : Course limit s ds s')
      (last : Step limit s' es s'') : Course limit s (ds ++ es) s''

namespace Course

variable {limit : Nat} {s s' s'' : Stage} {ds es : List Deed}

theorem of_step (h : Step limit s es s') : Course limit s es s' := Course.step .rest h

theorem trans (h : Course limit s ds s') (h' : Course limit s' es s'') :
    Course limit s (ds ++ es) s'' := by
  induction h' with
  | rest =>
      rw [List.append_nil]
      exact h
  | step _ last ih =>
      rw [← List.append_assoc]
      exact ih.step last

end Course

/-! ## Every history is a course -/

/-- One answer to accepting after which accepting goes on, with its deeds. -/
inductive Arrival (limit : Nat) (r : Registry) : List Deed → Registry → Prop
  | turnAway (address : SocketAddress) (hfull : r.isFull = true) :
      Arrival limit r [.turnedAway address] r
  | acceptFault (fault : Fault) : Arrival limit r [.acceptFault fault] r
  | lose (socket : Socket) (address : SocketAddress) (fault : Fault) (hroom : r.isFull = false)
      (hlost : Connection.accepted socket address r.allocate.1.token limit = .error fault) :
      Arrival limit r [.notRegistered r.allocate.1 address fault] r.allocate.2
  | join (socket : Socket) (address : SocketAddress) (c : Connection) (hroom : r.isFull = false)
      (hjoined : Connection.accepted socket address r.allocate.1.token limit = .ok c) :
      Arrival limit r
        [.joined r.allocate.1 address, .called r.allocate.1 (.watch .readable (.ok ()))]
        (r.allocate.2.insert r.allocate.1 c)

/-- A law that goes on from one answer to the next holds of accepting, if it holds
    of nothing and of one answer. -/
theorem acceptAll_law {limit : Nat} {R : Registry → List Deed → Registry → Prop}
    (hrefl : ∀ r, R r [] r)
    (htrans : ∀ {r r' r'' es es'}, R r es r' → R r' es' r'' → R r (es ++ es') r'')
    (harrival : ∀ {r es r'}, Arrival limit r es r' → R r es r')
    (arrivals : List AcceptAnswer) (r : Registry) :
    R r (acceptAll limit arrivals r).deeds (acceptAll limit arrivals r).registry := by
  induction arrivals generalizing r with
  | nil => exact hrefl r
  | cons arrival later ih =>
      cases arrival with
      | error fault =>
          have hfault := harrival (r := r) (.acceptFault fault)
          rw [acceptAll]
          split
          · exact hrefl r
          · exact htrans hfault (ih r)
          · exact htrans hfault (ih r)
          · exact htrans hfault (ih r)
          · exact hfault
      | ok arrival =>
          rcases arrival with ⟨socket, address⟩
          rw [acceptAll]
          cases hfull : r.isFull with
          | true => exact htrans (harrival (.turnAway address hfull)) (ih r)
          | false =>
              cases hjoined : Connection.accepted socket address r.allocate.1.token limit with
              | error fault =>
                  simp only [Bool.false_eq_true, if_false, hjoined]
                  exact htrans (harrival (.lose socket address fault hfull hjoined)) (ih _)
              | ok c =>
                  simp only [Bool.false_eq_true, if_false, hjoined]
                  exact htrans (harrival (.join socket address c hfull hjoined)) (ih _)

theorem course_acceptAll (limit : Nat) (arrivals : List AcceptAnswer) (r : Registry) :
    Course limit ⟨r, []⟩ (acceptAll limit arrivals r).deeds
      ⟨(acceptAll limit arrivals r).registry, []⟩ := by
  refine acceptAll_law (R := fun r es r' => Course limit ⟨r, []⟩ es ⟨r', []⟩) (fun _ => .rest)
    Course.trans (fun {r _ _} harrival => .of_step ?_) arrivals r
  cases harrival with
  | turnAway address hfull => exact .turnAway r address hfull
  | acceptFault fault => exact .acceptFault r fault
  | lose socket address fault hroom hlost => exact .lose r socket address fault hroom hlost
  | join socket address c hroom hjoined => exact .join r socket address c hroom hjoined

theorem course_fanOutAll (limit : Nat) (sender : Option PeerId) (ms : List Message)
    (r : Registry) :
    Course limit ⟨r, ms.map (Prod.mk sender)⟩ (fanOutAll sender ms r).deeds
      ⟨(fanOutAll sender ms r).registry, []⟩ := by
  induction ms generalizing r with
  | nil => exact .rest
  | cons m ms ih => exact (Course.of_step (.relay r sender m _)).trans (ih _)

-- Nothing is waiting when the next event is looked at: all messages of an event
-- are relayed before.
theorem course_batch_step (limit : Nat) (b : Batch) (e : Event) :
    ∃ es, (b.step limit e).deeds = b.deeds ++ es ∧
      Course limit ⟨b.registry, []⟩ es ⟨(b.step limit e).registry, []⟩ := by
  unfold Batch.step
  by_cases hlistener : e.token = listenerToken
  · rw [if_pos hlistener]
    exact ⟨_, rfl, course_acceptAll limit b.arrivals b.registry⟩
  · rw [if_neg hlistener]
    refine ⟨_, List.append_assoc _ _ _, ?_⟩
    exact (Course.of_step (.dispatch b.registry e)).trans (course_fanOutAll limit _ _ _)

theorem course_batch (limit : Nat) (events : List Event) (b : Batch) :
    ∃ es, (events.foldl (Batch.step limit) b).deeds = b.deeds ++ es ∧
      Course limit ⟨b.registry, []⟩ es ⟨(events.foldl (Batch.step limit) b).registry, []⟩ := by
  induction events generalizing b with
  | nil => exact ⟨[], (List.append_nil _).symm, .rest⟩
  | cons e events ih =>
      rcases course_batch_step limit b e with ⟨es, hes, hstep⟩
      rcases ih (b.step limit e) with ⟨fs, hfs, hrest⟩
      refine ⟨es ++ fs, ?_, hstep.trans hrest⟩
      rw [List.foldl_cons, hfs, hes, List.append_assoc]

theorem course_update (s : Server) {l : Listening} (hl : s.listening = some l)
    (wait : WaitAnswer) :
    ∃ l', (s.update wait).server.listening = some l' ∧
      (s.update wait).server.config = s.config ∧
      Course s.config.maxBuffer ⟨l.registry, []⟩ (s.update wait).deeds ⟨l'.registry, []⟩ := by
  unfold Server.update
  rw [hl]
  cases hwait : waitOutcome wait with
  | error fault => exact ⟨l, hl, rfl, .rest⟩
  | ok outcome =>
      cases outcome with
      | timeout => exact ⟨l, hl, rfl, .rest⟩
      | ready e es =>
          refine ⟨_, rfl, rfl, ?_⟩
          rcases course_batch s.config.maxBuffer (e :: es) ⟨l.registry, l.arrivals, [], [], none⟩
            with ⟨ds, hds, hcourse⟩
          rw [List.nil_append] at hds
          rw [← hds] at hcourse
          exact hcourse.trans (.of_step (.remove _))

theorem course_feed (s : Server) {l : Listening} (hl : s.listening = some l) (data : ByteArray) :
    ∃ l', (s.feed data).server.listening = some l' ∧
      (s.feed data).server.config = s.config ∧
      Course s.config.maxBuffer ⟨l.registry, []⟩ (s.feed data).deeds ⟨l'.registry, []⟩ := by
  unfold Server.feed
  rw [hl]
  refine ⟨_, rfl, rfl, ?_⟩
  exact (Course.of_step (.broadcast l.registry _)).trans (course_fanOutAll _ none _ _)

theorem course_equip (s : Server) {l : Listening} (hl : s.listening = some l)
    (arrivals : List AcceptAnswer) (sockets : PeerId → Option Socket) :
    ∃ l', (s.equip arrivals sockets).listening = some l' ∧
      (s.equip arrivals sockets).config = s.config ∧
      Course s.config.maxBuffer ⟨l.registry, []⟩ [] ⟨l'.registry, []⟩ := by
  unfold Server.equip
  rw [hl]
  exact ⟨_, rfl, rfl, .of_step (.equip l.registry sockets)⟩

namespace ServerHistory

/-- One operation of a server that listens is a course, and the server goes on
    listening. -/
theorem course_serve (h : ServerHistory) {l : Listening} (hl : h.server.listening = some l)
    (request : ServerRequest) :
    ∃ l' es, (h.serve request).server.listening = some l' ∧
      (h.serve request).server.config = h.server.config ∧
      (h.serve request).deeds = h.deeds ++ es ∧
      Course h.server.config.maxBuffer ⟨l.registry, []⟩ es ⟨l'.registry, []⟩ := by
  cases request with
  | update arrivals sockets wait =>
      rcases course_equip h.server hl arrivals sockets with ⟨l₁, hl₁, hconfig₁, hcourse₁⟩
      rcases course_update _ hl₁ wait with ⟨l₂, hl₂, hconfig₂, hcourse₂⟩
      rw [hconfig₁] at hcourse₂
      exact ⟨l₂, _, hl₂, hconfig₂.trans hconfig₁, rfl, hcourse₁.trans hcourse₂⟩
  | feed data sockets =>
      rcases course_equip h.server hl [] sockets with ⟨l₁, hl₁, hconfig₁, hcourse₁⟩
      rcases course_feed _ hl₁ data with ⟨l₂, hl₂, hconfig₂, hcourse₂⟩
      rw [hconfig₁] at hcourse₂
      exact ⟨l₂, _, hl₂, hconfig₂.trans hconfig₁, rfl, hcourse₁.trans hcourse₂⟩
  | pop =>
      unfold serve Server.pop
      cases hmessages : h.server.messages with
      | nil => exact ⟨l, [], hl, rfl, (List.append_nil _).symm, .rest⟩
      | cons m ms => exact ⟨l, [], hl, rfl, (List.append_nil _).symm, .rest⟩

theorem course_serveAll (requests : List ServerRequest) (h : ServerHistory) {l : Listening}
    (hl : h.server.listening = some l) :
    ∃ l' es, (serveAll requests h).server.listening = some l' ∧
      (serveAll requests h).server.config = h.server.config ∧
      (serveAll requests h).deeds = h.deeds ++ es ∧
      Course h.server.config.maxBuffer ⟨l.registry, []⟩ es ⟨l'.registry, []⟩ := by
  induction requests generalizing h l with
  | nil => exact ⟨l, [], hl, rfl, (List.append_nil _).symm, .rest⟩
  | cons request requests ih =>
      rcases course_serve h hl request with ⟨l₁, es, hl₁, hconfig₁, hes, hcourse₁⟩
      rcases ih (h.serve request) hl₁ with ⟨l₂, fs, hl₂, hconfig₂, hfs, hcourse₂⟩
      rw [hconfig₁] at hcourse₂
      refine ⟨l₂, es ++ fs, hl₂, hconfig₂.trans hconfig₁, ?_, hcourse₁.trans hcourse₂⟩
      rw [← List.append_assoc, ← hes]
      exact hfs

/-- A server that listens and has done nothing yet. -/
def opened (config : ServerConfig) (port : UInt16) (address : SocketAddress)
    (arrivals : List AcceptAnswer) : ServerHistory :=
  start ((Server.ofConfig config).listen port (.ok (address, arrivals))).2

end ServerHistory

/-! ## One peer -/

/-- What a step is for the peer `q`, with the messages that were waiting before
    and are waiting afterwards: it stays away, comes in, works, or leaves. A
    peer that works may hand over messages, be given some, and make calls; the
    messages it was given are the first of those that it has to receive, and if
    it is still active they are all but the waiting ones. -/
inductive Turn (limit : Nat) (q : PeerId) (waiting : List Framing) (es : List Deed)
    (waiting' : List Framing) : Option Connection → Option Connection → Prop
  | away (hcalls : callsOn q es = []) (hframed : fromPeer q (framings es) = [])
      (hstays : q ∉ newcomers es) : Turn limit q waiting es waiting' none none
  | comes (socket : Socket) (address : SocketAddress) (c : Connection)
      (hjoined : Connection.accepted socket address q.token limit = .ok c)
      (hes : es = [.joined q address, .called q (.watch .readable (.ok ()))])
      (hwaiting : waiting' = []) : Turn limit q waiting es waiting' none (some c)
  | works (c c' : Connection) (given : List Message)
      (hcarries : c.Carries c' (fromPeer q (framings es)) (callsOn q es) (wires given))
      (hstays : q ∉ newcomers es)
      (hgiven : given <+: fromOthers q waiting ++ fromOthers q (framings es))
      (hall : c'.isActive = true →
        given ++ fromOthers q waiting' = fromOthers q waiting ++ fromOthers q (framings es))
      (hidle : c.isActive = false → given = []) :
      Turn limit q waiting es waiting' (some c) (some c')
  | leaves (c : Connection) (hcalls : callsOn q es = c.release.2) (hframed : framings es = [])
      (hstays : q ∉ newcomers es) : Turn limit q waiting es waiting' (some c) none

-- A peer that the step does not mean works without doing anything.
theorem turn_of_unmoved {limit : Nat} {q : PeerId} {waiting waiting' : List Framing}
    {es : List Deed} (c? : Option Connection) (hcalls : callsOn q es = [])
    (hframed : fromPeer q (framings es) = []) (hstays : q ∉ newcomers es)
    (hall : fromOthers q waiting' = fromOthers q waiting ++ fromOthers q (framings es)) :
    Turn limit q waiting es waiting' c? c? := by
  cases c? with
  | none => exact .away hcalls hframed hstays
  | some c =>
      refine .works c c [] ?_ hstays (List.nil_prefix) (fun _ => hall) (fun _ => rfl)
      rw [hcalls, hframed]
      exact c.carries_refl

theorem turn_of_join {limit : Nat} {r : Registry} (h : r.Orderly) (q : PeerId) (socket : Socket)
    (address : SocketAddress) (c : Connection)
    (hjoined : Connection.accepted socket address r.allocate.1.token limit = .ok c) :
    Turn limit q [] [.joined r.allocate.1 address, .called r.allocate.1 (.watch .readable (.ok ()))]
      [] (r.get? q) ((r.allocate.2.insert r.allocate.1 c).get? q) := by
  have hlook : (r.allocate.2.insert r.allocate.1 c).get? q
      = (r.get? q).or (if r.allocate.1 = q then some c else none) := Registry.get?_insert _ _ _ _
  rw [hlook]
  by_cases hq : r.allocate.1 = q
  · subst hq
    have hnone : r.get? r.allocate.1 = none := Registry.get?_eq_none_of_le h (Nat.le_refl _)
    rw [if_pos rfl, hnone]
    exact .comes socket address c hjoined rfl rfl
  · rw [if_neg hq, Option.or_none]
    refine turn_of_unmoved _ ?_ rfl ?_ rfl
    · simp [callsOn, Deed.call?, hq]
    · simp [newcomers, Deed.newcomer?, Ne.symm hq]

-- The messages that one event brings wait for everybody but their sender.
theorem turn_of_dispatch (limit : Nat) (r : Registry) (e : Event) (q : PeerId) :
    Turn limit q [] (dispatch e r).2.deeds
      ((dispatch e r).1.map (Prod.mk (some (PeerId.ofToken e.token))))
      (r.get? q) ((dispatch e r).2.registry.get? q) := by
  rcases record_dispatch e r with ⟨hframings, hjoined, _, _⟩
  have hstays : q ∉ newcomers (dispatch e r).2.deeds := by
    rw [hjoined]
    exact List.not_mem_nil
  rcases dispatch_cases e r with ⟨hnothing, _⟩ | ⟨c, hsender, _, hhandled⟩
  · rw [hnothing]
    exact turn_of_unmoved _ rfl rfl List.not_mem_nil rfl
  · rw [hhandled] at hframings hstays ⊢
    rw [Registry.get?_markEnded, Registry.get?_set]
    by_cases hq : q = PeerId.ofToken e.token
    · subst hq
      rw [if_pos rfl, hsender]
      refine .works c _ [] ?_ hstays List.nil_prefix (fun _ => ?_) (fun _ => rfl)
      · rw [hframings, fromPeer_map, if_pos rfl, callsOn_append, callsOn_map_called,
          if_pos rfl, callsOn_map_framed, List.append_nil]
        exact c.carries_handle e
      · rw [hframings]
        rfl
    · have hne : some (PeerId.ofToken e.token) ≠ some q := by
        intro heq
        exact hq (Option.some.inj heq).symm
      rw [if_neg hq]
      refine turn_of_unmoved _ ?_ ?_ hstays ?_
      · rw [callsOn_append, callsOn_map_called, if_neg (Ne.symm hq), callsOn_map_framed]
        rfl
      · rw [hframings, fromPeer_map, if_neg hne]
      · rw [hframings]
        rfl

-- A relay gives the message to a peer as a whole, or the peer is not active
-- afterwards, or it was not meant.
theorem turn_of_relay (limit : Nat) {r : Registry} (h : r.Orderly) (sender : Option PeerId)
    (m : Message) (waiting : List Framing) (q : PeerId) :
    Turn limit q ((sender, m) :: waiting) (fanOut sender m r).deeds waiting
      (r.get? q) ((fanOut sender m r).registry.get? q) := by
  rcases record_fanOut sender m r with ⟨hframings, hjoined, _, _⟩
  have hstays : q ∉ newcomers (fanOut sender m r).deeds := by
    rw [hjoined]
    exact List.not_mem_nil
  rcases fanOut_peer h sender m q with ⟨haway, hthere⟩
  cases hget : r.get? q with
  | none =>
      rcases haway hget with ⟨hnone, hcalls⟩
      rw [hnone]
      exact .away hcalls (by rw [hframings]; rfl) hstays
  | some c =>
      rcases hthere c hget with ⟨hsome, hcalls⟩
      rw [hsome]
      unfold Connection.offer at hcalls ⊢
      by_cases hsender : some q = sender
      · have hskip : (decide (some q = sender) || !c.isActive) = true := by simp [hsender]
        rw [if_pos hskip] at hcalls ⊢
        refine turn_of_unmoved _ hcalls (by rw [hframings]; rfl) hstays ?_
        rw [hframings]
        simp [fromOthers, hsender]
      · by_cases hactive : c.isActive = true
        · have hoffer : ¬ (decide (some q = sender) || !c.isActive) = true := by
            simp [hsender, hactive]
          have hmeant : fromOthers q ((sender, m) :: waiting) = m :: fromOthers q waiting := by
            simp [fromOthers, Ne.symm hsender]
          rw [if_neg hoffer] at hcalls ⊢
          dsimp only at hcalls ⊢
          rcases c.carries_queueMessage m with hqueued | ⟨hrefused, hended⟩
          · refine .works c _ [m] ?_ hstays ?_ (fun _ => ?_) (fun hidle => ?_)
            · rw [hframings, hcalls, wires_cons, wires_nil, ByteArray.append_empty]
              exact hqueued
            · rw [hframings, hmeant]
              exact ⟨_, (List.append_nil _).symm⟩
            · rw [hframings, hmeant]
              exact (List.append_nil _).symm
            · rw [hactive] at hidle
              cases hidle
          · refine .works c _ [] ?_ hstays List.nil_prefix (fun hgoes => ?_) (fun _ => rfl)
            · rw [hframings, hcalls]
              exact hrefused
            · rw [hended] at hgoes
              cases hgoes
        · have hskip : (decide (some q = sender) || !c.isActive) = true := by simp [hactive]
          rw [if_pos hskip] at hcalls ⊢
          refine .works c c [] ?_ hstays List.nil_prefix (fun hgoes => ?_) (fun _ => rfl)
          · rw [hframings, hcalls]
            exact c.carries_refl
          · exact absurd hgoes hactive

theorem turn_of_remove (limit : Nat) {r : Registry} (h : r.Orderly) (q : PeerId) :
    Turn limit q [] (removeMarked r).deeds [] (r.get? q) ((removeMarked r).registry.get? q) := by
  rcases record_removeMarked h with ⟨hframings, hjoined, _, _⟩
  have hstays : q ∉ newcomers (removeMarked r).deeds := by
    rw [hjoined]
    exact List.not_mem_nil
  by_cases hmarked : q ∈ r.marked
  · cases hget : r.get? q with
    | none =>
        have habsent := releaseMarked_absent r.marked { r with marked := [] } (q := q) hget
        rw [show (removeMarked r).registry.get? q = none from habsent.1]
        exact .away habsent.2 (by rw [hframings]; rfl) hstays
    | some c =>
        have hself := releaseMarked_self r.marked { r with marked := [] } hmarked (c := c) hget
        rw [show (removeMarked r).registry.get? q = none from hself.1]
        exact .leaves c hself.2 hframings hstays
  · have hother := releaseMarked_other r.marked { r with marked := [] } hmarked
    rw [show (removeMarked r).registry.get? q = r.get? q from hother.1]
    refine turn_of_unmoved _ hother.2 (by rw [hframings]; rfl) hstays ?_
    rw [hframings]
    rfl

/-- Every step is a turn for every peer. -/
theorem turn_of_step {limit : Nat} {s s' : Stage} {es : List Deed} (h : Step limit s es s')
    (horderly : s.registry.Orderly) (q : PeerId) :
    Turn limit q s.waiting es s'.waiting (s.registry.get? q) (s'.registry.get? q) := by
  cases h with
  | equip r sockets =>
      rw [Registry.get?_equip]
      cases r.get? q with
      | none => exact .away rfl rfl List.not_mem_nil
      | some c =>
          exact .works c _ [] (c.carries_equip _) List.not_mem_nil List.nil_prefix
            (fun _ => rfl) (fun _ => rfl)
  | turnAway r address hfull => exact turn_of_unmoved _ rfl rfl List.not_mem_nil rfl
  | acceptFault r fault => exact turn_of_unmoved _ rfl rfl List.not_mem_nil rfl
  | lose r socket address fault hroom hlost =>
      exact turn_of_unmoved (r.get? q) rfl rfl List.not_mem_nil rfl
  | join r socket address c hroom hjoined => exact turn_of_join horderly q socket address c hjoined
  | dispatch r e => exact turn_of_dispatch limit r e q
  | broadcast r ms =>
      refine turn_of_unmoved _ (callsOn_map_framed _ _ _) ?_ ?_ ?_
      · rw [framings_map_framed, fromPeer_map]
        rfl
      · rw [newcomers_map_framed]
        exact List.not_mem_nil
      · rw [framings_map_framed]
        rfl
  | relay r sender m waiting => exact turn_of_relay limit horderly sender m waiting q
  | remove r => exact turn_of_remove limit horderly q

/-! ## Numbers -/

theorem orderly_of_step {limit : Nat} {s s' : Stage} {es : List Deed} (h : Step limit s es s')
    (horderly : s.registry.Orderly) :
    s'.registry.Orderly ∧ s.registry.nextNumber ≤ s'.registry.nextNumber := by
  cases h with
  | equip r sockets => exact ⟨horderly.of_ids (Registry.ids_equip r sockets) rfl, Nat.le_refl _⟩
  | turnAway r address hfull => exact ⟨horderly, Nat.le_refl _⟩
  | acceptFault r fault => exact ⟨horderly, Nat.le_refl _⟩
  | lose r socket address fault hroom hlost =>
      exact ⟨Registry.orderly_allocate horderly, Nat.le_succ _⟩
  | join r socket address c hroom hjoined =>
      exact ⟨Registry.orderly_insert horderly c, Nat.le_succ _⟩
  | dispatch r e =>
      rcases record_dispatch e r with ⟨_, _, hids, hnext⟩
      exact ⟨horderly.of_ids hids hnext, Nat.le_of_eq hnext.symm⟩
  | broadcast r ms => exact ⟨horderly, Nat.le_refl _⟩
  | relay r sender m waiting =>
      rcases record_fanOut sender m r with ⟨_, _, hids, hnext⟩
      exact ⟨horderly.of_ids hids hnext, Nat.le_of_eq hnext.symm⟩
  | remove r =>
      rcases record_removeMarked horderly with ⟨_, _, hreleased, hnext⟩
      exact ⟨hreleased, Nat.le_of_eq hnext.symm⟩

-- Whoever comes in gets the next number, and the number after it is the next.
theorem newcomers_of_step {limit : Nat} {s s' : Stage} {es : List Deed} (h : Step limit s es s')
    (horderly : s.registry.Orderly) :
    newcomers es = [] ∨ newcomers es = [⟨s.registry.nextNumber⟩] ∧
      s.registry.nextNumber < s'.registry.nextNumber := by
  cases h with
  | equip r sockets => exact Or.inl rfl
  | turnAway r address hfull => exact Or.inl rfl
  | acceptFault r fault => exact Or.inl rfl
  | lose r socket address fault hroom hlost => exact Or.inl rfl
  | join r socket address c hroom hjoined => exact Or.inr ⟨rfl, Nat.lt_succ_self _⟩
  | dispatch r e => exact Or.inl (record_dispatch e r).2.1
  | broadcast r ms => exact Or.inl (newcomers_map_framed none ms)
  | relay r sender m waiting => exact Or.inl (record_fanOut sender m r).2.1
  | remove r => exact Or.inl (record_removeMarked horderly).2.1

/-- The record and the peers agree on who has come in: each with a number above
    those before, and nobody has done anything without having come in. -/
structure Numbered (s : Stage) (ds : List Deed) : Prop where
  orderly : s.registry.Orderly
  rising : (newcomers ds).Pairwise (·.number < ·.number)
  known : ∀ q ∈ newcomers ds, q.number < s.registry.nextNumber
  silent : ∀ q, q ∉ newcomers ds → callsOn q ds = [] ∧ fromPeer q (framings ds) = []
  present : ∀ q c, s.registry.get? q = some c → q ∈ newcomers ds

theorem numbered_empty (maxPeers : Nat) : Numbered ⟨Registry.empty maxPeers, []⟩ [] := by
  refine ⟨⟨List.Pairwise.nil, ?_⟩, List.Pairwise.nil, ?_, fun _ _ => ⟨rfl, rfl⟩, ?_⟩
  · intro id hid
    cases hid
  · intro q hq
    cases hq
  · intro q c hc
    cases hc

theorem numbered_step {limit : Nat} {s s' : Stage} {ds es : List Deed} (h : Step limit s es s')
    (hn : Numbered s ds) : Numbered s' (ds ++ es) := by
  rcases orderly_of_step h hn.orderly with ⟨horderly, hnext⟩
  have hnew := newcomers_of_step h hn.orderly
  refine ⟨horderly, ?_, ?_, ?_, ?_⟩
  · rw [newcomers_append, List.pairwise_append]
    rcases hnew with hnone | ⟨hone, _⟩
    · rw [hnone]
      exact ⟨hn.rising, List.Pairwise.nil, fun a _ b hb => (by cases hb)⟩
    · rw [hone]
      refine ⟨hn.rising, List.pairwise_singleton _ _, ?_⟩
      intro a ha b hb
      rw [List.mem_singleton.mp hb]
      exact hn.known a ha
  · intro q hq
    rw [newcomers_append] at hq
    rcases List.mem_append.mp hq with hold | hcomes
    · exact Nat.lt_of_lt_of_le (hn.known q hold) hnext
    · rcases hnew with hnone | ⟨hone, hlt⟩
      · rw [hnone] at hcomes
        cases hcomes
      · rw [hone] at hcomes
        rw [List.mem_singleton.mp hcomes]
        exact hlt
  · -- Whoever has not come in was not there before, so it can only have stayed away.
    intro q hq
    rw [newcomers_append, List.mem_append, not_or] at hq
    rcases hn.silent q hq.1 with ⟨hcalls, hframed⟩
    have hnone : s.registry.get? q = none := by
      cases hget : s.registry.get? q with
      | none => rfl
      | some c => exact absurd (hn.present q c hget) hq.1
    have hturn := turn_of_step h hn.orderly q
    rw [hnone] at hturn
    rw [callsOn_append, framings_append, fromPeer_append, hcalls, hframed]
    generalize s'.registry.get? q = after at hturn
    cases hturn with
    | away hcalls' hframed' hstays =>
        rw [hcalls', hframed']
        exact ⟨rfl, rfl⟩
    | comes socket address c hjoined hes hwaiting =>
        rw [hes] at hq
        exact absurd List.mem_cons_self hq.2
  · intro q c hc
    rw [newcomers_append, List.mem_append]
    have hturn := turn_of_step h hn.orderly q
    rw [hc] at hturn
    generalize hbefore : s.registry.get? q = before at hturn
    cases hturn with
    | comes socket address c hjoined hes hwaiting =>
        right
        rw [hes]
        exact List.mem_cons_self
    | works c c' given hcarries hstays hgiven hall hidle => exact Or.inl (hn.present q c hbefore)

-- A peer comes in once.
theorem Numbered.not_mem_of_newcomer {s : Stage} {ds es : List Deed} (hn : Numbered s (ds ++ es))
    {q : PeerId} (hq : q ∈ newcomers es) : q ∉ newcomers ds := by
  intro hold
  have hrising := hn.rising
  rw [newcomers_append, List.pairwise_append] at hrising
  exact absurd (hrising.2.2 q hold q hq) (Nat.lt_irrefl _)

/-- In every course from an empty registry numbers are given once. -/
theorem numbered_of_course {limit maxPeers : Nat} {s : Stage} {ds : List Deed}
    (h : Course limit ⟨Registry.empty maxPeers, []⟩ ds s) : Numbered s ds := by
  induction h with
  | rest => exact numbered_empty maxPeers
  | step _ last ih => exact numbered_step last ih

theorem limits_of_course {limit maxPeers : Nat} {s : Stage} {ds : List Deed}
    (h : Course limit ⟨Registry.empty maxPeers, []⟩ ds s) {q : PeerId} {c : Connection}
    (hc : s.registry.get? q = some c) : c.inbound.limit = limit ∧ c.outbound.limit = limit := by
  induction h generalizing c with
  | rest => cases hc
  | step before last ih =>
      have hturn := turn_of_step last (numbered_of_course before).orderly q
      rw [hc] at hturn
      generalize hbefore : Registry.get? _ q = before? at hturn
      cases hturn with
      | comes socket address c hjoined hes hwaiting =>
          rcases Connection.heard_of_register hjoined with ⟨_, _, hin, hout, _⟩
          exact ⟨hin, hout⟩
      | works c₀ c given hcarries hstays hgiven hall hidle =>
          rcases ih hbefore with ⟨hin, hout⟩
          exact ⟨hcarries.inLimit.trans hin, hcarries.outLimit.trans hout⟩

/-- What a server that listens has done since it was opened is a course from an
    empty registry. -/
theorem ServerHistory.course_of_opened (config : ServerConfig) (port : UInt16)
    (address : SocketAddress) (arrivals : List AcceptAnswer) (requests : List ServerRequest) :
    ∃ l, (serveAll requests (opened config port address arrivals)).server.listening = some l ∧
      Course config.maxBuffer ⟨Registry.empty config.maxPeers, []⟩
        (serveAll requests (opened config port address arrivals)).deeds ⟨l.registry, []⟩ := by
  have hl : (opened config port address arrivals).server.listening
      = some ⟨arrivals, address, Registry.empty config.maxPeers⟩ := rfl
  rcases course_serveAll requests _ hl with ⟨l, es, hl', _, hes, hcourse⟩
  refine ⟨l, hl', ?_⟩
  rw [hes]
  exact hcourse

end LineChat
