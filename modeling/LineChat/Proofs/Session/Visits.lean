import LineChat.Proofs.Line.Resuming
import LineChat.Proofs.Session.Work

/-!
# A Client on a Socket That Delivers

What one update of a client comes to, as long as the other side sends bytes, or
closes, and nothing fails.

The bytes of a stream and its end may be met in any grouping. A `Visit` is one
group: the event that a wait has given, if any, and what the read calls give up
to the point where the socket would block or the stream ends. What was read
before a visit comes down to the unended line, so a client that has sent
everything is described by that line and by what its socket is going to give
(`Connection.Attached`).

A visit hands over the messages of all the lines that its bytes complete. It
then leaves a client that is attached in the same way, or, if the stream has
ended, one that says so. Which of the two does not depend on the messages: the
end of the stream hides none of them, and none of them hides the end.

## Main definitions

* `Visit`: What one update meets.
* `Visit.stream`: The bytes of several visits.
* `Connection.Attached`: A connection that waits for a stream to go on.

## Theorems

* `readFrom_delivery`: Reading what was delivered.
* `attached_flushReady`, `handle_visit`: What leaves a connection attached.
* `connect_attached`: A client that has connected.
* `update_visit`: One update of a client.
-/

namespace LineChat

/-- What one update of a client meets on a socket that only delivers. Its batches
    have room for one event. -/
structure Visit where
  /-- The event that the wait for readiness has given, if there was one. -/
  event : Option Event
  /-- What the read calls give until the socket would block or the stream ends. -/
  answers : List ReadAnswer
  /-- The stream ends. -/
  closes : Bool

namespace Visit

/-- The event is one that is read on. -/
def reads (v : Visit) : Bool := v.event.any fun e => e.readable || e.hangup || e.error

/-- The event tells of an end. -/
def tells (v : Visit) : Bool := v.event.any fun e => e.error || e.hangup

/-- What the wait for readiness gives. -/
def wait (v : Visit) : WaitAnswer := .ok v.event.toList

/-- What the read calls give, with the one that ends the reading. -/
def script (v : Visit) : List ReadAnswer :=
  if v.reads then
    v.answers ++ [if v.closes then .ok ByteArray.empty else .error (.plain .wouldBlock)]
  else []

/-- The bytes that are met. -/
def bytes (v : Visit) : ByteArray := joined (piecesOf v.answers)

/-- The bytes that several visits meet. -/
def stream (vs : List Visit) : ByteArray := joined (vs.map bytes)

/-- Nothing is met but bytes and the end of the stream, by an event that is read
    on, and an event tells of an end only if there is one. -/
structure Proper (v : Visit) : Prop where
  delivery : Delivery v.answers
  silent : v.reads = false → v.answers = [] ∧ v.closes = false
  ended : v.tells = true → v.closes = true

instance (v : Visit) : Decidable v.Proper :=
  decidable_of_iff (Delivery v.answers ∧ (v.reads = false → v.answers = [] ∧ v.closes = false) ∧
    (v.tells = true → v.closes = true))
    ⟨fun ⟨delivery, silent, ended⟩ => ⟨delivery, silent, ended⟩,
      fun ⟨delivery, silent, ended⟩ => ⟨delivery, silent, ended⟩⟩

-- An event that is not read on meets nothing of the stream.
theorem nothing_of_not_reads {v : Visit} (h : v.Proper) (hreads : v.reads = false) :
    v.bytes = ByteArray.empty ∧ v.closes = false ∧ v.script = [] := by
  rcases h.silent hreads with ⟨hanswers, hcloses⟩
  refine ⟨?_, hcloses, ?_⟩
  · rw [bytes, hanswers]
    rfl
  · rw [script, hreads, if_neg Bool.false_ne_true]

end Visit

theorem Socket.watch_of_willing {s : Socket} (h : ∀ answer ∈ s.watches, answer = .ok ()) :
    s.watch.1 = .ok () ∧ (∀ answer ∈ s.watch.2.watches, answer = .ok ()) ∧
      s.watch.2.reads = s.reads ∧ s.watch.2.remembered = s.remembered := by
  unfold watch
  cases hwatches : s.watches with
  | nil =>
      dsimp only
      rw [hwatches]
      exact ⟨rfl, List.forall_mem_nil _, rfl, rfl⟩
  | cons answer later =>
      rw [hwatches, List.forall_mem_cons] at h
      exact ⟨h.1, h.2, rfl, rfl⟩

namespace Connection

/-- A connection that has met nothing but a stream so far, of which `held` is
    unended. Nothing is queued, and its socket is going to give `later`. -/
structure Attached (limit : Nat) (held : Line) (later : List ReadAnswer) (c : Connection) :
    Prop where
  active : c.isActive = true
  idle : c.outbound.isEmpty = true
  reads : c.socket.reads = later
  watches : ∀ answer ∈ c.socket.watches, answer = .ok ()
  remembered : c.socket.remembered = none
  failure : c.failure = none
  pending : c.inbound.pending = held
  limit : c.inbound.limit = limit

/-- A connection that was closed for no other reason than the end of the stream. -/
structure Detached (c : Connection) : Prop where
  ended : c.isActive = false
  remembered : c.socket.remembered = none
  failure : c.failure = none

theorem Detached.cause {c : Connection} (h : c.Detached) : c.cause = .closed := by
  unfold Connection.cause
  rw [h.failure, h.remembered]
  rfl

/-! ## Reading -/

theorem readFrom_interrupted {fault : Fault} (h : fault.kind = .interrupted)
    (later : List ReadAnswer) {c : Connection} (hactive : c.isActive = true) :
    (readFrom (.error fault :: later) c).connection = (readFrom later c).connection ∧
      (readFrom (.error fault :: later) c).messages = (readFrom later c).messages := by
  have hblock : fault.kind ≠ .wouldBlock := by
    rw [h]
    decide
  rw [readFrom, if_pos hactive]
  simp only [if_neg hblock, if_pos h]
  exact ⟨trivial, List.nil_append _⟩

theorem readFrom_data {data : ByteArray} (hsome : data.size ≠ 0) (later : List ReadAnswer)
    {c : Connection} (hactive : c.isActive = true) (h : (c.inbound.feed data).refusal = none) :
    let c' := { c with inbound := (c.inbound.feed data).framer }
    (readFrom (.ok data :: later) c).connection = (readFrom later c').connection ∧
      (readFrom (.ok data :: later) c).messages
        = (c.inbound.feed data).messages.toList ++ (readFrom later c').messages := by
  rw [readFrom, if_pos hactive]
  simp only [if_neg hsome, h]
  exact ⟨trivial, trivial⟩

/-- Bytes that were delivered and keep to the limit are read, whatever their
    grouping, and reading goes on with what comes later. -/
theorem readFrom_delivery {answers : List ReadAnswer} (h : Delivery answers)
    (later : List ReadAnswer) {c : Connection} (hactive : c.isActive = true)
    (hlimit : c.inbound.limit < wordBound)
    (hfits : (Split.goOn c.inbound.pending (joined (piecesOf answers))).Fits c.inbound.limit) :
    let s := Split.goOn c.inbound.pending (joined (piecesOf answers))
    ∃ f : Framer, f.pending = s.rest ∧ f.limit = c.inbound.limit ∧
      (readFrom (answers ++ later) c).connection
        = (readFrom later { c with inbound := f }).connection ∧
      (readFrom (answers ++ later) c).messages
        = messagesOf s.lines ++ (readFrom later { c with inbound := f }).messages := by
  induction answers generalizing c with
  | nil =>
      have hnone : Split.goOn c.inbound.pending (joined (piecesOf [])) = ⟨[], c.inbound.pending⟩ :=
        Split.goOn_nothing _
      rw [hnone]
      exact ⟨c.inbound, rfl, rfl, rfl, (List.nil_append _).symm⟩
  | cons answer answers ih =>
      rcases List.forall_mem_cons.mp h with ⟨hfirst, hmore⟩
      rw [List.cons_append]
      cases answer with
      | error fault =>
          rcases readFrom_interrupted hfirst (answers ++ later) hactive with ⟨hc, hms⟩
          rw [hc, hms]
          exact ih hmore hactive hlimit hfits
      | ok data =>
          rw [piecesOf_cons_ok, joined_cons] at hfits ⊢
          have hdata : (Split.goOn c.inbound.pending data).Fits c.inbound.limit :=
            Split.fits_of_fits_goOn_append hfits
          rcases c.inbound.feed_reads_kept hlimit data with ⟨hread, hrest, hsame, haccepted⟩
          rw [Split.kept_of_fits hdata] at hread hrest
          rw [Split.fits_goOn_append hdata, ← hrest, ← hsame] at hfits
          rcases readFrom_data (Nat.ne_of_gt hfirst.1) (answers ++ later) hactive
            (haccepted.mpr hdata) with ⟨hc, hms⟩
          have hnext : ({ c with inbound := (c.inbound.feed data).framer } : Connection).isActive
              = true := hactive
          rcases ih hmore hnext (hsame.trans_lt hlimit) hfits with ⟨f, hpending, hf, hc', hms'⟩
          refine ⟨f, ?_, hf.trans hsame, hc.trans hc', ?_⟩
          · rw [Split.rest_goOn_append, ← hrest, hpending]
          · rw [hms, hms', hread, Split.lines_goOn_append, messagesOf_append, ← hrest,
              List.append_assoc]

/-- A visit that is read on: its bytes are read, and then the connection goes on
    being attached, or it is closed. -/
theorem readReady_visit {limit : Nat} (hlimit : limit < wordBound) {held : Line} {v : Visit}
    (hv : v.Proper) (hreads : v.reads = true) {later : List ReadAnswer} {c : Connection}
    (h : c.Attached limit held (v.script ++ later))
    (hfits : (Split.goOn held v.bytes).Fits limit) :
    c.readReady.messages = messagesOf (Split.goOn held v.bytes).lines ∧
      (v.closes = false →
        c.readReady.connection.Attached limit (Split.goOn held v.bytes).rest later) ∧
      (v.closes = true → c.readReady.connection.Detached) := by
  have hscript : c.socket.reads = v.answers
      ++ ((if v.closes then .ok ByteArray.empty else .error (.plain .wouldBlock)) :: later) := by
    rw [h.reads, Visit.script, if_pos hreads, List.append_assoc]
    rfl
  rw [← h.pending, ← h.limit] at hfits
  rw [← h.limit] at hlimit
  unfold readReady
  rw [hscript]
  rcases readFrom_delivery hv.delivery _ h.active hlimit hfits with ⟨f, hpending, hf, hc, hms⟩
  rw [h.pending] at hpending hms
  rw [hc, hms]
  have hactive : ({ c with inbound := f } : Connection).isActive = true := h.active
  cases hcloses : v.closes with
  | false =>
      have hstop : readFrom (.error (.plain .wouldBlock) :: later) { c with inbound := f }
          = ⟨{ c with inbound := f, socket := { c.socket with reads := later } }, [],
            [.read (.error (.plain .wouldBlock))]⟩ := by
        rw [readFrom, if_pos hactive]
        rfl
      simp only [Bool.false_eq_true, if_false, hstop]
      refine ⟨List.append_nil _, fun _ => ?_, False.elim⟩
      exact ⟨h.active, h.idle, rfl, h.watches, h.remembered, h.failure, hpending,
        hf.trans h.limit⟩
  | true =>
      have hend : ({ c with inbound := f } : Connection).close.isActive = false :=
        isActive_close _
      have hstop : readFrom (.ok ByteArray.empty :: later) { c with inbound := f }
          = ⟨{ ({ c with inbound := f } : Connection).close with
              socket := { c.socket with reads := later } }, [],
            [.read (.ok ByteArray.empty)]⟩ := by
        rw [readFrom, if_pos hactive]
        simp only [ByteArray.size_empty, if_true, readFrom_ended later hend]
        unfold close
        rw [if_pos hactive]
        rfl
      simp only [if_true, hstop]
      refine ⟨List.append_nil _, fun h => absurd h.symm Bool.false_ne_true,
        fun _ => ⟨hend, h.remembered, ?_⟩⟩
      unfold close
      rw [if_pos hactive]
      exact h.failure

/-! ## Events -/

theorem attached_flushReady {limit : Nat} {held : Line} {later : List ReadAnswer}
    {c : Connection} (h : c.Attached limit held later) : c.flushReady.1.Attached limit held later := by
  have hidle : (c.isActive && !c.outbound.isEmpty) = false := by rw [h.idle]; simp
  have hflush : flushFrom c.socket.writes c = (c, []) := flushFrom_idle _ hidle
  unfold flushReady
  simp only [hflush, h.active, h.idle, Bool.and_self, if_true]
  rcases Socket.watch_of_willing h.watches with ⟨hok, hwatches, hreads, hremembered⟩
  rcases c.setInterest_cases .readable with
    ⟨hset, _⟩ | ⟨r, _, _, _, hset⟩ | ⟨r, fault, _, _, herr, _⟩
  · rw [hset]
    exact h
  · rw [hset]
    exact ⟨h.active, h.idle, hreads.trans h.reads, hwatches, hremembered.trans h.remembered,
      h.failure, h.pending, h.limit⟩
  · rw [hok] at herr
    cases herr

theorem flushReady_of_detached {c : Connection} (h : c.Detached) : c.flushReady.1 = c := by
  have hidle : (c.isActive && !c.outbound.isEmpty) = false := by rw [h.ended]; rfl
  have hflush : flushFrom c.socket.writes c = (c, []) := flushFrom_idle _ hidle
  unfold flushReady
  simp only [hflush, h.ended, Bool.false_and, Bool.false_eq_true, if_false]

theorem close_of_detached {c : Connection} (h : c.Detached) : c.close = c := by
  unfold close
  rw [if_neg (Bool.eq_false_iff.mp h.ended)]

theorem attached_markOpen {limit : Nat} {held : Line} {later : List ReadAnswer}
    {c : Connection} (h : c.Attached limit held later) : c.markOpen.Attached limit held later := by
  unfold markOpen
  split
  · exact ⟨rfl, h.idle, h.reads, h.watches, h.remembered, h.failure, h.pending, h.limit⟩
  · exact h

/-- The event of a visit: the messages of its lines, and a connection that goes
    on being attached, or one that was closed. -/
theorem handle_visit {limit : Nat} (hlimit : limit < wordBound) {held : Line} {v : Visit}
    (hv : v.Proper) {e : Event} (he : v.event = some e) {later : List ReadAnswer}
    {c : Connection} (h : c.Attached limit held (v.script ++ later))
    (hfits : (Split.goOn held v.bytes).Fits limit) :
    (c.handle e).messages = messagesOf (Split.goOn held v.bytes).lines ∧
      (v.closes = false →
        (c.handle e).connection.Attached limit (Split.goOn held v.bytes).rest later) ∧
      (v.closes = true → (c.handle e).connection.Detached) := by
  have hread : v.reads = (e.readable || e.hangup || e.error) := by
    rw [Visit.reads, he]
    rfl
  -- What the event is, apart from being read on, changes neither outcome.
  have hafter : ∀ received : Received,
      (v.closes = false →
        received.connection.Attached limit (Split.goOn held v.bytes).rest later) →
      (v.closes = true → received.connection.Detached) →
      let flushed := if e.writable then received.connection.flushReady
        else (received.connection, [])
      let c' := if e.error || e.hangup then flushed.1.close else flushed.1
      (v.closes = false → c'.Attached limit (Split.goOn held v.bytes).rest later) ∧
        (v.closes = true → c'.Detached) := by
    intro received hgoes hends flushed c'
    refine ⟨fun hcloses => ?_, fun hcloses => ?_⟩
    · have hquiet : (e.error || e.hangup) = false := by
        rw [Bool.eq_false_iff]
        intro htells
        have hends : v.tells = true := by
          rw [Visit.tells, he]
          exact htells
        rw [hv.ended hends] at hcloses
        cases hcloses
      have hattached := hgoes hcloses
      dsimp only [c', flushed]
      rw [if_neg (Bool.eq_false_iff.mp hquiet)]
      split
      · exact attached_flushReady hattached
      · exact hattached
    · have hdetached := hends hcloses
      have hflushed : flushed.1 = received.connection := by
        dsimp only [flushed]
        split
        · exact flushReady_of_detached hdetached
        · rfl
      dsimp only [c']
      rw [hflushed, close_of_detached hdetached, ite_self]
      exact hdetached
  unfold handle
  by_cases hreads : v.reads = true
  · rcases readReady_visit hlimit hv hreads h hfits with ⟨hms, hgoes, hends⟩
    rw [hread] at hreads
    rw [if_pos hreads]
    exact ⟨hms, hafter _ hgoes hends⟩
  · rw [Bool.not_eq_true] at hreads
    rcases v.nothing_of_not_reads hv hreads with ⟨hbytes, hopen, hscript⟩
    have hnone : Split.goOn held v.bytes = ⟨[], held⟩ := by rw [hbytes, Split.goOn_nothing]
    rw [hscript, List.nil_append] at h
    rw [hread] at hreads
    rw [if_neg (Bool.eq_false_iff.mp hreads)]
    refine ⟨by rw [hnone]; rfl, hafter ⟨c, [], []⟩ (fun _ => by rw [hnone]; exact h) ?_⟩
    intro hcloses
    rw [hopen] at hcloses
    cases hcloses

end Connection

namespace Client

/-- A client that has connected is attached to the socket that was dialled. -/
theorem connect_attached {config : ClientConfig} {d : Dialler} {target : String}
    {script : List ReadAnswer}
    (hdial : ∀ address socket, d.dial address = .ok socket → socket.reads = script ∧
      (∀ answer ∈ socket.watches, answer = .ok ()) ∧ socket.remembered = none)
    (h : ((ofConfig config).connect d target).answer = .ok ()) :
    ∃ c, ((ofConfig config).connect d target).client
        = { ofConfig config with connection := some c } ∧
      c.Attached config.maxBuffer Line.empty script := by
  unfold connect at h ⊢
  rw [if_neg (show ¬ ((ofConfig config).connection.isSome || (ofConfig config).ended) = true from
    Bool.false_ne_true)] at h ⊢
  cases hresolve : resolve d.names target with
  | error e =>
      rw [hresolve] at h
      cases h
  | ok addresses =>
      cases hprepare : d.prepare with
      | error fault =>
          rw [hresolve, hprepare] at h
          cases h
      | ok =>
          cases hfirst : dialFirst d (ofConfig config).config.maxBuffer (.badAddress target)
            addresses with
          | error e =>
              simp only [hresolve, hprepare, hfirst] at h
              cases h
          | ok c =>
              simp only [hfirst]
              refine ⟨c, rfl, ?_⟩
              rcases dial_of_dialFirst hfirst with ⟨address, socket, hsocket, hregister⟩
              rcases hdial address socket hsocket with ⟨hreads, hwatches, hremembered⟩
              rcases Socket.watch_of_willing hwatches with ⟨hok, hlater, hsame, hsame'⟩
              unfold Connection.dialled Connection.register at hregister
              rcases hwatch : socket.watch with ⟨answer, socket'⟩
              rw [hwatch] at hok hlater hsame hsame' hregister
              cases hok
              cases hregister
              exact ⟨rfl, rfl, hsame.trans hreads, hlater, hsame'.trans hremembered, rfl, rfl, rfl⟩

/-- An update that meets a visit hands over the messages of its lines. If the
    stream has not ended, the client goes on being attached; if it has, that is
    the answer. -/
theorem update_visit {limit : Nat} (hlimit : limit < wordBound) {held : Line} {v : Visit}
    (hv : v.Proper) {later : List ReadAnswer} {cl : Client} {c : Connection}
    (hended : cl.ended = false) (hc : cl.connection = some c) (hnew : cl.messages = [])
    (h : c.Attached limit held (v.script ++ later))
    (hfits : (Split.goOn held v.bytes).Fits limit) :
    let o := cl.update v.wait
    o.client.messages = messagesOf (Split.goOn held v.bytes).lines ∧
      (v.closes = false → (o.answer = .ok () ∨ o.answer = .error .timeout) ∧
        o.client.ended = false ∧ ∃ c', o.client.connection = some c' ∧
          c'.Attached limit (Split.goOn held v.bytes).rest later) ∧
      (v.closes = true → o.answer = .error .closed) := by
  have hmessages : ∀ ms : List Message, cl.messages ++ ms = ms := by
    intro ms
    rw [hnew, List.nil_append]
  unfold update
  simp only [hended, Bool.false_eq_true, if_false, hc, Visit.wait]
  cases he : v.event with
  | none =>
      have hreads : v.reads = false := by
        rw [Visit.reads, he]
        rfl
      rcases v.nothing_of_not_reads hv hreads with ⟨hbytes, hopen, hscript⟩
      have hnone : Split.goOn held v.bytes = ⟨[], held⟩ := by rw [hbytes, Split.goOn_nothing]
      rw [hscript, List.nil_append] at h
      have hidle : ¬ (c.state = .opened ∧ 0 < c.pendingOutput) := by
        have hempty : c.pendingOutput = 0 := beq_iff_eq.mp h.idle
        omega
      have hadvance : advance .timeout c = ⟨c, [], []⟩ := by
        unfold advance
        simp only [Bool.and_eq_true, decide_eq_true_eq, if_neg hidle]
      have hwait : waitOutcome (.ok (none : Option Event).toList) = .ok .timeout := rfl
      simp only [hwait, hadvance, h.active, if_true, hmessages, hnone, hopen]
      exact ⟨rfl, fun _ => ⟨Or.inr trivial, trivial, c, rfl, h⟩, nofun⟩
  | some e =>
      rcases Connection.handle_visit hlimit hv he (Connection.attached_markOpen h) hfits with
        ⟨hms, hgoes, hends⟩
      have hadvance : advance (.ready e []) c = ⟨(c.markOpen.handle e).connection,
          (c.markOpen.handle e).messages, (c.markOpen.handle e).calls⟩ := by
        unfold advance handleAll handleAll
        dsimp only
        rw [List.append_nil, List.append_nil]
      have hwait : waitOutcome (.ok (some e).toList) = .ok (.ready e []) := rfl
      simp only [hwait, hadvance, hmessages, hms]
      cases hcloses : v.closes with
      | false =>
          have hattached := hgoes hcloses
          rw [if_pos hattached.active]
          exact ⟨rfl, fun _ => ⟨Or.inl rfl, rfl, _, rfl, hattached⟩, nofun⟩
      | true =>
          have hdetached := hends hcloses
          rw [if_neg (Bool.eq_false_iff.mp hdetached.ended)]
          exact ⟨rfl, nofun, fun _ => congrArg _ hdetached.cause⟩

end Client

end LineChat
