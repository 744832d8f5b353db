import LineChat.Proofs.Line.Refusals
import LineChat.Proofs.Line.Requests
import LineChat.Proofs.Session.Account
import LineChat.Proofs.Session.OwnLines
import LineChat.Proofs.Session.Wakeup

/-!
# The Shape of Every Message

What is true of a message wherever it is met.

A message is not empty, holds no newline and has no blank at either end. Nothing
looks at that again once the message is made: a relay writes it as it is and
relies on its being one line. There are two ways to make one, from a payload and
from a record, and both trim a line; that trimming gives the shape is one fact
about bytes (`wellShaped_of_snug`).

How long a message can be is another matter, for that depends on where it comes
from. A record is measured before it is trimmed, so what is trimmed of it is not
longer than the limit (`taken_of_mem`). Every place where messages are met is
then reduced to records within the limit. For a framer these are the lines that
one call has read, whatever the calls before it came to (`taken_call`). For a
reader and for what a server says of its own they are the lines that are kept of
the pieces. For a server and a client they are the first lines of what was read
from a connection.

The induction is on the calls, the requests or the steps, and it is that of the
accounts these modules keep.

## Main definitions

* `WellShaped`: The shape of a message, in its bytes.
* `Message.TakenWithin`: A message of that shape within a limit.
* `Line.HeldWithin`: An unended record within a limit.

## Theorems

* `wellShaped_of_snug`: Trimming gives the shape.
* `taken_of_mem`: The messages of records.
* `taken_call`, `taken_callAll`: A framer in every state.
* `taken_nexts`, `taken_messages`: A reader, a server and a client.
* `queueMessage_line`: A message is queued as one line or does not fit.
* `messages_keep_their_shape`: Everywhere.
-/

namespace LineChat

/-- Space, tab, newline, vertical tab, form feed and carriage return. -/
def blankBytes : List UInt8 := [32, 9, 10, 11, 12, 13]

theorem isBlank_iff_mem (x : UInt8) : isBlank x = true ↔ x ∈ blankBytes := by
  unfold isBlank blankBytes
  simp only [Bool.or_eq_true, Bool.and_eq_true, beq_iff_eq, decide_eq_true_eq,
    UInt8.le_iff_toNat_le, ← UInt8.toNat_inj, List.mem_cons, List.not_mem_nil, or_false,
    UInt8.reduceToNat]
  omega

/-- The shape of a message: there is something in it, it holds no newline, and
    it neither begins nor ends with a blank. -/
structure WellShaped (text : List UInt8) : Prop where
  nonempty : text ≠ []
  unbroken : 10 ∉ text
  first : ∀ x, text.head? = some x → x ∉ blankBytes
  last : ∀ x, text.getLast? = some x → x ∉ blankBytes

theorem wellShaped_of_snug {b : ByteArray} (h : Snug b) (hline : newline ∉ octets b) :
    WellShaped (octets b) := by
  have hpos := h.nonempty
  refine ⟨fun hnil => ?_, hline, fun x hx => ?_, fun x hx => ?_⟩
  · rw [← length_octets, hnil] at hpos
    exact absurd hpos (lt_irrefl 0)
  · rw [List.head?_eq_getElem?, byteAt_of_lt hpos, Option.some.injEq] at hx
    rw [← hx, ← isBlank_iff_mem, h.first]
    exact Bool.false_ne_true
  · rw [List.getLast?_eq_getElem?, length_octets, byteAt_of_lt (by omega),
      Option.some.injEq] at hx
    rw [← hx, ← isBlank_iff_mem, h.last]
    exact Bool.false_ne_true

theorem Message.wellShaped (m : Message) : WellShaped (octets m.bytes) :=
  wellShaped_of_snug m.snug m.line.unbroken

/-- A message has the shape, and it is not longer than a limit. -/
structure Message.TakenWithin (limit : Nat) (m : Message) : Prop where
  shape : WellShaped (octets m.bytes)
  short : (octets m.bytes).length ≤ limit

/-- What is held of a record that has not ended: no newline, and no more than a
    limit. -/
structure Line.HeldWithin (limit : Nat) (l : Line) : Prop where
  unbroken : 10 ∉ octets l.bytes
  short : (octets l.bytes).length ≤ limit

/-- The messages of records within a limit are taken within it. -/
theorem taken_of_mem {limit : Nat} {ls : List Line} (hls : ∀ l ∈ ls, l.size ≤ limit) {m : Message}
    (hm : m ∈ messagesOf ls) : m.TakenWithin limit := by
  rcases List.mem_filterMap.mp hm with ⟨l, hl, hline⟩
  refine ⟨m.wellShaped, ?_⟩
  rw [length_octets]
  exact (Message.size_le_of_ofLine? hline).trans (hls l hl)

-- No line is kept that is too long, whatever was dropped before it.
theorem Split.size_le_of_mem_keptAll {limit : Nat} {pieces : List ByteArray} {held l : Line}
    (h : l ∈ (goOn held (keptAll limit held pieces)).lines) : l.size ≤ limit := by
  induction pieces generalizing held with
  | nil =>
      rw [keptAll, goOn_nothing] at h
      cases h
  | cons data pieces ih =>
      rw [lines_goOn_keptAll_cons] at h
      rcases List.mem_append.mp h with hnow | hlater
      · exact size_le_of_mem_within hnow
      · exact ih hlater

/-! ## Framers and readers -/

theorem Framer.held_pending (f : Framer) : f.pending.HeldWithin f.limit := by
  refine ⟨f.unended, ?_⟩
  rw [length_octets]
  exact f.held.fits

/-- One call on a framer in any state, also one that is refused. -/
theorem Framer.taken_call (f : Framer) (hf : f.limit < wordBound) (c : FramerCall) :
    (∀ m ∈ (f.call c).1.messages, m.TakenWithin f.limit) ∧
      (f.call c).1.pending.HeldWithin f.limit := by
  have hheld := (f.call c).2.held_pending
  rw [f.limit_call c] at hheld
  cases c with
  | feed data =>
      refine ⟨fun m hm => ?_, hheld⟩
      have hread := (f.feed_reads_kept hf data).1
      rw [show (f.call (.feed data)).1.messages = (f.feed data).messages.toList from rfl,
        hread] at hm
      rw [Split.lines_goOn_kept] at hm
      exact taken_of_mem (fun _ => Split.size_le_of_mem_within) hm
  | reset => exact ⟨fun m hm => absurd hm (List.not_mem_nil), hheld⟩

/-- Calls one after the other, beyond refusals and resets. -/
theorem Framer.taken_callAll (calls : List FramerCall) (f : Framer) (hf : f.limit < wordBound) :
    (∀ answer ∈ (callAll calls f).1, (∀ m ∈ answer.messages, m.TakenWithin f.limit) ∧
      answer.pending.HeldWithin f.limit) ∧
    (callAll calls f).2.pending.HeldWithin f.limit := by
  induction calls generalizing f with
  | nil => exact ⟨fun answer hanswer => absurd hanswer List.not_mem_nil, f.held_pending⟩
  | cons c calls ih =>
      have hmore := ih (f.call c).2 ((f.limit_call c).trans_lt hf)
      rw [f.limit_call c] at hmore
      rw [callAll]
      refine ⟨fun answer hanswer => ?_, hmore.2⟩
      rcases List.mem_cons.mp hanswer with rfl | hlater
      · exact f.taken_call hf c
      · exact hmore.1 answer hlater

/-- Requests to a reader, beyond the errors that they meet: the messages it has
    given and those that wait. -/
theorem Reader.taken_nexts {limit : Nat} (hlimit : limit < wordBound) (answers : List ReadAnswer)
    (n : Nat) :
    let run := (ofAnswers limit answers).nexts n
    (∀ m ∈ run.1.filterMap Except.toOption ++ run.2.ready, m.TakenWithin limit) ∧
      run.2.pending.HeldWithin limit := by
  intro run
  rcases (ofAnswers limit answers).nexts_reads n hlimit with ⟨taken, hreads⟩
  refine ⟨fun m hm => ?_, ?_⟩
  · rw [show run.1.filterMap Except.toOption ++ run.2.ready = _ from hreads.messages.symm] at hm
    exact taken_of_mem (fun _ => Split.size_le_of_mem_keptAll) hm
  · have hheld := run.2.framer.held_pending
    rwa [show run.2.framer.limit = limit from hreads.limit] at hheld

/-! ## Servers and clients -/

-- Those of a peer are read from its bytes, and those of the server's own from the
-- pieces that it was fed.
theorem ServerHistory.taken_framings {limit maxPeers : Nat} (hlimit : limit < wordBound)
    {h : ServerHistory} {s : Stage} (hcourse : Course limit ⟨Registry.empty maxPeers, []⟩ h.deeds s)
    {pieces : List ByteArray} (hspeaks : h.Speaks limit pieces) :
    ∀ f ∈ framings h.deeds, f.2.TakenWithin limit := by
  rintro ⟨sender, m⟩ hf
  cases sender with
  | none =>
      have hm : m ∈ fromServer (framings h.deeds) := List.mem_filterMap.mpr ⟨_, hf, rfl⟩
      rw [hspeaks.said, ← Split.goOn_empty] at hm
      exact taken_of_mem (fun _ => Split.size_le_of_mem_keptAll) hm
  | some q =>
      have hm : m ∈ fromPeer q (framings h.deeds) := List.mem_filterMap.mpr ⟨_, hf, if_pos rfl⟩
      rw [(understood_of_course hlimit hcourse q).messages] at hm
      exact taken_of_mem (fun _ => Split.size_le_of_mem_within) hm

/-- All that a server has framed, handed out and queued, and what it and its peers
    hold. -/
theorem ServerHistory.taken_messages (config : ServerConfig) (hlimit : config.maxBuffer < wordBound)
    (port : UInt16) (address : SocketAddress) (arrivals : List AcceptAnswer)
    (requests : List ServerRequest) :
    let h := serveAll requests (opened config port address arrivals)
    (∀ m ∈ h.popped ++ h.server.messages, m.TakenWithin config.maxBuffer) ∧
    (∀ f ∈ framings h.deeds, f.2.TakenWithin config.maxBuffer) ∧
    h.server.outgoing.pending.HeldWithin config.maxBuffer ∧
    ∃ l, h.server.listening = some l ∧
      ∀ q c, l.registry.get? q = some c → c.inbound.pending.HeldWithin config.maxBuffer := by
  intro h
  have hopened : (opened config port address arrivals).Speaks config.maxBuffer [] :=
    ⟨rfl, rfl, rfl, _, rfl⟩
  have hspeaks : h.Speaks config.maxBuffer (announced requests) :=
    speaks_serveAll hlimit requests hopened
  have hcollected : h.Collected := collected_serveAll requests rfl
  rcases course_of_opened config port address arrivals requests with ⟨l, hl, hcourse⟩
  have htaken : ∀ f ∈ framings h.deeds, f.2.TakenWithin config.maxBuffer :=
    taken_framings hlimit hcourse hspeaks
  refine ⟨fun m hm => ?_, htaken, ?_, l, hl, fun q c hc => ?_⟩
  · rw [show h.popped ++ h.server.messages = _ from hcollected] at hm
    rcases List.mem_filterMap.mp hm with ⟨f, hf, hpeer⟩
    rcases Option.ite_none_right_eq_some.mp hpeer with ⟨_, hsame⟩
    rw [← Option.some.inj hsame]
    exact htaken f hf
  · rw [← hspeaks.limit]
    exact h.server.outgoing.held_pending
  · rw [← (limits_of_course hcourse hc).1]
    exact c.inbound.held_pending

/-- All that a client has read from its connection. -/
theorem ClientHistory.taken_messages (config : ClientConfig) (hlimit : config.maxBuffer < wordBound)
    (requests : List ClientRequest) :
    let h := serveAll requests (.start (Client.ofConfig config))
    (∀ m ∈ h.popped ++ h.client.messages, m.TakenWithin config.maxBuffer) ∧
      ∀ c, h.client.connection = some c → c.inbound.pending.HeldWithin config.maxBuffer := by
  intro h
  have hsound : h.Sound config.maxBuffer := sound_serveAll hlimit requests (sound_start config)
  refine ⟨fun m hm => ?_, fun c hc => ?_⟩
  · rw [hsound.messages] at hm
    exact taken_of_mem (fun _ => Split.size_le_of_mem_within) hm
  · have hheld := c.inbound.held_pending
    rwa [(hsound.live c hc).1] at hheld

/-- A message is queued as one line behind what is queued, or it does not fit and
    nothing of it is. -/
theorem Connection.queueMessage_line (c : Connection) (m : Message) :
    (∃ queue, c.outbound.appendLine m.bytes = .ok (some queue) ∧
      (c.queueMessage m).refusal = none ∧
      octets (c.queueMessage m).connection.outbound.bytes
        = octets c.outbound.bytes ++ octets m.bytes ++ [10]) ∨
    (∃ o, c.outbound.appendLine m.bytes = .error (.overflow o) ∧
      (c.queueMessage m).refusal = some (.overflow o) ∧
      (c.queueMessage m).connection.outbound = c.outbound) := by
  rcases c.outbound.appendLine_message_cases m with ⟨_, herr⟩ | ⟨_, queue, hok, hbytes, _⟩
  · refine Or.inr ⟨_, herr, ?_, ?_⟩
    · unfold queueMessage
      rw [herr]
    · unfold queueMessage
      rw [herr]
      exact outbound_close c
  · refine Or.inl ⟨queue, hok, ?_, ?_⟩
    · unfold queueMessage
      rw [hok]
      dsimp only
      split <;> rfl
    · have hqueue : (c.queueMessage m).connection.outbound = queue := by
        unfold queueMessage
        rw [hok]
        dsimp only
        split
        · exact outbound_setInterest _ _
        · rfl
      rw [hqueue, hbytes, octets_append, Message.wire, octets_wire, List.append_assoc]
      rfl

/-- Every message has the shape, and a message that is made of a payload is what
    is trimmed of it. Whatever calls a framer answers, also behind refusals and
    resets, none of its messages is longer than its limit, and what it holds is
    within the limit and has no newline. The same is true of a reader, however
    often it is asked and whatever errors it meets, with the messages that wait in
    it; of a server, with all that its peers or it have said and its queue, and of
    its peers; and of a client with its queue. So a message that is queued for a
    connection, whichever that is, comes behind the others as its bytes and a
    newline, or it does not fit. It is never taken for blank or for several
    lines. -/
theorem messages_keep_their_shape (limit : Nat) (hlimit : limit < wordBound) :
    (∀ m : Message, WellShaped (octets m.bytes)) ∧
    (∀ payload m, Message.ofBytes payload = .ok m → m.bytes = trimmed payload) ∧
    (∀ calls,
      let run := Framer.callAll calls (Framer.ofLimit limit)
      (∀ answer ∈ run.1, (∀ m ∈ answer.messages, m.TakenWithin limit) ∧
        answer.pending.HeldWithin limit) ∧
      run.2.pending.HeldWithin limit) ∧
    (∀ answers n,
      let run := (Reader.ofAnswers limit answers).nexts n
      (∀ m ∈ run.1.filterMap Except.toOption ++ run.2.ready, m.TakenWithin limit) ∧
        run.2.pending.HeldWithin limit) ∧
    (∀ (config : ServerConfig) port address arrivals requests, config.maxBuffer = limit →
      let h := ServerHistory.serveAll requests
        (ServerHistory.opened config port address arrivals)
      (∀ m ∈ h.popped ++ h.server.messages, m.TakenWithin limit) ∧
      (∀ f ∈ framings h.deeds, f.2.TakenWithin limit) ∧
      h.server.outgoing.pending.HeldWithin limit ∧
      ∃ l, h.server.listening = some l ∧
        ∀ q c, l.registry.get? q = some c → c.inbound.pending.HeldWithin limit) ∧
    (∀ (config : ClientConfig) requests, config.maxBuffer = limit →
      let h := ClientHistory.serveAll requests (.start (Client.ofConfig config))
      (∀ m ∈ h.popped ++ h.client.messages, m.TakenWithin limit) ∧
        ∀ c, h.client.connection = some c → c.inbound.pending.HeldWithin limit) ∧
    (∀ (c : Connection) (m : Message),
      c.outbound.appendLine m.bytes ≠ .ok none ∧
      c.outbound.appendLine m.bytes ≠ .error .embeddedNewline ∧
      ((∃ queue, c.outbound.appendLine m.bytes = .ok (some queue) ∧
          (c.queueMessage m).refusal = none ∧
          octets (c.queueMessage m).connection.outbound.bytes
            = octets c.outbound.bytes ++ octets m.bytes ++ [10]) ∨
        (∃ o, c.outbound.appendLine m.bytes = .error (.overflow o) ∧
          (c.queueMessage m).refusal = some (.overflow o) ∧
          (c.queueMessage m).connection.outbound = c.outbound))) := by
  refine ⟨Message.wellShaped, fun _ _ => Message.bytes_of_ofBytes, fun calls => ?_,
    fun answers n => Reader.taken_nexts hlimit answers n, ?_, ?_, fun c m => ?_⟩
  · exact (Framer.ofLimit limit).taken_callAll calls hlimit
  · intro config port address arrivals requests hconfig
    subst hconfig
    exact ServerHistory.taken_messages config hlimit port address arrivals requests
  · intro config requests hconfig
    subst hconfig
    exact ClientHistory.taken_messages config hlimit requests
  · rcases c.queueMessage_line m with ⟨queue, hok, hqueued⟩ | ⟨o, herr, hsame⟩
    · refine ⟨?_, ?_, Or.inl ⟨queue, hok, hqueued⟩⟩ <;> rw [hok] <;> nofun
    · refine ⟨?_, ?_, Or.inr ⟨o, herr, hsame⟩⟩ <;> rw [herr] <;> nofun

/-- A limit of four bytes. A framer refuses a piece while it holds two bytes, then
    another with nothing held, and is reset. A server has one peer, which sends a
    blank line and a message with blanks around it, and says a line of its own. A
    client is sent the same. What each of them has is as it should be. -/
theorem messages_keep_their_shape_within_four_bytes :
    let calls : List FramerCall := [.feed "ab".toUTF8, .feed "cde\n".toUTF8,
      .feed " \t\n\x0bx y\n012345\nz\n".toUTF8, .reset, .feed "\n z\r\nq".toUTF8]
    let run := Framer.callAll calls (Framer.ofLimit 4)
    let address : UInt16 → SocketAddress := .v4 ⟨127, 0, 0, 1⟩
    let requests : List ServerRequest := [
      .update [.ok (Socket.idle, address 1)] (fun _ => none)
        (.ok [⟨0, true, false, false, false⟩]),
      .update [] (fun _ => some ⟨[.ok " \n a\t\nb".toUTF8], [], [], none⟩)
        (.ok [⟨1, true, false, false, false⟩]),
      .feed "hi\n".toUTF8 (fun _ => none)]
    let h := ServerHistory.serveAll requests (ServerHistory.opened ⟨2, 4, 4⟩ 1 (address 0) [])
    let dialler : Dialler := ⟨Directory.none, .ok (), fun _ => .ok Socket.idle⟩
    let requests' : List ClientRequest := [.connect dialler "127.0.0.1:9",
      .update ⟨[.ok " \n a\t\nb".toUTF8], [], [], none⟩ (.ok [⟨1, true, false, false, false⟩])]
    let h' := ClientHistory.serveAll requests' (.start (Client.ofConfig ⟨4, 1⟩))
    4 < wordBound ∧
    (run.1.flatMap (·.messages)).map Message.bytes
      = ["ab".toUTF8, "x y".toUTF8, "z".toUTF8] ∧
    run.1.filterMap (·.refusal) = [⟨2, 3, 4⟩, ⟨0, 6, 4⟩] ∧
    (∀ answer ∈ run.1, (∀ m ∈ answer.messages, m.TakenWithin 4) ∧
      answer.pending.HeldWithin 4) ∧
    h.server.messages.map Message.bytes = ["a".toUTF8] ∧
    (framings h.deeds).map (·.2.bytes) = ["a".toUTF8, "hi".toUTF8] ∧
    (∀ f ∈ framings h.deeds, f.2.TakenWithin 4) ∧
    h'.client.messages.map Message.bytes = ["a".toUTF8] ∧
    (∀ m ∈ h'.popped ++ h'.client.messages, m.TakenWithin 4) := by
  intro calls run address requests h dialler requests' h'
  have hlimit : 4 < wordBound := by decide
  rcases messages_keep_their_shape 4 hlimit with ⟨_, _, hframer, _, hserver, hclient, _⟩
  exact ⟨hlimit, by decide +kernel, by decide +kernel, (hframer calls).1, by decide +kernel,
    by decide +kernel, (hserver ⟨2, 4, 4⟩ 1 (address 0) [] requests rfl).2.1, by decide +kernel,
    (hclient ⟨4, 1⟩ requests' rfl).1⟩

end LineChat
