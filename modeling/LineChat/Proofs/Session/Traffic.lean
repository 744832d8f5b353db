import LineChat.Proofs.Line.Framing
import LineChat.Proofs.Line.Wire
import LineChat.Proofs.Session.Passes

/-!
# The Two Streams of a Connection

What an operation on a connection does to the bytes that go through it.

Every operation comes with its record of calls, and the record accounts for
both streams. Going in, the bytes that were received decide which messages have
been framed, however they were cut and whatever ended the reading: that is
`Connection.Heard`, an invariant between a connection and the stream it has
read. Going out, the bytes that were queued and those that were sent account
for what is left in the queue. `Connection.Carries` says both of one operation,
and it composes (`Carries.trans`), so each law below speaks of one call or one
pass of a loop and nothing is said about whole runs here.

A connection that has stopped being active never reads again, so its messages
are those before the first line that was too long. Whether such a line is also
why it stopped does not matter.

## Main definitions

* `Connection.Heard`: The messages of a connection are those of a stream.
* `Connection.Carries`: What an operation does to both streams.

## Theorems

* `Carries.trans`: Two operations one after the other.
* `heard_of_register`: A new connection has read nothing.
* `carries_readReady`, `carries_flushReady`: Input and output.
* `carries_handle`: One event.
* `queueMessage_cases`, `queueBytes_cases`: Queueing output.
-/

namespace LineChat

namespace Connection

/-- The messages `ms` are those that were framed from the stream `s`. An active
    connection holds the unended line of it. -/
structure Heard (c : Connection) (s : ByteArray) (ms : List Message) : Prop where
  messages : ms = messagesOf ((split s).within c.inbound.limit)
  held : c.isActive = true →
    (split s).Fits c.inbound.limit ∧ c.inbound.pending = (split s).rest

/-- An operation that led from `c` to `c'` framed the messages `ms`, made the
    calls, and put the bytes `queued` at the end of the queue. -/
structure Carries (c c' : Connection) (ms : List Message) (calls : List SocketCall)
    (queued : ByteArray) : Prop where
  heard : c.inbound.limit < wordBound → ∀ s before, c.Heard s before →
    c'.Heard (s ++ receivedBytes calls) (before ++ ms)
  sent : c.outbound.bytes ++ queued = sentBytes calls ++ c'.outbound.bytes
  active : c'.isActive = true → c.isActive = true
  inLimit : c'.inbound.limit = c.inbound.limit
  outLimit : c'.outbound.limit = c.outbound.limit

theorem Heard.of_eq {c c' : Connection} {s : ByteArray} {ms : List Message} (h : c.Heard s ms)
    (hin : c'.inbound = c.inbound) (hactive : c'.isActive = true → c.isActive = true) :
    c'.Heard s ms := by
  refine ⟨?_, fun hc => ?_⟩
  · rw [hin]
    exact h.messages
  · rw [hin]
    exact h.held (hactive hc)

theorem Carries.trans {c c' c'' : Connection} {ms ms' : List Message}
    {calls calls' : List SocketCall} {queued queued' : ByteArray}
    (h : c.Carries c' ms calls queued) (h' : c'.Carries c'' ms' calls' queued') :
    c.Carries c'' (ms ++ ms') (calls ++ calls') (queued ++ queued') := by
  refine ⟨?_, ?_, fun hc => h.active (h'.active hc), h'.inLimit.trans h.inLimit,
    h'.outLimit.trans h.outLimit⟩
  · intro hlimit s before hs
    rw [receivedBytes_append, ← ByteArray.append_assoc, ← List.append_assoc]
    exact h'.heard (by rw [h.inLimit]; exact hlimit) _ _ (h.heard hlimit s before hs)
  · rw [← ByteArray.append_assoc, h.sent, ByteArray.append_assoc, h'.sent, sentBytes_append,
      ByteArray.append_assoc]

-- Two operations that queue nothing.
theorem Carries.trans_still {c c' c'' : Connection} {ms ms' : List Message}
    {calls calls' : List SocketCall} (h : c.Carries c' ms calls ByteArray.empty)
    (h' : c'.Carries c'' ms' calls' ByteArray.empty) :
    c.Carries c'' (ms ++ ms') (calls ++ calls') ByteArray.empty := by
  have hboth := h.trans h'
  rwa [ByteArray.append_empty] at hboth

-- Calls that transfer nothing, and a connection whose buffers did not change.
theorem carries_of_still {c c' : Connection} {calls : List SocketCall}
    (hin : c'.inbound = c.inbound) (hout : c'.outbound = c.outbound)
    (hactive : c'.isActive = true → c.isActive = true)
    (hreceived : receivedBytes calls = ByteArray.empty)
    (hsent : sentBytes calls = ByteArray.empty) :
    c.Carries c' [] calls ByteArray.empty := by
  refine ⟨?_, ?_, hactive, by rw [hin], by rw [hout]⟩
  · intro _ s before hs
    rw [hreceived, ByteArray.append_empty, List.append_nil]
    exact hs.of_eq hin hactive
  · rw [hsent, hout, ByteArray.append_empty, ByteArray.empty_append]

theorem carries_refl (c : Connection) : c.Carries c [] [] ByteArray.empty :=
  carries_of_still rfl rfl id rfl rfl

/-! ## Opening and closing -/

theorem carries_equip (c : Connection) (socket : Option Socket) :
    c.Carries (c.equip socket) [] [] ByteArray.empty := by
  cases socket with
  | none => exact carries_refl c
  | some s => exact carries_of_still rfl rfl id rfl rfl

theorem carries_markOpen (c : Connection) : c.Carries c.markOpen [] [] ByteArray.empty := by
  unfold markOpen
  by_cases hstate : c.state = .connecting
  · rw [if_pos hstate]
    refine carries_of_still rfl rfl (fun _ => ?_) rfl rfl
    unfold isActive
    rw [hstate]
    rfl
  · rw [if_neg hstate]
    exact carries_refl c

theorem isActive_close (c : Connection) : c.close.isActive = false := by
  unfold close
  by_cases hactive : c.isActive = true
  · rw [if_pos hactive]
    rfl
  · rw [if_neg hactive]
    exact Bool.eq_false_iff.mpr hactive

-- No connection is active behind a close.
theorem active_of_close {c : Connection} {p : Prop} (h : c.close.isActive = true) : p := by
  rw [isActive_close] at h
  cases h

theorem inbound_close (c : Connection) : c.close.inbound = c.inbound := by
  unfold close
  split <;> rfl

theorem outbound_close (c : Connection) : c.close.outbound = c.outbound := by
  unfold close
  split <;> rfl

-- A connection is closed in the middle of an operation, after calls that
-- transferred nothing.
theorem carries_close (c : Connection) {calls : List SocketCall}
    (hreceived : receivedBytes calls = ByteArray.empty)
    (hsent : sentBytes calls = ByteArray.empty) :
    c.Carries c.close [] calls ByteArray.empty :=
  carries_of_still (inbound_close c) (outbound_close c) active_of_close hreceived hsent

theorem carries_fail (c : Connection) (fault : Fault) {calls : List SocketCall}
    (hreceived : receivedBytes calls = ByteArray.empty)
    (hsent : sentBytes calls = ByteArray.empty) :
    c.Carries (c.fail fault) [] calls ByteArray.empty :=
  carries_of_still (inbound_close _) (outbound_close _) active_of_close hreceived hsent

-- A new connection has read nothing and holds nothing.
theorem heard_of_register {s : Socket} {address : SocketAddress} {token limit : Nat}
    {interest : Interest} {state : ConnectionState} {c : Connection}
    (h : register s address token interest state limit = .ok c) :
    c.Heard ByteArray.empty [] ∧ c.outbound.bytes = ByteArray.empty ∧
      c.inbound.limit = limit ∧ c.outbound.limit = limit ∧ c.state = state := by
  unfold register at h
  split at h
  · cases h
  · rw [Except.ok.injEq] at h
    rw [← h]
    refine ⟨⟨?_, fun _ => ?_⟩, rfl, rfl, rfl, rfl⟩
    · rw [split_empty]
      rfl
    · rw [split_empty]
      exact ⟨⟨by simp, Nat.zero_le _⟩, rfl⟩

/-! ## Registrations -/

-- The three ways in which asking for an interest can end: the system need not
-- be told, it agrees, or it refuses and the connection is closed.
theorem setInterest_cases (c : Connection) (interest : Interest) :
    (c.setInterest interest = (c, []) ∧
        ∀ r, c.registration = some r → r.interest = interest) ∨
      (∃ r, c.registration = some r ∧ r.interest ≠ interest ∧ c.socket.watch.1 = .ok () ∧
        c.setInterest interest = ({ c with
          registration := some { r with interest := interest }
          socket := c.socket.watch.2 }, [.watch interest (.ok ())])) ∨
      (∃ r fault, c.registration = some r ∧ r.interest ≠ interest ∧
        c.socket.watch.1 = .error fault ∧
        c.setInterest interest
          = ({ c with socket := c.socket.watch.2 }.close, [.watch interest (.error fault)])) := by
  cases hreg : c.registration with
  | none =>
      left
      refine ⟨?_, fun r hr => (by cases hr)⟩
      unfold setInterest
      rw [hreg]
  | some r =>
      unfold setInterest
      rcases r.setInterest_cases c.socket interest with
        ⟨hsame, hset⟩ | ⟨hother, hanswer, hset⟩ | ⟨fault, hother, hanswer, hset⟩
      · left
        refine ⟨?_, fun r' hr => ?_⟩
        · simp only [hreg, hset]
          rw [← hreg]
        · cases hr
          exact hsame
      · right
        left
        refine ⟨r, rfl, hother, hanswer, ?_⟩
        simp only [hreg, hset]
      · right
        right
        refine ⟨r, fault, rfl, hother, hanswer, ?_⟩
        simp only [hreg, hset]

theorem carries_setInterest (c : Connection) (interest : Interest) :
    c.Carries (c.setInterest interest).1 [] (c.setInterest interest).2 ByteArray.empty := by
  rcases c.setInterest_cases interest with ⟨h, _⟩ | ⟨r, _, _, _, h⟩ | ⟨r, fault, _, _, _, h⟩
  · rw [h]
    exact carries_refl c
  · rw [h]
    exact carries_of_still rfl rfl id rfl rfl
  · rw [h]
    exact carries_of_still (inbound_close _) (outbound_close _) active_of_close rfl rfl

/-! ## Reading -/

-- Bytes were read and fed. Whoever is active afterwards met no line that was too
-- long, so what the framer holds is the unended line of the longer stream.
theorem carries_of_feed {c c' : Connection} (hactive : c.isActive = true) (data : ByteArray)
    (hin : c'.inbound = (c.inbound.feed data).framer) (hout : c'.outbound = c.outbound)
    (hgoes : c'.isActive = true → (c.inbound.feed data).refusal = none) :
    c.Carries c' (c.inbound.feed data).messages.toList [.read (.ok data)] ByteArray.empty := by
  have hlim : (c.inbound.feed data).framer.limit = c.inbound.limit := by
    unfold Framer.feed Framer.feedInto
    exact Framer.limit_feedLines _ _ _ _
  refine ⟨?_, ?_, fun _ => hactive, ?_, by rw [hout]⟩
  · intro hlimit s before hs
    rcases hs.held hactive with ⟨hfits, hpend⟩
    have hreads : (c.inbound.feed data).Reads c.inbound.limit []
        (Split.append ⟨[], (split s).rest⟩ (split data)) := by
      rw [← hpend]
      exact Framer.reads_feedLines (split data).lines (split data).rest c.inbound hlimit #[]
    have hreceived : receivedBytes [.read (.ok data)] = data := ByteArray.append_empty
    rw [hreceived]
    refine ⟨?_, fun hc => ?_⟩
    · rw [hin, hlim, split_append, Split.within_append_of_lines hfits.1, messagesOf_append,
        hs.messages, Split.within_of_fits hfits, hreads.messages]
      rfl
    · have hnone := hgoes hc
      rw [hin, hlim, split_append]
      refine ⟨Split.fits_append_iff.mpr ⟨hfits.1, hreads.accepted.mp hnone⟩, ?_⟩
      rw [Split.rest_append]
      exact hreads.pending hnone
  · rw [hout, ByteArray.append_empty]
    exact ByteArray.empty_append.symm
  · rw [hin]
    exact hlim

-- One pass of the loop is one call, and only bytes that were fed bring messages.
theorem carries_readPass {c c' : Connection} {answer : ReadAnswer} {ms : List Message}
    (hactive : c.isActive = true) (h : c.ReadPass answer c' ms) :
    c.Carries c' ms [.read answer] ByteArray.empty := by
  cases h with
  | again fault => exact carries_of_still rfl rfl id rfl rfl
  | fails fault => exact carries_fail c fault rfl rfl
  | ends data hnone =>
      -- An empty answer is the end of the stream.
      refine carries_close c ?_ rfl
      rw [ByteArray.size_eq_zero_iff.mp hnone]
      rfl
  | refused data o =>
      -- The line that was too long closes the connection, and the lines before it
      -- have been framed.
      exact carries_of_feed hactive data (inbound_close _) (outbound_close _) active_of_close
  | fed data _ haccepted => exact carries_of_feed hactive data rfl rfl (fun _ => haccepted)

-- The answers are used up one call at a time, and the bytes of each go behind
-- those that were read before.
theorem carries_readFrom (answers : List ReadAnswer) (c : Connection) :
    c.Carries (readFrom answers c).connection (readFrom answers c).messages
      (readFrom answers c).calls ByteArray.empty :=
  readFrom_law (R := fun c ms calls c' => c.Carries c' ms calls ByteArray.empty)
    Carries.trans_still (fun _ _ => carries_of_still rfl rfl id rfl rfl)
    (fun _ _ _ _ => carries_of_still rfl rfl id rfl rfl) carries_readPass answers c

theorem carries_readReady (c : Connection) :
    c.Carries c.readReady.connection c.readReady.messages c.readReady.calls ByteArray.empty :=
  carries_readFrom c.socket.reads c

/-! ## Writing -/

-- The socket takes the first bytes of the queue and they leave it.
theorem carries_consume (c : Connection) (n : Nat) :
    c.Carries { c with outbound := c.outbound.consume n } []
      [.write c.outbound.bytes (.ok n)] ByteArray.empty := by
  refine ⟨?_, ?_, id, rfl, rfl⟩
  · intro _ s before hs
    have hreceived : receivedBytes [.write c.outbound.bytes (.ok n)] = ByteArray.empty := rfl
    rw [hreceived, ByteArray.append_empty, List.append_nil]
    exact hs.of_eq rfl id
  · apply octets_injective
    simp only [sentBytes, SocketCall.sent, Buffer.consume, octets_append, octets_empty,
      List.append_nil, octets_extract, List.drop_zero, Nat.sub_zero]
    rw [← length_octets, ← List.length_drop, List.take_length, List.take_append_drop]

-- One pass over the queue is one write call, and what it says was taken is what
-- left the queue.
theorem carries_writePass {c c' : Connection} {answer result : Except Fault Nat}
    (h : c.WritePass answer c' result) :
    c.Carries c' [] [.write c.outbound.bytes result] ByteArray.empty := by
  cases h with
  | again fault => exact carries_of_still rfl rfl id rfl rfl
  | fails fault => exact carries_fail c fault rfl rfl
  | ends n =>
      -- A socket that takes nothing is treated as closed.
      refine carries_close c rfl ?_
      apply octets_injective
      simp [sentBytes, SocketCall.sent]
  | taken n => exact carries_consume c (min n c.outbound.size)

theorem carries_flushFrom (answers : List (Except Fault Nat)) (c : Connection) :
    c.Carries (flushFrom answers c).1 [] (flushFrom answers c).2 ByteArray.empty :=
  flushFrom_law (R := fun c calls c' => c.Carries c' [] calls ByteArray.empty)
    Carries.trans_still (fun _ _ => carries_of_still rfl rfl id rfl rfl)
    (fun _ _ _ _ => carries_of_still rfl rfl id rfl rfl) (fun _ _ => carries_writePass) answers c

theorem carries_flushReady (c : Connection) :
    c.Carries c.flushReady.1 [] c.flushReady.2 ByteArray.empty := by
  unfold flushReady
  have hflush := carries_flushFrom c.socket.writes c
  by_cases hdry : ((flushFrom c.socket.writes c).1.isActive
      && (flushFrom c.socket.writes c).1.outbound.isEmpty) = true
  · simp only [if_pos hdry]
    exact hflush.trans (carries_setInterest _ .readable)
  · simp only [if_neg hdry]
    exact hflush

-- One event moves the bytes that it says there are. Reading comes first, so what
-- came in before an error or a hangup is framed.
theorem carries_handle (c : Connection) (e : Event) :
    c.Carries (c.handle e).connection (c.handle e).messages (c.handle e).calls
      ByteArray.empty :=
  handle_law (R := fun c ms calls c' => c.Carries c' ms calls ByteArray.empty)
    carries_refl Carries.trans_still carries_readReady carries_flushReady
    (fun c => carries_close c rfl rfl) c e

/-! ## Queueing -/

-- Bytes at the end of the queue are no transfer yet.
theorem carries_queue (c : Connection) {queue : Buffer} {data : ByteArray}
    (hbytes : queue.bytes = c.outbound.bytes ++ data) (hlimit : queue.limit = c.outbound.limit) :
    c.Carries { c with outbound := queue } [] [] data := by
  refine ⟨?_, ?_, id, rfl, hlimit⟩
  · intro _ s before hs
    have hreceived : receivedBytes [] = ByteArray.empty := rfl
    rw [hreceived, ByteArray.append_empty, List.append_nil]
    exact hs.of_eq rfl id
  · rw [hbytes]
    exact ByteArray.empty_append.symm

-- A message finds room and goes to the end of the queue, or the connection is
-- closed and the queue keeps what it has. The interest is asked for only when
-- the queue was empty.
theorem queueMessage_cases (c : Connection) (m : Message) :
    ((wordBound ≤ c.outbound.size + (m.size + 1) ∨
        c.outbound.limit < c.outbound.size + (m.size + 1)) ∧
      (c.queueMessage m).connection = c.close ∧ (c.queueMessage m).calls = []) ∨
    (¬ (wordBound ≤ c.outbound.size + (m.size + 1) ∨
        c.outbound.limit < c.outbound.size + (m.size + 1)) ∧
      ∃ queue : Buffer, queue.bytes = c.outbound.bytes ++ m.wire ∧
        queue.limit = c.outbound.limit ∧
        (c.queueMessage m).connection
          = (if c.outbound.isEmpty then ({ c with outbound := queue }.setInterest .both).1
            else { c with outbound := queue }) ∧
        (c.queueMessage m).calls
          = (if c.outbound.isEmpty then ({ c with outbound := queue }.setInterest .both).2
            else [])) := by
  unfold queueMessage
  rcases c.outbound.appendLine_message_cases m with
    ⟨hfull, herr⟩ | ⟨hroom, queue, hok, hbytes, hlimit⟩
  · left
    rw [herr]
    exact ⟨hfull, rfl, rfl⟩
  · right
    refine ⟨hroom, queue, hbytes, hlimit, ?_⟩
    simp only [hok, Option.getD_some]
    by_cases hempty : c.outbound.isEmpty = true
    · simp only [if_pos hempty, and_self]
    · simp only [if_neg hempty, and_self]

/-- A message is queued as one whole line, or the connection is not active
    afterwards and nothing of the message is queued. -/
theorem carries_queueMessage (c : Connection) (m : Message) :
    c.Carries (c.queueMessage m).connection [] (c.queueMessage m).calls m.wire ∨
      (c.Carries (c.queueMessage m).connection [] (c.queueMessage m).calls ByteArray.empty ∧
        (c.queueMessage m).connection.isActive = false) := by
  rcases c.queueMessage_cases m with
    ⟨_, hclosed, hcalls⟩ | ⟨_, queue, hbytes, hlimit, hconnection, hcalls⟩
  · right
    rw [hclosed, hcalls]
    exact ⟨carries_close c rfl rfl, isActive_close c⟩
  · left
    rw [hconnection, hcalls]
    split
    · have h := (carries_queue c hbytes hlimit).trans (carries_setInterest _ .both)
      rwa [ByteArray.append_empty] at h
    · exact carries_queue c hbytes hlimit

-- Bytes are queued and both interests asked for, or they are refused.
theorem queueBytes_cases (c : Connection) (data : ByteArray) :
    ((wordBound ≤ c.outbound.size + data.size ∨
        c.outbound.limit < c.outbound.size + data.size) ∧
      c.queueBytes data = ⟨c.close, [],
        some (.overflow ⟨c.outbound.size, data.size, c.outbound.limit⟩)⟩) ∨
    (¬ (wordBound ≤ c.outbound.size + data.size ∨
        c.outbound.limit < c.outbound.size + data.size) ∧
      ∃ queue : Buffer, queue.bytes = c.outbound.bytes ++ data ∧
        queue.limit = c.outbound.limit ∧
        c.queueBytes data = ⟨({ c with outbound := queue }.setInterest .both).1,
          ({ c with outbound := queue }.setInterest .both).2, none⟩) := by
  unfold queueBytes
  rcases c.outbound.append_cases data with ⟨hfull, herr⟩ | ⟨hroom, queue, hok, hbytes, hlimit⟩
  · left
    rw [herr]
    exact ⟨hfull, rfl⟩
  · right
    refine ⟨hroom, queue, hbytes, hlimit, ?_⟩
    rw [hok]

-- Bytes are queued exactly if they are not refused.
theorem carries_queueBytes (c : Connection) (data : ByteArray) :
    c.Carries (c.queueBytes data).connection [] (c.queueBytes data).calls
      (match (c.queueBytes data).refusal with
        | none => data
        | some _ => ByteArray.empty) := by
  rcases c.queueBytes_cases data with ⟨_, hrefused⟩ | ⟨_, queue, hbytes, hlimit, hqueued⟩
  · rw [hrefused]
    exact carries_close c rfl rfl
  · rw [hqueued]
    have h := (carries_queue c hbytes hlimit).trans (carries_setInterest _ .both)
    rwa [ByteArray.append_empty] at h

end Connection

end LineChat
