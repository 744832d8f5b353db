import LineChat.Proofs.Session.Work

/-!
# The Account of a Client

What a client has read, what it was asked to send, and what it did.

A client has one connection in its life. While it is there, the messages that
were received, whether they were taken or still wait to be, are the records of
the bytes that were read, and the bytes that were sent with those that are
queued are the ones that were fed and not refused. When the connection has
ended the messages stay, and the queue is lost. `ClientHistory.Sound` says all
of it, and each operation keeps it: an operation either leaves the client as it
is, or opens the connection, or works on it with acts that carry both streams.

## Main definitions

* `Client.Moves`: An operation has moved the streams of the connection.
* `ClientHistory.Sound`: The account of a client.
* `fedBytes`: The bytes that a client was fed and took.

## Theorems

* `Works.moves`: Whoever works on a connection moves its streams.
* `sound_serve`: Every operation keeps the account.
* `Sound.idle`: The account of a client that has nothing left to send.
* `client_accounts_for_both_streams`: The account of every history.
-/

namespace LineChat

namespace Client

/-- An operation has worked on the connection `c`: messages have come in, bytes
    were queued, and afterwards the connection is still there or the client has
    ended. -/
def Moves (cl cl' : Client) (c : Connection) (calls : List SocketCall) (queued : ByteArray) :
    Prop :=
  ∃ c' ms, c.Carries c' ms calls queued ∧ cl'.messages = cl.messages ++ ms ∧
    cl'.config = cl.config ∧
    (cl'.connection = some c' ∨ cl'.connection = none ∧ cl'.ended = true)

-- Giving up the connection makes a call that transfers nothing.
theorem carries_release (c : Connection) : c.Carries c [] c.release.2 ByteArray.empty := by
  unfold Connection.release
  cases c.registration with
  | none => exact c.carries_refl
  | some r => exact Connection.carries_of_still rfl rfl id rfl rfl

/-- Whoever works on a connection moves its streams. The release that may come
    at the end transfers nothing. -/
theorem Works.moves {cl cl' : Client} {c : Connection} {queued : ByteArray}
    {calls : List SocketCall} (h : cl.Works c queued cl' calls) :
    cl.Moves cl' c calls queued := by
  cases h with
  | keeps c' ms calls hacts => exact ⟨c', ms, hacts.carries, rfl, rfl, Or.inl rfl⟩
  | ends c' ms calls hacts =>
      have hdown := hacts.carries.trans (carries_release c')
      rw [List.append_nil, ByteArray.append_empty] at hdown
      exact ⟨c', ms, hdown, rfl, rfl, Or.inr ⟨rfl, rfl⟩⟩

end Client

namespace ClientHistory

/-- The account of a client with a limit: the messages are the records of the
    bytes that were read, and the bytes that were sent or are queued are those
    that were fed. A client without a connection has lost its queue, or was
    never connected. -/
structure Sound (h : ClientHistory) (limit : Nat) : Prop where
  config : h.client.config.maxBuffer = limit
  live : ∀ c, h.client.connection = some c → c.inbound.limit = limit ∧
    c.Heard (receivedBytes h.calls) (h.popped ++ h.client.messages) ∧
    sentBytes h.calls ++ c.outbound.bytes = h.queued
  lost : h.client.connection = none →
    h.popped ++ h.client.messages = messagesOf ((split (receivedBytes h.calls)).within limit) ∧
    ∃ rest, sentBytes h.calls ++ rest = h.queued
  fresh : h.client.connection = none → h.client.ended = false →
    receivedBytes h.calls = ByteArray.empty ∧ sentBytes h.calls = ByteArray.empty ∧
    h.queued = ByteArray.empty

theorem sound_start (config : ClientConfig) :
    (start (Client.ofConfig config)).Sound config.maxBuffer := by
  refine ⟨rfl, fun c hc => (by cases hc), fun _ => ⟨?_, ByteArray.empty, rfl⟩,
    fun _ _ => ⟨rfl, rfl, rfl⟩⟩
  exact (messagesOf_split_empty config.maxBuffer).symm

-- The equipment of a socket changes nothing that the account speaks of.
theorem sound_equip {h : ClientHistory} {limit : Nat} (hs : h.Sound limit)
    (socket : Option Socket) : { h with client := h.client.equip socket }.Sound limit := by
  have hnone : (h.client.equip socket).connection = none → h.client.connection = none :=
    Option.map_eq_none_iff.mp
  refine ⟨hs.config, fun c hc => ?_, fun hc => hs.lost (hnone hc), fun hc => hs.fresh (hnone hc)⟩
  rcases Option.map_eq_some_iff.mp hc with ⟨c₀, hc₀, rfl⟩
  rcases hs.live c₀ hc₀ with ⟨hin, hheard, hsent⟩
  cases socket with
  | none => exact ⟨hin, hheard, hsent⟩
  | some socket => exact ⟨hin, hheard.of_eq rfl id, hsent⟩

-- The connection has gone from one state to another, or has come to its end and
-- taken with it what was queued.
theorem sound_moves {h : ClientHistory} {limit : Nat} (hlimit : limit < wordBound)
    (hs : h.Sound limit) {c : Connection} (hc : h.client.connection = some c) {o : Client.Outcome}
    {queued : ByteArray} (hmoves : h.client.Moves o.client c o.calls queued) :
    { h.note o with queued := h.queued ++ queued }.Sound limit := by
  rcases hs.live c hc with ⟨hin, hheard, hsent⟩
  rcases hmoves with ⟨c', ms, hcarries, hmessages, hconfig, hend⟩
  have hheard' : c'.Heard (receivedBytes (h.calls ++ o.calls))
      (h.popped ++ o.client.messages) := by
    rw [receivedBytes_append, hmessages, ← List.append_assoc]
    exact hcarries.heard (by rw [hin]; exact hlimit) _ _ hheard
  have hsent' : sentBytes (h.calls ++ o.calls) ++ c'.outbound.bytes = h.queued ++ queued := by
    rw [sentBytes_append, ByteArray.append_assoc, ← hcarries.sent, ← ByteArray.append_assoc, hsent]
  have hin' : c'.inbound.limit = limit := hcarries.inLimit.trans hin
  refine ⟨(congrArg (·.maxBuffer) hconfig).trans hs.config, fun c₁ hc₁ => ?_,
    fun _ => ⟨?_, _, hsent'⟩, fun hnone hended => ?_⟩
  · have hsome : o.client.connection = some c₁ := hc₁
    rcases hend with hthere | ⟨hgone, _⟩
    · rw [hthere, Option.some.injEq] at hsome
      rw [← hsome]
      exact ⟨hin', hheard', hsent'⟩
    · rw [hgone] at hsome
      cases hsome
  · rw [← hin']
    exact hheard'.messages
  · rcases hend with hthere | ⟨_, hover⟩
    · exact absurd (hthere.symm.trans hnone) (by simp only [reduceCtorEq, not_false_eq_true])
    · exact absurd (hover.symm.trans hended) (by simp only [Bool.true_eq_false, not_false_eq_true])

-- An operation that has left the client as it is.
theorem sound_still {h : ClientHistory} {limit : Nat} (hs : h.Sound limit) {o : Client.Outcome}
    (hclient : o.client = h.client) (hcalls : o.calls = []) : (h.note o).Sound limit := by
  have hsame : (h.note o).calls = h.calls := by
    unfold note
    rw [hcalls]
    exact List.append_nil _
  refine ⟨?_, ?_, ?_, ?_⟩
  · exact (congrArg (·.config.maxBuffer) hclient).trans hs.config
  · intro c hc
    rw [hsame]
    rw [show (h.note o).client = h.client from hclient] at hc ⊢
    exact hs.live c hc
  · intro hc
    rw [hsame]
    rw [show (h.note o).client = h.client from hclient] at hc ⊢
    exact hs.lost hc
  · intro hc
    rw [hsame]
    rw [show (h.note o).client = h.client from hclient] at hc ⊢
    exact hs.fresh hc

-- A client that was never connected has nothing behind it.
theorem sound_connected {h : ClientHistory} {limit : Nat} (hs : h.Sound limit)
    (hnone : h.client.connection = none) (hended : h.client.ended = false) {c : Connection}
    (hheard : c.Heard ByteArray.empty []) (hempty : c.outbound.bytes = ByteArray.empty)
    (hin : c.inbound.limit = limit) {o : Client.Outcome}
    (hclient : o.client = { h.client with connection := some c })
    (hcalls : o.calls = [.watch .both (.ok ())]) : (h.note o).Sound limit := by
  rcases hs.fresh hnone hended with ⟨hreceived, hsent, hqueued⟩
  have hmessages : h.popped ++ h.client.messages = [] := by
    rw [(hs.lost hnone).1, hreceived]
    exact messagesOf_split_empty limit
  have hreceived' : receivedBytes (h.calls ++ o.calls) = ByteArray.empty := by
    rw [receivedBytes_append, hreceived, hcalls]
    rfl
  have hsent' : sentBytes (h.calls ++ o.calls) = ByteArray.empty := by
    rw [sentBytes_append, hsent, hcalls]
    rfl
  have hconnection : (h.note o).client.connection = some c := congrArg (·.connection) hclient
  refine ⟨?_, fun c' hc' => ?_, fun hc' => ?_, fun hc' => ?_⟩
  · exact (congrArg (·.config.maxBuffer) hclient).trans hs.config
  · rw [hconnection, Option.some.injEq] at hc'
    subst hc'
    refine ⟨hin, ?_, ?_⟩
    · rw [show (h.note o).calls = h.calls ++ o.calls from rfl, hreceived',
        show (h.note o).popped = h.popped from rfl,
        show (h.note o).client.messages = h.client.messages from congrArg (·.messages) hclient,
        hmessages]
      exact hheard
    · rw [show (h.note o).calls = h.calls ++ o.calls from rfl, hsent', hempty]
      exact hqueued.symm
  · rw [hconnection] at hc'
    cases hc'
  · rw [hconnection] at hc'
    cases hc'

-- What was fed is queued unless it was refused.
theorem serve_feed (h : ClientHistory) (socket : Socket) (data : ByteArray) :
    h.serve (.feed socket data) = { h.note ((h.client.equip (some socket)).feed data) with
      queued := h.queued ++ (match ((h.client.equip (some socket)).feed data).answer with
        | .ok () => data
        | .error _ => ByteArray.empty) } := by
  have hdef : h.serve (.feed socket data) = { h.note ((h.client.equip (some socket)).feed data) with
      queued := match ((h.client.equip (some socket)).feed data).answer with
        | .ok () => h.queued ++ data
        | .error _ => h.queued } := rfl
  rw [hdef]
  cases ((h.client.equip (some socket)).feed data).answer with
  | ok => rfl
  | error e => rw [ByteArray.append_empty]

/-- Every operation keeps the account. -/
theorem sound_serve {h : ClientHistory} {limit : Nat} (hlimit : limit < wordBound)
    (hs : h.Sound limit) (request : ClientRequest) : (h.serve request).Sound limit := by
  cases request with
  | connect dialler target =>
      rcases h.client.connect_cases dialler target with
        ⟨hclient, hcalls⟩ | ⟨hnone, hended, c, ⟨_, _, hdialled⟩, hclient, hcalls⟩
      · exact sound_still hs hclient hcalls
      · rcases Connection.heard_of_register hdialled with ⟨hheard, hempty, hin, _, _⟩
        exact sound_connected hs hnone hended hheard hempty (hin.trans hs.config) hclient hcalls
  | update socket wait =>
      have he := sound_equip hs (some socket)
      rcases (h.client.equip (some socket)).update_works wait with
        ⟨hclient, hcalls⟩ | ⟨c, hc, hworks⟩
      · exact sound_still he hclient hcalls
      · have hm := sound_moves hlimit he hc hworks.moves
        rw [ByteArray.append_empty] at hm
        exact hm
  | feed socket data =>
      have he := sound_equip hs (some socket)
      rcases (h.client.equip (some socket)).feed_works data with
        ⟨hclient, hcalls, hnothing⟩ | ⟨c, hc, hworks⟩
      · have hnone : (match ((h.client.equip (some socket)).feed data).answer with
            | .ok () => data
            | .error _ => ByteArray.empty) = ByteArray.empty := by
          cases hanswer : ((h.client.equip (some socket)).feed data).answer with
          | ok => exact hnothing hanswer
          | error e => rfl
        rw [serve_feed, hnone, ByteArray.append_empty]
        exact sound_still he hclient hcalls
      · rw [serve_feed]
        exact sound_moves hlimit he hc hworks.moves
  | pop =>
      unfold serve Client.pop
      cases hmessages : h.client.messages with
      | nil => exact hs
      | cons m ms =>
          -- The oldest message changes its place, but not its position.
          have hall : h.popped ++ h.client.messages = (h.popped ++ [m]) ++ ms := by
            rw [hmessages, List.append_assoc]
            rfl
          refine ⟨hs.config, fun c hc => ?_, fun hc => ?_, hs.fresh⟩
          · have hlive := hs.live c hc
            rwa [hall] at hlive
          · have hlost := hs.lost hc
            rwa [hall] at hlost

namespace Sound

variable {h : ClientHistory} {limit : Nat}

theorem messages (hs : h.Sound limit) : h.popped ++ h.client.messages
    = messagesOf ((split (receivedBytes h.calls)).within limit) := by
  cases hc : h.client.connection with
  | none => exact (hs.lost hc).1
  | some c =>
      rcases hs.live c hc with ⟨hin, hheard, _⟩
      rw [← hin]
      exact hheard.messages

theorem sent (hs : h.Sound limit) : ∃ rest, sentBytes h.calls ++ rest = h.queued := by
  cases hc : h.client.connection with
  | none => exact (hs.lost hc).2
  | some c => exact ⟨c.outbound.bytes, (hs.live c hc).2.2⟩

-- A client that has not ended and has an empty queue has sent all it was fed,
-- and has read no line that was too long.
theorem idle (hs : h.Sound limit) (hended : h.client.ended = false)
    (hidle : ∀ c, h.client.connection = some c → c.isActive = true ∧ c.outbound.isEmpty = true) :
    sentBytes h.calls = h.queued ∧ (split (receivedBytes h.calls)).Fits limit := by
  cases hc : h.client.connection with
  | none =>
      rcases hs.fresh hc hended with ⟨hreceived, hsent, hqueued⟩
      rw [hsent, hqueued, hreceived]
      exact ⟨rfl, fits_split_empty limit⟩
  | some c =>
      rcases hs.live c hc with ⟨hin, hheard, hsent⟩
      rcases hidle c hc with ⟨hactive, hempty⟩
      rw [c.outbound.isEmpty_iff.mp hempty, ByteArray.append_empty] at hsent
      rw [← hin]
      exact ⟨hsent, (hheard.held hactive).1⟩

end Sound

end ClientHistory

/-! ## Histories -/

/-- The bytes of the feeds that were answered with yes, one after the other.
    Handing out a message has no answer. -/
def fedBytes : List ClientRequest → List (Except SessionError Unit) → ByteArray
  | .pop :: requests, answers => fedBytes requests answers
  | .feed _ data :: requests, .ok () :: answers => data ++ fedBytes requests answers
  | _ :: requests, _ :: answers => fedBytes requests answers
  | _, [] => ByteArray.empty
  | [], _ => ByteArray.empty

namespace ClientHistory

-- Each operation but one that hands out a message adds an answer, and its bytes
-- come before those of the operations behind it.
theorem queued_serve (h : ClientHistory) (request : ClientRequest) :
    ∃ answers, (h.serve request).answers = h.answers ++ answers ∧
      ∀ requests later, (h.serve request).queued ++ fedBytes requests later
        = h.queued ++ fedBytes (request :: requests) (answers ++ later) := by
  cases request with
  | connect dialler target => exact ⟨[_], rfl, fun _ _ => rfl⟩
  | update socket wait => exact ⟨[_], rfl, fun _ _ => rfl⟩
  | feed socket data =>
      refine ⟨[((h.client.equip (some socket)).feed data).answer], rfl, fun requests later => ?_⟩
      rw [serve_feed]
      cases ((h.client.equip (some socket)).feed data).answer with
      | ok => exact ByteArray.append_assoc
      | error e => exact congrArg (· ++ _) ByteArray.append_empty
  | pop =>
      unfold serve Client.pop
      cases h.client.messages with
      | nil => exact ⟨[], (List.append_nil _).symm, fun _ _ => rfl⟩
      | cons m ms => exact ⟨[], (List.append_nil _).symm, fun _ _ => rfl⟩

theorem queued_serveAll (requests : List ClientRequest) (h : ClientHistory) :
    ∃ answers, (serveAll requests h).answers = h.answers ++ answers ∧
      (serveAll requests h).queued = h.queued ++ fedBytes requests answers := by
  induction requests generalizing h with
  | nil => exact ⟨[], (List.append_nil _).symm, ByteArray.append_empty.symm⟩
  | cons request requests ih =>
      rcases queued_serve h request with ⟨first, hfirst, hbytes⟩
      rcases ih (h.serve request) with ⟨later, hlater, hqueued⟩
      refine ⟨first ++ later, ?_, ?_⟩
      · rw [← List.append_assoc, ← hfirst]
        exact hlater
      · rw [← hbytes]
        exact hqueued

theorem sound_serveAll {limit : Nat} (hlimit : limit < wordBound) (requests : List ClientRequest)
    {h : ClientHistory} (hs : h.Sound limit) : (serveAll requests h).Sound limit := by
  induction requests generalizing h with
  | nil => exact hs
  | cons request requests ih => exact ih (sound_serve hlimit hs request)

end ClientHistory

/-- What a client has read, written and handed out, in every history. The bytes
    that it has written and those that are queued are those of the feeds it
    answered with yes, as long as the connection is there. Its calls are those of
    acts, of which reading and writing wait for an answer of the other side, so
    a client that is connecting has read and written nothing. And the messages,
    whether they were handed out or not, are at every moment the records of the
    bytes that were read, up to the first that is too long. -/
theorem client_accounts_for_both_streams (config : ClientConfig)
    (hlimit : config.maxBuffer < wordBound) (requests : List ClientRequest) :
    let h := ClientHistory.serveAll requests (.start (Client.ofConfig config))
    (∀ c, h.client.connection = some c →
      sentBytes h.calls ++ c.outbound.bytes = fedBytes requests h.answers) ∧
    h.client.Life h.calls ∧
    (h.client.state? = some .connecting → ∀ call ∈ h.calls, call.transfers = false) ∧
    h.popped ++ h.client.messages
      = ((split (receivedBytes h.calls)).lines.takeWhile (·.size ≤ config.maxBuffer)).filterMap
        Message.ofLine? := by
  intro h
  have hsound : h.Sound config.maxBuffer :=
    ClientHistory.sound_serveAll hlimit requests (ClientHistory.sound_start config)
  have hlife : h.client.Life h.calls :=
    ClientHistory.life_serveAll requests _ (.fresh rfl rfl)
  rcases ClientHistory.queued_serveAll requests (.start (Client.ofConfig config)) with
    ⟨answers, hanswers, hqueued⟩
  refine ⟨fun c hc => ?_, hlife, fun hconnecting => ?_, hsound.messages⟩
  · have hall : h.answers = answers := hanswers
    have hfed : h.queued = fedBytes requests answers := hqueued.trans ByteArray.empty_append
    rw [hall, ← hfed]
    exact (hsound.live c hc).2.2
  · exact hlife.untouched hconnecting

/-- A client that has fed three bytes and written two of them, and has read a
    line and the beginning of another. -/
theorem client_accounts_for_both_streams_half_way :
    let dialler : Dialler := ⟨Directory.none, .ok (), fun _ => .ok Socket.idle⟩
    let requests : List ClientRequest := [.connect dialler "127.0.0.1:9",
      .feed Socket.idle "hi\n".toUTF8,
      .update ⟨[.ok "ok\nlo".toUTF8], [.ok 2], [], none⟩ (.ok [⟨1, true, true, false, false⟩]),
      .pop]
    let h := ClientHistory.serveAll requests (.start (Client.ofConfig ⟨8, 1⟩))
    8 < wordBound ∧ receivedBytes h.calls = "ok\nlo".toUTF8 ∧
      (∃ c, h.client.connection = some c ∧
        sentBytes h.calls ++ c.outbound.bytes = "hi\n".toUTF8) ∧
      h.client.Life h.calls ∧
      (h.popped ++ h.client.messages).map Message.bytes = ["ok".toUTF8] := by
  intro dialler requests h
  have hlimit : 8 < wordBound := by decide
  have hreceived : receivedBytes h.calls = "ok\nlo".toUTF8 := by decide +kernel
  have hfed : fedBytes requests h.answers = "hi\n".toUTF8 := by decide +kernel
  have hthere : h.client.connection.isSome = true := by decide +kernel
  rcases Option.isSome_iff_exists.mp hthere with ⟨c, hc⟩
  rcases client_accounts_for_both_streams ⟨8, 1⟩ hlimit requests with
    ⟨hsent, hlife, _, hmessages⟩
  have hname : ClientHistory.serveAll requests (.start (Client.ofConfig ⟨8, 1⟩)) = h := rfl
  rw [hname] at hsent hlife hmessages
  refine ⟨hlimit, hreceived, ⟨c, hc, (hsent c hc).trans hfed⟩, hlife, ?_⟩
  rw [hmessages, hreceived]
  decide +kernel

end LineChat
