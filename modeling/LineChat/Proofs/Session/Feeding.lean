import LineChat.Proofs.Session.Lifecycle
import LineChat.Proofs.Session.Wakeup

/-!
# Feeding a Client

What a client knows when its bytes were taken.

Bytes that do not fit are refused, and the client is closed. Bytes that fit are
queued, both interests are asked for, and the answer is yes. The system may still
refuse the interest. That closes the connection, but it is no part of the answer:
the bytes are queued on a connection that will never write them. The connection
stays with the client until the next update, and further feeds are answered with
yes in the meantime.

So an answer of yes says nothing about the connection, and the record of calls
says all: the connection of a live client is active exactly if no interest was
ever refused. Whatever else ends a connection does so in an update, and an update
keeps no connection that has ended (`update_keeps_active`). One half of that is a
law about acts, as no act leaves a connection active after a refusal
(`Acts.granted`). The other half is one about histories.

## Main definitions

* `SocketCall.isRefusal`: The system has refused an interest.

## Theorems

* `Acts.granted`: Whoever is still active was refused nothing.
* `feed_cases`: Bytes are refused, or queued whatever becomes of the interest.
* `active_iff_granted`: The connection of a live client in every history.
* `fed_bytes_wait_until_refused`: What a feed comes to in every history.
-/

namespace LineChat

/-- The system has refused an interest that was asked for. -/
def SocketCall.isRefusal : SocketCall → Bool
  | watch _ (.error _) => true
  | _ => false

namespace Connection

/-! ## Refusals -/

variable {c c' : Connection} {ms : List Message} {calls : List SocketCall} {queued : ByteArray}

-- Asking for an interest ends an active connection exactly if it is refused.
theorem granted_setInterest {interest : Interest}
    (hc : (c.setInterest interest).1.isActive = true) :
    ∀ call ∈ (c.setInterest interest).2, call.isRefusal = false := by
  rcases c.setInterest_cases interest with ⟨h, _⟩ | ⟨r, _, _, _, h⟩ | ⟨r, fault, _, _, _, h⟩
  · rw [h]
    exact List.forall_mem_nil _
  · rw [h]
    exact List.forall_mem_singleton.mpr rfl
  · rw [h] at hc
    exact active_of_close hc

theorem refused_setInterest {interest : Interest}
    (hc : (c.setInterest interest).1.isActive = false) :
    c.isActive = false ∨ ∃ call ∈ (c.setInterest interest).2, call.isRefusal = true := by
  rcases c.setInterest_cases interest with ⟨h, _⟩ | ⟨r, _, _, _, h⟩ | ⟨r, fault, _, _, _, h⟩
  · rw [h] at hc
    exact Or.inl hc
  · rw [h] at hc
    exact Or.inl hc
  · rw [h]
    exact Or.inr ⟨_, List.mem_singleton_self _, rfl⟩

-- Only the interest that is given up with an empty queue can be refused.
theorem granted_flushReady (hc : c.flushReady.1.isActive = true) :
    ∀ call ∈ c.flushReady.2, call.isRefusal = false := by
  have hwrites : ∀ call ∈ (flushFrom c.socket.writes c).2, call.isRefusal = false := by
    intro call hcall
    rcases mem_calls_flushFrom _ c call hcall with ⟨offered, answer, rfl⟩
    rfl
  unfold flushReady at hc ⊢
  dsimp only at hc ⊢
  by_cases hdry : ((flushFrom c.socket.writes c).1.isActive
      && (flushFrom c.socket.writes c).1.outbound.isEmpty) = true
  · rw [if_pos hdry] at hc ⊢
    exact List.forall_mem_append.mpr ⟨hwrites, granted_setInterest hc⟩
  · rw [if_neg hdry]
    exact hwrites

theorem Act.granted (h : c.Act ms calls queued c') (hc : c'.isActive = true) :
    ∀ call ∈ calls, call.isRefusal = false := by
  cases h with
  | equip => exact List.forall_mem_nil _
  | answered => exact List.forall_mem_nil _
  | read =>
      intro call hcall
      rcases mem_calls_readFrom _ c call hcall with ⟨answer, rfl⟩
      rfl
  | write => exact granted_flushReady hc
  | queue data =>
      rcases c.queueBytes_cases data with ⟨_, hrefused⟩ | ⟨_, queue, _, _, hqueued⟩
      · rw [hrefused]
        exact List.forall_mem_nil _
      · rw [hqueued] at hc ⊢
        exact granted_setInterest hc
  | close => exact List.forall_mem_nil _

/-- A connection that is still active was refused no interest. -/
theorem Acts.granted (h : c.Acts ms calls queued c') (hc : c'.isActive = true) :
    ∀ call ∈ calls, call.isRefusal = false := by
  induction h with
  | rest => exact List.forall_mem_nil _
  | act _ last ih =>
      exact List.forall_mem_append.mpr ⟨ih (last.carries.active hc), last.granted hc⟩

end Connection

namespace Client

/-! ## Operations -/

variable {cl : Client} {c : Connection}

-- An update that has found a connection ended gives it up.
theorem update_keeps_active {wait : WaitAnswer} (hc : (cl.update wait).client.connection = some c) :
    cl.connection = some c ∨ c.isActive = true := by
  unfold update at hc
  cases hended : cl.ended with
  | true =>
      rw [hended] at hc
      exact Or.inl hc
  | false =>
      cases hthere : cl.connection with
      | none =>
          simp only [hended, hthere, Bool.false_eq_true, if_false] at hc
          cases hc
      | some c₀ =>
          simp only [hended, hthere, Bool.false_eq_true, if_false] at hc
          cases hwait : waitOutcome wait with
          | error fault =>
              rw [hwait] at hc
              exact Or.inl (hthere.symm.trans hc)
          | ok outcome =>
              rw [hwait] at hc
              right
              by_cases hactive : (advance outcome c₀).connection.isActive = true
              · simp only [hactive, if_true, Option.some.injEq] at hc
                rwa [← hc]
              · simp only [hactive, Bool.false_eq_true, if_false] at hc
                cases hc

-- A client that is in some phase and has a connection is live.
theorem phase?_of_connection {p : Phase} (hp : cl.phase? = some p) (hc : cl.connection = some c) :
    cl.phase? = some .live := by
  unfold phase? at hp ⊢
  rw [hc] at hp ⊢
  cases hended : cl.ended with
  | true =>
      rw [hended] at hp
      cases hp
  | false => rfl

/-- The next update that hears of its wait gives up a connection that has ended. -/
theorem update_closes (hlive : cl.phase? = some .live) (hc : cl.connection = some c)
    (hover : c.isActive = false) {wait : WaitAnswer} {outcome : WaitOutcome}
    (hwait : waitOutcome wait = .ok outcome) :
    (cl.update wait).client.phase? = some .closed := by
  have hdown : ¬ (advance outcome c).connection.isActive = true := by
    intro hactive
    rw [(acts_advance outcome c).carries.active hactive] at hover
    cases hover
  unfold update
  simp only [(phase?_eq_live.mp hlive).2, hc, hwait, hdown, Bool.false_eq_true, if_false]
  rfl

/-- Bytes that are fed to a live client do not fit and close it, or they are
    queued and answered with yes, whatever becomes of the interest. -/
theorem feed_cases (hc : cl.connection = some c) (hended : cl.ended = false) {data : ByteArray}
    (hsome : data.size ≠ 0) :
    ((wordBound ≤ c.outbound.size + data.size ∨
        c.outbound.limit < c.outbound.size + data.size) ∧
      (cl.feed data).answer
        = .error (.ofLine (.overflow ⟨c.outbound.size, data.size, c.outbound.limit⟩)) ∧
      (cl.feed data).client.phase? = some .closed) ∨
    (¬ (wordBound ≤ c.outbound.size + data.size ∨
        c.outbound.limit < c.outbound.size + data.size) ∧
      ∃ queue : Buffer, queue.bytes = c.outbound.bytes ++ data ∧
        cl.feed data = ⟨.ok (),
          { cl with connection := some ({ c with outbound := queue }.setInterest .both).1 },
          ({ c with outbound := queue }.setInterest .both).2⟩) := by
  unfold feed
  simp only [hended, hc, if_neg hsome, Bool.false_eq_true, if_false]
  rcases c.queueBytes_cases data with ⟨hfull, hrefused⟩ | ⟨hroom, queue, hbytes, _, hqueued⟩
  · rw [hrefused]
    exact Or.inl ⟨hfull, rfl, rfl⟩
  · rw [hqueued]
    exact Or.inr ⟨hroom, queue, hbytes, rfl⟩

-- A connection that a client still has after a feed ended before it, or was refused
-- the interest that the feed asks for.
theorem ended_of_feed {data : ByteArray} (hc : (cl.feed data).client.connection = some c)
    (hover : c.isActive = false) :
    (∃ c₀, cl.connection = some c₀ ∧ c₀.isActive = false) ∨
      ∃ call ∈ (cl.feed data).calls, call.isRefusal = true := by
  cases hended : cl.ended with
  | true =>
      simp only [feed, hended, if_true] at hc
      exact Or.inl ⟨c, hc, hover⟩
  | false =>
      cases hthere : cl.connection with
      | none =>
          simp only [feed, hended, hthere, Bool.false_eq_true, if_false] at hc
          cases hc
      | some c₀ =>
          by_cases hsize : data.size = 0
          · simp only [feed, hended, hthere, hsize, Bool.false_eq_true, if_false, if_true,
              Option.some.injEq] at hc
            subst hc
            exact Or.inl ⟨c₀, rfl, hover⟩
          · rcases feed_cases hthere hended hsize with ⟨_, _, hclosed⟩ | ⟨_, queue, _, hfed⟩
            · rw [(phase?_eq_closed.mp hclosed).1] at hc
              cases hc
            · rw [hfed, Option.some.injEq] at hc
              subst hc
              rw [hfed]
              rcases Connection.refused_setInterest hover with hover₀ | hrefused
              · exact Or.inl ⟨c₀, rfl, hover₀⟩
              · exact Or.inr hrefused

-- The limit of the queue is that of the client.
theorem Life.outLimit {calls : List SocketCall} (h : cl.Life calls) (hc : cl.connection = some c) :
    c.outbound.limit = cl.config.maxBuffer := by
  cases h with
  | fresh hnone =>
      rw [hnone] at hc
      cases hc
  | live c₀ c' ms calls queued hdialled hacts hthere =>
      rw [hthere, Option.some.injEq] at hc
      subst hc
      rcases hdialled with ⟨socket, address, hdialled⟩
      rcases Connection.heard_of_register hdialled with ⟨_, _, _, hlimit, _⟩
      exact hacts.carries.outLimit.trans hlimit
  | past c₀ c' ms calls queued _ _ hnone =>
      rw [hnone] at hc
      cases hc

end Client

namespace ClientHistory

open Client

/-! ## Histories -/

/-- A connection that has ended, and that the client still has, was refused an
    interest. -/
def EndsRefused (h : ClientHistory) : Prop :=
  ∀ c, h.client.connection = some c → c.isActive = false →
    ∃ call ∈ h.calls, call.isRefusal = true

section EndsRefused

variable {h : ClientHistory}

-- Whoever has ended had ended before.
theorem endsRefused_of_ended (hr : h.EndsRefused) {h' : ClientHistory}
    (hcalls : h.calls <+: h'.calls)
    (hended : ∀ c, h'.client.connection = some c → c.isActive = false →
      ∃ c₀, h.client.connection = some c₀ ∧ c₀.isActive = false) : h'.EndsRefused := by
  intro c hc hover
  rcases hended c hc hover with ⟨c₀, hc₀, hover₀⟩
  rcases hr c₀ hc₀ hover₀ with ⟨call, hmem, hrefused⟩
  exact ⟨call, hcalls.subset hmem, hrefused⟩

-- Another socket does not end a connection.
theorem ended_of_equip {socket : Option Socket} {c : Connection}
    (hc : (h.client.equip socket).connection = some c) (hover : c.isActive = false) :
    ∃ c₀, h.client.connection = some c₀ ∧ c₀.isActive = false := by
  rcases Option.map_eq_some_iff.mp hc with ⟨c₀, hc₀, rfl⟩
  rw [Connection.isActive_equip] at hover
  exact ⟨c₀, hc₀, hover⟩

/-- A feed ends no connection but by a refusal, and an update gives up whatever has
    ended. -/
theorem endsRefused_serve (hr : h.EndsRefused) (request : ClientRequest) :
    (h.serve request).EndsRefused := by
  cases request with
  | connect d target =>
      refine endsRefused_of_ended hr (List.prefix_append _ _) fun c hc hover => ?_
      rcases h.client.connect_cases d target with
        ⟨hclient, _⟩ | ⟨_, _, c', ⟨_, _, hdialled⟩, hclient, _⟩
      · exact ⟨c, (congrArg Client.connection hclient).symm.trans hc, hover⟩
      · have hnew : some c' = some c := (congrArg Client.connection hclient).symm.trans hc
        rcases Connection.heard_of_register hdialled with ⟨_, _, _, _, hstate⟩
        rw [Option.some.injEq] at hnew
        unfold Connection.isActive at hover
        rw [← hnew, hstate] at hover
        cases hover
  | update socket wait =>
      refine endsRefused_of_ended hr (List.prefix_append _ _) fun c hc hover => ?_
      rcases update_keeps_active hc with hthere | hactive
      · exact ended_of_equip hthere hover
      · rw [hactive] at hover
        cases hover
  | feed socket data =>
      intro c hc hover
      rcases ended_of_feed hc hover with ⟨c₁, hc₁, hover₁⟩ | ⟨call, hmem, hrefused⟩
      · rcases ended_of_equip hc₁ hover₁ with ⟨c₀, hc₀, hover₀⟩
        rcases hr c₀ hc₀ hover₀ with ⟨call, hmem, hrefused⟩
        exact ⟨call, List.mem_append_left _ hmem, hrefused⟩
      · exact ⟨call, List.mem_append_right _ hmem, hrefused⟩
  | pop =>
      unfold serve Client.pop
      cases h.client.messages with
      | nil => exact hr
      | cons m ms => exact hr

theorem endsRefused_serveAll (requests : List ClientRequest) (hr : h.EndsRefused) :
    (serveAll requests h).EndsRefused := by
  induction requests generalizing h with
  | nil => exact hr
  | cons request requests ih => exact ih (endsRefused_serve hr request)

/-- The connection of a live client is active exactly if no interest was ever
    refused. -/
theorem active_iff_granted (hlife : h.client.Life h.calls) (hr : h.EndsRefused) {c : Connection}
    (hc : h.client.connection = some c) :
    c.isActive = true ↔ ∀ call ∈ h.calls, call.isRefusal = false := by
  refine ⟨fun hactive => ?_, fun hgranted => ?_⟩
  · generalize h.calls = calls at hlife
    cases hlife with
    | fresh hnone =>
        rw [hnone] at hc
        cases hc
    | live c₀ c' ms calls queued _ hacts hthere =>
        rw [hthere, Option.some.injEq] at hc
        subst hc
        exact List.forall_mem_cons.mpr ⟨rfl, hacts.granted hactive⟩
    | past c₀ c' ms calls queued _ _ hnone =>
        rw [hnone] at hc
        cases hc
  · cases hactive : c.isActive with
    | true => rfl
    | false =>
        rcases hr c hc hactive with ⟨call, hmem, hrefused⟩
        rw [hgranted call hmem] at hrefused
        cases hrefused

/-- In a history from the start a client that has a connection is live. -/
theorem live_of_connection (config : ClientConfig) (requests : List ClientRequest) {c : Connection}
    (hc : (serveAll requests (.start (Client.ofConfig config))).client.connection = some c) :
    (serveAll requests (.start (Client.ofConfig config))).client.phase? = some .live := by
  rcases phase_serveAll (h := .start (Client.ofConfig config)) requests (.fresh rfl rfl) rfl with
    ⟨p, hp⟩
  exact phase?_of_connection hp hc

end EndsRefused

end ClientHistory

/-- What becomes of bytes that are fed to a live client, in every history. They are
    taken exactly if they fit, and are then at the end of the queue; otherwise the
    client is closed. A connection that has taken them is active exactly if no
    interest was ever refused, in this feed or before it. One that is not takes
    more bytes all the same, until the next update closes the client. -/
theorem fed_bytes_wait_until_refused (config : ClientConfig) (requests : List ClientRequest)
    (socket : Socket) (data : ByteArray) (hsome : data.size ≠ 0) :
    let h := ClientHistory.serveAll requests (.start (Client.ofConfig config))
    let o := (h.client.equip (some socket)).feed data
    ∀ c, h.client.connection = some c →
      (o.answer = .ok () ↔ c.outbound.size + data.size < wordBound ∧
        c.outbound.size + data.size ≤ h.client.config.maxBuffer) ∧
      (o.answer = .ok () → ∃ c', o.client.connection = some c' ∧
        c'.outbound.bytes = c.outbound.bytes ++ data ∧
        (c'.isActive = true ↔ ∀ call ∈ h.calls ++ o.calls, call.isRefusal = false)) ∧
      (∀ e, o.answer = .error e → o.client.phase? = some .closed) ∧
      (c.isActive = false → ∀ socket wait outcome, waitOutcome wait = .ok outcome →
        ((h.client.equip (some socket)).update wait).client.phase? = some .closed) := by
  intro h o c hc
  have hlife : h.client.Life h.calls := ClientHistory.life_serveAll requests _ (.fresh rfl rfl)
  have hnothing : (ClientHistory.start (Client.ofConfig config)).EndsRefused := by
    intro c hc
    cases hc
  have hr : h.EndsRefused := ClientHistory.endsRefused_serveAll requests hnothing
  have hlive : h.client.phase? = some .live := ClientHistory.live_of_connection config requests hc
  have hlimit : c.outbound.limit = h.client.config.maxBuffer := hlife.outLimit hc
  have hequip : ∀ socket, (h.client.equip (some socket)).phase? = some .live ∧
      (h.client.equip (some socket)).connection = some (c.equip (some socket)) :=
    fun socket => ⟨(Client.phase?_equip _ _).trans hlive, congrArg (Option.map _) hc⟩
  have hclose : c.isActive = false → ∀ socket wait outcome, waitOutcome wait = .ok outcome →
      ((h.client.equip (some socket)).update wait).client.phase? = some .closed := by
    intro hover socket wait outcome hwait
    rw [← c.isActive_equip (some socket)] at hover
    exact Client.update_closes (hequip socket).1 (hequip socket).2 hover hwait
  have hopen := (Client.phase?_eq_live.mp (hequip socket).1).2
  rcases Client.feed_cases (hequip socket).2 hopen hsome with
    ⟨hfull, hanswer, hclosed⟩ | ⟨hroom, queue, hbytes, hfed⟩
  · change o.answer = _ at hanswer
    change wordBound ≤ c.outbound.size + data.size ∨
      c.outbound.limit < c.outbound.size + data.size at hfull
    rw [hlimit] at hfull
    have hnot : o.answer ≠ .ok () := by
      intro hok
      rw [hanswer] at hok
      cases hok
    exact ⟨⟨fun hok => absurd hok hnot, fun hfits => absurd hfull (by omega)⟩,
      fun hok => absurd hok hnot, fun _ _ => hclosed, hclose⟩
  · change ¬ (wordBound ≤ c.outbound.size + data.size ∨
      c.outbound.limit < c.outbound.size + data.size) at hroom
    rw [hlimit] at hroom
    have hok : o.answer = .ok () := congrArg Client.Outcome.answer hfed
    have hthere : o.client.connection
        = some ({ c.equip (some socket) with outbound := queue }.setInterest .both).1 :=
      congrArg (fun o => o.client.connection) hfed
    refine ⟨⟨fun _ => by omega, fun _ => hok⟩, fun _ => ⟨_, hthere, ?_, ?_⟩, fun e herror => ?_,
      hclose⟩
    · rw [Connection.outbound_setInterest]
      exact hbytes
    · -- The history goes on with this feed, and the law holds of it as well.
      exact ClientHistory.active_iff_granted (h := h.serve (.feed socket data))
        (ClientHistory.life_serve hlife _) (ClientHistory.endsRefused_serve hr _) hthere
    · rw [hok] at herror
      cases herror

/-- A client feeds a line, and the system refuses the interest in writing that it
    had given up before. The answer is yes, and so is the answer to the next line,
    but the connection was closing before that line came. -/
theorem fed_bytes_wait_until_refused_twice :
    let dialler : Dialler := ⟨Directory.none, .ok (), fun _ => .ok Socket.idle⟩
    let refusing : Socket := ⟨[], [], [.error (.errno 12)], none⟩
    let requests : List ClientRequest := [.connect dialler "127.0.0.1:9",
      .update Socket.idle (.ok [⟨1, false, true, false, false⟩]), .feed refusing "a\n".toUTF8]
    let data := "b\n".toUTF8
    let h := ClientHistory.serveAll requests (.start (Client.ofConfig ⟨8, 1⟩))
    let o := (h.client.equip (some Socket.idle)).feed data
    data.size ≠ 0 ∧ ∃ c c', h.client.connection = some c ∧ c.isActive = false ∧
      o.answer = .ok () ∧ o.client.connection = some c' ∧ c'.isActive = false ∧
      c'.outbound.bytes = "a\nb\n".toUTF8 ∧
      ((h.client.equip (some Socket.idle)).update (.ok [])).client.phase? = some .closed := by
  intro dialler refusing requests data h o
  have hsome : data.size ≠ 0 := by decide +kernel
  have hlook : h.client.connection.map (fun c => (c.isActive, c.outbound.bytes))
      = some (false, "a\n".toUTF8) := by decide +kernel
  rcases Option.map_eq_some_iff.mp hlook with ⟨c, hc, hall⟩
  rw [Prod.mk.injEq] at hall
  rcases hall with ⟨hover, hbytes⟩
  rcases fed_bytes_wait_until_refused ⟨8, 1⟩ requests Socket.idle data hsome c hc with
    ⟨_, hqueued, _, hclose⟩
  have hok : o.answer = .ok () := by decide +kernel
  rcases hqueued hok with ⟨c', hc', hbytes', hactive⟩
  have hrefused : ¬ ∀ call ∈ h.calls ++ o.calls, call.isRefusal = false := by decide +kernel
  refine ⟨hsome, c, c', hc, hover, hok, hc', Bool.eq_false_iff.mpr (mt hactive.mp hrefused), ?_,
    hclose hover Socket.idle (.ok []) .timeout rfl⟩
  rw [hbytes', hbytes]
  decide +kernel

/-- A feed is answered with yes though its connection is closing, and so is the
    next one. -/
theorem refused_interest_is_no_answer :
    let dialler : Dialler := ⟨Directory.none, .ok (), fun _ => .ok Socket.idle⟩
    let refusing : Socket := ⟨[], [], [.error (.errno 12)], none⟩
    let requests : List ClientRequest := [.connect dialler "127.0.0.1:9",
      .update Socket.idle (.ok [⟨1, false, true, false, false⟩])]
    let h := ClientHistory.serveAll requests (.start (Client.ofConfig ⟨8, 1⟩))
    let first := (h.client.equip (some refusing)).feed "a\n".toUTF8
    let second := (first.client.equip (some Socket.idle)).feed "b\n".toUTF8
    h.client.state? = some .opened ∧
      first.answer = .ok () ∧ first.client.state? = some .closing ∧
      second.answer = .ok () ∧ second.client.state? = some .closing := by
  decide +kernel

end LineChat
