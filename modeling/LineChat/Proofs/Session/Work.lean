import LineChat.Proofs.Session.Traffic
import LineChat.Session.History

/-!
# The Work of a Client

All that a client ever does to its connection, one act after the other.

Output of a client leaves through two paths, an event and a wait that has come
to nothing, and input may come in the batch that ends the connection. What the
paths have in common is that they are made of the same few acts: `Act` lists
them, each with the messages, the calls and the queued bytes that come of it.
An operation of a client is then nothing but `Acts`, after which it keeps the
connection or releases it and ends (`update_works`, `feed_works`), and its whole
life is a successful start and acts behind it (`life_serveAll`). A law about
every run of a client is one about an act.

Reading and writing need an answer of the other side: these two acts ask for a
connection that is not connecting. So that nothing is read or written while a
client is connecting is no law about the acts, it is what lets an operation be
taken apart into them. A client that is found connecting has therefore not
transferred anything (`Acts.untouched`).

## Main definitions

* `Connection.Act`, `Connection.Acts`: What is done to a connection.
* `Connection.Dialled`: A connection that a client starts with.
* `Client.Works`: An operation has worked on the connection.
* `Client.Life`: The record of a client from its beginning.

## Theorems

* `Acts.carries`: The account of the two streams over many acts.
* `acts_handle`, `acts_advance`: An event and a wait are acts.
* `update_works`, `feed_works`: What an operation comes to.
* `life_serveAll`: Every history is the life of a client.
* `Act.rank_le`, `Acts.untouched`: No state comes back, and nothing is
  transferred while connecting.
-/

namespace LineChat

/-- The call reads or writes. -/
def SocketCall.transfers : SocketCall → Bool
  | read _ => true
  | write _ _ => true
  | watch _ _ => false
  | unwatch => false

namespace Connection

/-! ## Acts -/

/-- Something that a client does to its connection, with the messages that came
    in, the calls, and the bytes that were queued. Only a connection whose other
    side has answered is read and written. -/
inductive Act (c : Connection) :
    List Message → List SocketCall → ByteArray → Connection → Prop
  | equip (socket : Option Socket) : Act c [] [] ByteArray.empty (c.equip socket)
  | answered : Act c [] [] ByteArray.empty c.markOpen
  | read (hanswered : c.state ≠ .connecting) :
      Act c c.readReady.messages c.readReady.calls ByteArray.empty c.readReady.connection
  | write (hanswered : c.state ≠ .connecting) :
      Act c [] c.flushReady.2 ByteArray.empty c.flushReady.1
  | queue (data : ByteArray) :
      Act c [] (c.queueBytes data).calls
        (match (c.queueBytes data).refusal with
          | none => data
          | some _ => ByteArray.empty) (c.queueBytes data).connection
  | close : Act c [] [] ByteArray.empty c.close

/-- Acts one after the other. -/
inductive Acts (c : Connection) :
    List Message → List SocketCall → ByteArray → Connection → Prop
  | rest : Acts c [] [] ByteArray.empty c
  | act {ms ms' : List Message} {calls calls' : List SocketCall} {queued queued' : ByteArray}
      {c' c'' : Connection} (before : Acts c ms calls queued c')
      (last : c'.Act ms' calls' queued' c'') :
      Acts c (ms ++ ms') (calls ++ calls') (queued ++ queued') c''

variable {c c' c'' : Connection} {ms ms' : List Message} {calls calls' : List SocketCall}
  {queued queued' : ByteArray}

theorem Acts.of_act (h : c.Act ms calls queued c') : c.Acts ms calls queued c' := by
  have hone := Acts.rest.act h
  rwa [List.nil_append, List.nil_append, ByteArray.empty_append] at hone

theorem Acts.trans (h : c.Acts ms calls queued c') (h' : c'.Acts ms' calls' queued' c'') :
    c.Acts (ms ++ ms') (calls ++ calls') (queued ++ queued') c'' := by
  induction h' with
  | rest => rwa [List.append_nil, List.append_nil, ByteArray.append_empty]
  | act _ last ih =>
      rw [← List.append_assoc, ← List.append_assoc, ← ByteArray.append_assoc]
      exact ih.act last

theorem Act.carries (h : c.Act ms calls queued c') : c.Carries c' ms calls queued := by
  cases h with
  | equip socket => exact c.carries_equip socket
  | answered => exact c.carries_markOpen
  | read => exact c.carries_readReady
  | write => exact c.carries_flushReady
  | queue data => exact c.carries_queueBytes data
  | close => exact c.carries_close rfl rfl

/-- Acts carry the two streams. -/
theorem Acts.carries (h : c.Acts ms calls queued c') : c.Carries c' ms calls queued := by
  induction h with
  | rest => exact c.carries_refl
  | act _ last ih => exact ih.trans last.carries

/-! ## States -/

-- Only what is connecting already can be found connecting later.
theorem connecting_of_rank_le (h : c.state.rank ≤ c'.state.rank) (hc : c'.state = .connecting) :
    c.state = .connecting := by
  rw [c'.state.rank_eq_zero_iff.mpr hc] at h
  exact c.state.rank_eq_zero_iff.mp (Nat.le_zero.mp h)

theorem answered_markOpen (c : Connection) : c.markOpen.state ≠ .connecting := by
  unfold markOpen
  by_cases hstate : c.state = .connecting
  · rw [if_pos hstate]
    exact ConnectionState.noConfusion
  · rwa [if_neg hstate]

theorem transfers_setInterest (c : Connection) (interest : Interest) :
    ∀ call ∈ (c.setInterest interest).2, call.transfers = false := by
  rcases c.setInterest_cases interest with ⟨h, _⟩ | ⟨_, _, _, _, h⟩ | ⟨_, _, _, _, _, h⟩
  · simp [h]
  · simp [h, SocketCall.transfers]
  · simp [h, SocketCall.transfers]

theorem transfers_queueBytes (c : Connection) (data : ByteArray) :
    ∀ call ∈ (c.queueBytes data).calls, call.transfers = false := by
  rcases c.queueBytes_cases data with ⟨_, h⟩ | ⟨_, queue, _, _, h⟩
  · simp [h]
  · rw [h]
    exact transfers_setInterest _ .both

/-- No act takes the state of a connection back. -/
theorem Act.rank_le (h : c.Act ms calls queued c') : c.state.rank ≤ c'.state.rank := by
  cases h with
  | equip socket => cases socket <;> exact Nat.le_refl _
  | answered => exact c.rank_le_markOpen
  | read => exact c.rank_le_readFrom _
  | write => exact c.rank_le_flushReady
  | queue data => exact c.rank_le_queueBytes data
  | close => exact c.rank_le_close

-- An act that leaves the connection connecting was none that transfers.
theorem Act.untouched (h : c.Act ms calls queued c') (hc : c'.state = .connecting) :
    c.state = .connecting ∧ ∀ call ∈ calls, call.transfers = false := by
  have hbefore := connecting_of_rank_le h.rank_le hc
  refine ⟨hbefore, ?_⟩
  cases h with
  | equip => exact List.forall_mem_nil _
  | answered => exact List.forall_mem_nil _
  | read hanswered => exact absurd hbefore hanswered
  | write hanswered => exact absurd hbefore hanswered
  | queue data => exact c.transfers_queueBytes data
  | close => exact List.forall_mem_nil _

/-- A connection that is still connecting has not been read or written. -/
theorem Acts.untouched (h : c.Acts ms calls queued c') (hc : c'.state = .connecting) :
    ∀ call ∈ calls, call.transfers = false := by
  induction h with
  | rest => exact List.forall_mem_nil _
  | act _ last ih =>
      rcases last.untouched hc with ⟨hbefore, hlast⟩
      exact List.forall_mem_append.mpr ⟨ih hbefore, hlast⟩

/-! ## Events -/

-- Whoever has answered before a read goes on to have answered, so a write may
-- come behind it.
theorem acts_handle (hanswered : c.state ≠ .connecting) (e : Event) :
    c.Acts (c.handle e).messages (c.handle e).calls ByteArray.empty (c.handle e).connection := by
  have hone : ∀ {c c' : Connection} {ms calls}, c.Act ms calls ByteArray.empty c' →
      c.state ≠ .connecting → c.Acts ms calls ByteArray.empty c' ∧ c'.state ≠ .connecting :=
    fun hact hc => ⟨.of_act hact, fun h => hc (connecting_of_rank_le hact.rank_le h)⟩
  refine (handle_law (R := fun c ms calls c' => c.state ≠ .connecting →
    c.Acts ms calls ByteArray.empty c' ∧ c'.state ≠ .connecting) (fun c hc => ⟨.rest, hc⟩) ?_
    (fun c hc => hone (.read hc) hc) (fun c hc => hone (.write hc) hc)
    (fun c hc => hone .close hc) c e hanswered).1
  intro c c' c'' ms ms' calls calls' h h' hc
  rcases h hc with ⟨hacts, hc'⟩
  rcases h' hc' with ⟨hacts', hc''⟩
  have hboth := hacts.trans hacts'
  rw [ByteArray.append_empty] at hboth
  exact ⟨hboth, hc''⟩

/-- A connection that a client starts with: its socket was dialled and has been
    registered for both interests. -/
def Dialled (limit : Nat) (c : Connection) : Prop :=
  ∃ socket address, dialled socket address clientToken limit = .ok c

end Connection

namespace Client

/-! ## Operations -/

-- Every event first tells that the other side has answered.
theorem acts_handleAll (es : List Event) (c : Connection) :
    c.Acts (handleAll es c).messages (handleAll es c).calls ByteArray.empty
      (handleAll es c).connection := by
  induction es generalizing c with
  | nil => exact .rest
  | cons e es ih =>
      have hopened : c.Acts [] [] ByteArray.empty c.markOpen := .of_act .answered
      exact (hopened.trans (Connection.acts_handle c.answered_markOpen e)).trans (ih _)

theorem acts_advance (outcome : WaitOutcome) (c : Connection) :
    c.Acts (advance outcome c).messages (advance outcome c).calls ByteArray.empty
      (advance outcome c).connection := by
  cases outcome with
  | ready e es => exact acts_handleAll (e :: es) c
  | timeout =>
      unfold advance
      by_cases hflush : (c.state = .opened && decide (0 < c.pendingOutput)) = true
      · have hanswered : c.state ≠ .connecting := by
          rw [Bool.and_eq_true, decide_eq_true_eq] at hflush
          rw [hflush.1]
          decide
        simp only [hflush, if_true]
        exact .of_act (.write hanswered)
      · simp only [hflush]
        exact .rest

/-- A connection that was dialled is on the socket of one of the addresses. -/
theorem dial_of_dialFirst {d : Dialler} {limit : Nat} {last : SessionError}
    {addresses : List SocketAddress} {c : Connection}
    (h : dialFirst d limit last addresses = .ok c) :
    ∃ address socket, d.dial address = .ok socket ∧
      Connection.dialled socket address clientToken limit = .ok c := by
  induction addresses generalizing last with
  | nil => cases h
  | cons address addresses ih =>
      rw [dialFirst] at h
      cases hdial : d.dial address with
      | error fault =>
          rw [hdial] at h
          exact ih h
      | ok socket =>
          cases hregister : Connection.dialled socket address clientToken limit with
          | error fault =>
              simp only [hdial, hregister] at h
              cases h
          | ok c' =>
              simp only [hdial, hregister, Except.ok.injEq] at h
              rw [← h]
              exact ⟨address, socket, hdial, hregister⟩

theorem dialled_of_dialFirst {d : Dialler} {limit : Nat} {last : SessionError}
    {addresses : List SocketAddress} {c : Connection}
    (h : dialFirst d limit last addresses = .ok c) : c.Dialled limit := by
  rcases dial_of_dialFirst h with ⟨address, socket, _, hregister⟩
  exact ⟨socket, address, hregister⟩

/-- Only a client that has never been connected connects. -/
theorem connect_cases (cl : Client) (d : Dialler) (target : String) :
    ((cl.connect d target).client = cl ∧ (cl.connect d target).calls = []) ∨
      (cl.connection = none ∧ cl.ended = false ∧ ∃ c, c.Dialled cl.config.maxBuffer ∧
        (cl.connect d target).client = { cl with connection := some c } ∧
        (cl.connect d target).calls = [.watch .both (.ok ())]) := by
  unfold connect
  by_cases hstarted : (cl.connection.isSome || cl.ended) = true
  · rw [if_pos hstarted]
    exact Or.inl ⟨rfl, rfl⟩
  · rw [if_neg hstarted]
    have hnew : cl.connection = none ∧ cl.ended = false := by simpa using hstarted
    cases hresolve : resolve d.names target with
    | error e => exact Or.inl ⟨rfl, rfl⟩
    | ok addresses =>
        cases hprepare : d.prepare with
        | error fault => exact Or.inl ⟨rfl, rfl⟩
        | ok =>
            cases hdial : dialFirst d cl.config.maxBuffer (.badAddress target) addresses with
            | error e =>
                simp only [hdial]
                exact Or.inl ⟨trivial, trivial⟩
            | ok c =>
                simp only [hdial]
                exact Or.inr ⟨hnew.1, hnew.2, c, dialled_of_dialFirst hdial, rfl, trivial⟩

/-- An operation has worked on the connection `c` of a client and queued bytes.
    Afterwards the client still has the connection, or it has released it and
    ended. -/
inductive Works (cl : Client) (c : Connection) (queued : ByteArray) :
    Client → List SocketCall → Prop
  | keeps (c' : Connection) (ms : List Message) (calls : List SocketCall)
      (hacts : c.Acts ms calls queued c') :
      Works cl c queued { cl with connection := some c', messages := cl.messages ++ ms } calls
  | ends (c' : Connection) (ms : List Message) (calls : List SocketCall)
      (hacts : c.Acts ms calls queued c') :
      Works cl c queued
        { cl with connection := none, messages := cl.messages ++ ms, ended := true }
        (calls ++ c'.release.2)

/-- An update leaves the client as it is or works on its connection. -/
theorem update_works (cl : Client) (wait : WaitAnswer) :
    ((cl.update wait).client = cl ∧ (cl.update wait).calls = []) ∨
      ∃ c, cl.connection = some c ∧
        cl.Works c ByteArray.empty (cl.update wait).client (cl.update wait).calls := by
  unfold update
  cases hended : cl.ended with
  | true => exact Or.inl ⟨rfl, rfl⟩
  | false =>
      cases hc : cl.connection with
      | none => exact Or.inl ⟨rfl, rfl⟩
      | some c =>
          cases hwait : waitOutcome wait with
          | error fault => exact Or.inl ⟨rfl, rfl⟩
          | ok outcome =>
              right
              refine ⟨c, rfl, ?_⟩
              have hacts := acts_advance outcome c
              by_cases hactive : (advance outcome c).connection.isActive = true
              · have hkeeps : cl.Works c _ _ _ := .keeps _ _ _ hacts
                rw [hended] at hkeeps
                simp only [hactive, Bool.false_eq_true, if_false, if_true]
                exact hkeeps
              · simp only [hactive, Bool.false_eq_true, if_false]
                exact .ends _ _ _ hacts

/-- A feed leaves the client as it is or works on its connection. Only then it
    can have queued something. -/
theorem feed_works (cl : Client) (data : ByteArray) :
    ((cl.feed data).client = cl ∧ (cl.feed data).calls = [] ∧
        ((cl.feed data).answer = .ok () → data = ByteArray.empty)) ∨
      ∃ c, cl.connection = some c ∧ cl.Works c
        (match (cl.feed data).answer with
          | .ok () => data
          | .error _ => ByteArray.empty) (cl.feed data).client (cl.feed data).calls := by
  unfold feed
  cases hended : cl.ended with
  | true => exact Or.inl ⟨rfl, rfl, fun h => (by cases h)⟩
  | false =>
      cases hc : cl.connection with
      | none => exact Or.inl ⟨rfl, rfl, fun h => (by cases h)⟩
      | some c =>
          by_cases hsize : data.size = 0
          · left
            simp only [hsize, Bool.false_eq_true, if_false, if_true, true_and]
            exact fun _ => ByteArray.size_eq_zero_iff.mp hsize
          · right
            refine ⟨c, rfl, ?_⟩
            have hacts : c.Acts [] _ _ _ := .of_act (.queue data)
            simp only [hsize, Bool.false_eq_true, if_false]
            cases hrefusal : (c.queueBytes data).refusal with
            | none =>
                rw [hrefusal] at hacts
                have hkeeps : cl.Works c _ _ _ := .keeps _ _ _ hacts
                rw [List.append_nil, hended] at hkeeps
                exact hkeeps
            | some e =>
                rw [hrefusal] at hacts
                have hends : cl.Works c _ _ _ := .ends _ _ _ hacts
                rw [List.append_nil] at hends
                exact hends

/-! ## Lives -/

/-- The calls that a client has made from its beginning: none before it is
    connected, then those of acts, and at last a release. -/
inductive Life (cl : Client) : List SocketCall → Prop
  | fresh (hnone : cl.connection = none) (hended : cl.ended = false) : Life cl []
  | live (c₀ c : Connection) (ms : List Message) (calls : List SocketCall) (queued : ByteArray)
      (hdialled : c₀.Dialled cl.config.maxBuffer) (hacts : c₀.Acts ms calls queued c)
      (hthere : cl.connection = some c) : Life cl (.watch .both (.ok ()) :: calls)
  | past (c₀ c : Connection) (ms : List Message) (calls : List SocketCall) (queued : ByteArray)
      (hdialled : c₀.Dialled cl.config.maxBuffer) (hacts : c₀.Acts ms calls queued c)
      (hnone : cl.connection = none) (hended : cl.ended = true) :
      Life cl (.watch .both (.ok ()) :: (calls ++ c.release.2))

variable {cl cl' : Client} {calls calls' : List SocketCall}

-- Messages that come in or are handed out are no part of the record.
theorem Life.of_same (h : cl.Life calls) (hconfig : cl'.config = cl.config)
    (hconnection : cl'.connection = cl.connection) (hended : cl'.ended = cl.ended) :
    cl'.Life calls := by
  cases h with
  | fresh hnone hnew => exact .fresh (hconnection.trans hnone) (hended.trans hnew)
  | live c₀ c ms calls queued hdialled hacts hthere =>
      rw [← hconfig] at hdialled
      exact .live c₀ c ms calls queued hdialled hacts (hconnection.trans hthere)
  | past c₀ c ms calls queued hdialled hacts hnone hover =>
      rw [← hconfig] at hdialled
      exact .past c₀ c ms calls queued hdialled hacts (hconnection.trans hnone)
        (hended.trans hover)

theorem Life.equip (h : cl.Life calls) (socket : Option Socket) :
    (cl.equip socket).Life calls := by
  cases h with
  | fresh hnone hended => exact .fresh (Option.map_eq_none_iff.mpr hnone) hended
  | live c₀ c ms calls queued hdialled hacts hthere =>
      have hequipped := hacts.trans (.of_act (.equip socket))
      rw [List.append_nil, List.append_nil, ByteArray.append_empty] at hequipped
      have hconnection : (cl.equip socket).connection = some (c.equip socket) :=
        congrArg (Option.map _) hthere
      exact .live c₀ _ ms calls queued hdialled hequipped hconnection
  | past c₀ c ms calls queued hdialled hacts hnone hended =>
      exact .past c₀ c ms calls queued hdialled hacts (Option.map_eq_none_iff.mpr hnone) hended

theorem Life.connect (h : cl.Life calls) (hnone : cl.connection = none) (hended : cl.ended = false)
    {c : Connection} (hdialled : c.Dialled cl.config.maxBuffer) :
    { cl with connection := some c }.Life (calls ++ [SocketCall.watch .both (.ok ())]) := by
  cases h with
  | fresh =>
      refine .live c c [] [] ByteArray.empty ?_ .rest rfl
      exact hdialled
  | live c₀ c' ms calls queued _ _ hthere =>
      rw [hnone] at hthere
      cases hthere
  | past c₀ c' ms calls queued _ _ _ hover =>
      rw [hended] at hover
      cases hover

theorem Life.works (h : cl.Life calls) {c : Connection} (hc : cl.connection = some c)
    {queued : ByteArray} (hworks : cl.Works c queued cl' calls') : cl'.Life (calls ++ calls') := by
  cases h with
  | fresh hnone =>
      rw [hnone] at hc
      cases hc
  | live c₀ c₁ ms calls queued₀ hdialled hacts hthere =>
      rw [hthere, Option.some.injEq] at hc
      subst hc
      cases hworks with
      | keeps c' ms' calls' hacts' =>
          exact .live c₀ c' _ _ _ hdialled (hacts.trans hacts') rfl
      | ends c' ms' calls' hacts' =>
          rw [← List.append_assoc]
          exact .past c₀ c' _ _ _ hdialled (hacts.trans hacts') rfl rfl
  | past c₀ c' ms calls queued _ _ hnone =>
      rw [hnone] at hc
      cases hc

-- A client that is connecting has not transferred anything.
theorem Life.untouched (h : cl.Life calls) (hstate : cl.state? = some .connecting) :
    ∀ call ∈ calls, call.transfers = false := by
  unfold state? at hstate
  cases h with
  | fresh => exact List.forall_mem_nil _
  | live c₀ c ms calls queued _ hacts hthere =>
      by_cases hended : cl.ended = true
      · rw [if_pos hended] at hstate
        cases hstate
      · rw [if_neg hended, hthere, Option.map_some, Option.some.injEq] at hstate
        exact List.forall_mem_cons.mpr ⟨rfl, hacts.untouched hstate⟩
  | past c₀ c ms calls queued _ _ _ hended =>
      rw [if_pos hended] at hstate
      cases hstate

end Client

namespace ClientHistory

theorem life_serve {h : ClientHistory} (hlife : h.client.Life h.calls) (request : ClientRequest) :
    (h.serve request).client.Life (h.serve request).calls := by
  -- Operations that do nothing leave the record as it is.
  have hstill : ∀ (cl : Client) (o : Client.Outcome), cl.Life h.calls → o.client = cl →
      o.calls = [] → o.client.Life (h.calls ++ o.calls) := by
    intro cl o hcl hclient hcalls
    rw [hclient, hcalls, List.append_nil]
    exact hcl
  cases request with
  | connect dialler target =>
      rcases h.client.connect_cases dialler target with
        ⟨hclient, hcalls⟩ | ⟨hnone, hended, c, hdialled, hclient, hcalls⟩
      · exact hstill _ _ hlife hclient hcalls
      · change (h.client.connect dialler target).client.Life
          (h.calls ++ (h.client.connect dialler target).calls)
        rw [hclient, hcalls]
        exact hlife.connect hnone hended hdialled
  | update socket wait =>
      have hequipped := hlife.equip (some socket)
      rcases (h.client.equip (some socket)).update_works wait with
        ⟨hclient, hcalls⟩ | ⟨c, hc, hworks⟩
      · exact hstill _ _ hequipped hclient hcalls
      · exact hequipped.works hc hworks
  | feed socket data =>
      have hequipped := hlife.equip (some socket)
      rcases (h.client.equip (some socket)).feed_works data with
        ⟨hclient, hcalls, _⟩ | ⟨c, hc, hworks⟩
      · exact hstill _ _ hequipped hclient hcalls
      · exact hequipped.works hc hworks
  | pop =>
      unfold serve Client.pop
      cases hmessages : h.client.messages with
      | nil => exact hlife
      | cons m ms => exact hlife.of_same rfl rfl rfl

/-- The record of every history is the life of its client. -/
theorem life_serveAll (requests : List ClientRequest) (h : ClientHistory)
    (hlife : h.client.Life h.calls) :
    (serveAll requests h).client.Life (serveAll requests h).calls := by
  induction requests generalizing h with
  | nil => exact hlife
  | cons request requests ih => exact ih (h.serve request) (life_serve hlife request)

end ClientHistory

end LineChat
