import LineChat.Proofs.Session.Fate
import LineChat.Proofs.Session.Work

/-!
# The End of a Connection

A connection goes through its states once, and is released once.

A server and a client release a connection that has ended and drop it. Here
nothing is asked of whoever uses it: the operations may come in any order, also
behind a release, and the socket may answer whatever it likes.

No operation takes the state back (`rank_le_run`), so a connection that has ended
stays so. From then on it is neither read nor written. That holds between two
operations, and inside a loop as well, where the answers behind the one that has
ended the connection are not asked for (`calls_readFrom_append`).

A release is the only operation that gives up the registration, and it needs one
to give up. So the life of a connection has two parts. Before its first release
it is registered (`Unreleased`). From then on it is `Gone`: it has no
registration, holds no input, and makes no call at all. Output is not looked
after any more. What is queued behind the release stays in the queue, and another
release does nothing about it.

## Main definitions

* `ConnectionStep.isRelease`: The operation is a release.
* `Connection.Gone`: A connection that was released.

## Theorems

* `rank_le_run`, `rank_le_runAll`: States do not go back.
* `transfers_runAll`: A connection that has ended is not used.
* `calls_readFrom_append`, `calls_flushFrom_append`: Nor inside a loop.
* `Unreleased.run`, `Gone.run`: The two parts of a life.
* `connection_ends_once`: The law for every order of operations.
-/

namespace LineChat

/-- The operation is a release. -/
def ConnectionStep.isRelease : ConnectionStep → Bool
  | release => true
  | _ => false

theorem ConnectionState.rank_le_removed (s : ConnectionState) : s.rank ≤ removed.rank := by
  cases s <;> decide

namespace Connection

variable {c : Connection}

/-! ## States -/

theorem ended_iff_rank (c : Connection) : c.isActive = false ↔ 2 ≤ c.state.rank := by
  unfold isActive
  cases c.state <;> decide

theorem rank_le_queueMessage (c : Connection) (m : Message) :
    c.state.rank ≤ (c.queueMessage m).connection.state.rank := by
  rcases c.queueMessage_cases m with ⟨_, hclosed, _⟩ | ⟨_, queue, _, _, hconnection, _⟩
  · rw [hclosed]
    exact c.rank_le_close
  · rw [hconnection]
    split
    · exact rank_le_setInterest { c with outbound := queue } .both
    · exact Nat.le_refl _

theorem rank_le_release (c : Connection) : c.state.rank ≤ c.release.1.state.rank := by
  unfold release
  cases c.registration with
  | none => exact Nat.le_refl _
  | some r => exact c.state.rank_le_removed

/-- No operation takes the state back. -/
theorem rank_le_run (c : Connection) (socket : Socket) (step : ConnectionStep) :
    c.state.rank ≤ (c.run socket step).connection.state.rank := by
  cases step with
  | markOpen => exact rank_le_markOpen { c with socket := socket }
  | close => exact rank_le_close { c with socket := socket }
  | readReady => exact rank_le_readFrom _ { c with socket := socket }
  | flushReady => exact rank_le_flushReady { c with socket := socket }
  | queueMessage m =>
      dsimp only [run]
      exact rank_le_queueMessage (c.equip (some socket)) m
  | queueBytes data =>
      dsimp only [run]
      exact rank_le_queueBytes (c.equip (some socket)) data
  | release => exact rank_le_release { c with socket := socket }

theorem rank_le_runAll (steps : List (Socket × ConnectionStep)) (c : Connection) :
    c.state.rank ≤ (runAll steps c).connection.state.rank := by
  induction steps generalizing c with
  | nil => exact Nat.le_refl _
  | cons s steps ih => exact Nat.le_trans (c.rank_le_run s.1 s.2) (ih _)

/-! ## Calls of a connection that has ended -/

theorem transfers_queueMessage (c : Connection) (m : Message) :
    ∀ call ∈ (c.queueMessage m).calls, call.transfers = false := by
  rcases c.queueMessage_cases m with ⟨_, _, hcalls⟩ | ⟨_, queue, _, _, _, hcalls⟩
  · rw [hcalls]
    exact List.forall_mem_nil _
  · rw [hcalls]
    split
    · exact transfers_setInterest _ .both
    · exact List.forall_mem_nil _

theorem calls_flushReady_ended (h : c.isActive = false) : c.flushReady.2 = [] := by
  have hidle : (c.isActive && !c.outbound.isEmpty) = false := by rw [h, Bool.false_and]
  unfold flushReady
  rw [flushFrom_idle _ hidle]
  simp [isActive, show c.state.isActive = false from h]

theorem transfers_run (h : c.isActive = false) (socket : Socket) (step : ConnectionStep) :
    ∀ call ∈ (c.run socket step).calls, call.transfers = false := by
  have hended : { c with socket := socket }.isActive = false := h
  cases step with
  | markOpen => exact List.forall_mem_nil _
  | close => exact List.forall_mem_nil _
  | readReady =>
      have hnone : (c.run socket .readReady).calls = [] :=
        congrArg Received.calls (readFrom_ended socket.reads hended)
      rw [hnone]
      exact List.forall_mem_nil _
  | flushReady =>
      have hnone : (c.run socket .flushReady).calls = [] := calls_flushReady_ended hended
      rw [hnone]
      exact List.forall_mem_nil _
  | queueMessage m =>
      dsimp only [run]
      exact transfers_queueMessage (c.equip (some socket)) m
  | queueBytes data =>
      dsimp only [run]
      exact transfers_queueBytes (c.equip (some socket)) data
  | release =>
      intro call hcall
      have hmem : call ∈ { c with socket := socket }.release.2 := hcall
      unfold release at hmem
      cases hregistration : c.registration with
      | none =>
          simp only [hregistration] at hmem
          cases hmem
      | some r =>
          simp only [hregistration, List.mem_singleton] at hmem
          rw [hmem]
          rfl

/-- A connection that has ended is not read or written any more. -/
theorem transfers_runAll (h : c.isActive = false) (steps : List (Socket × ConnectionStep)) :
    ∀ call ∈ (runAll steps c).calls, call.transfers = false := by
  induction steps generalizing c with
  | nil => exact List.forall_mem_nil _
  | cons s steps ih =>
      have hstays : (c.run s.1 s.2).connection.isActive = false :=
        (ended_iff_rank _).mpr (Nat.le_trans ((ended_iff_rank c).mp h) (c.rank_le_run s.1 s.2))
      exact List.forall_mem_append.mpr ⟨transfers_run h s.1 s.2, ih hstays⟩

/-! ## The end in the middle of a loop -/

/-- The answers behind the one that has ended the connection are not asked for. -/
theorem calls_readFrom_append (reads later : List ReadAnswer)
    (h : (readFrom reads c).connection.isActive = false) :
    (readFrom (reads ++ later) c).calls = (readFrom reads c).calls := by
  induction reads generalizing c with
  | nil =>
      have hended : c.isActive = false := by rwa [readFrom_nil] at h
      rw [List.nil_append, readFrom_ended later hended, readFrom_ended [] hended]
  | cons answer reads ih =>
      rw [List.cons_append]
      cases hactive : c.isActive with
      | false => rw [readFrom_ended _ hactive, readFrom_ended _ hactive]
      | true =>
          rw [readFrom, if_pos hactive] at h ⊢
          rw [readFrom, if_pos hactive]
          cases answer with
          | error fault =>
              by_cases hblock : fault.kind = .wouldBlock
              · simp only [if_pos hblock] at h
                exact absurd (hactive.symm.trans h) Bool.true_eq_false.mp
              · by_cases hagain : fault.kind = .interrupted
                · simp only [if_neg hblock, if_pos hagain] at h ⊢
                  rw [ih h]
                · simp only [if_neg hblock, if_neg hagain] at h ⊢
                  rw [ih h]
          | ok data =>
              by_cases hend : data.size = 0
              · simp only [if_pos hend] at h ⊢
                rw [ih h]
              · simp only [if_neg hend] at h ⊢
                cases hrefusal : (c.inbound.feed data).refusal with
                | some o =>
                    simp only [hrefusal] at h ⊢
                    rw [ih h]
                | none =>
                    simp only [hrefusal] at h ⊢
                    rw [ih h]

theorem calls_flushFrom_append (writes later : List (Except Fault Nat))
    (h : (flushFrom writes c).1.isActive = false) :
    (flushFrom (writes ++ later) c).2 = (flushFrom writes c).2 := by
  induction writes generalizing c with
  | nil =>
      have hidle : (c.isActive && !c.outbound.isEmpty) = false := by
        rw [flushFrom_nil] at h
        rw [show c.isActive = false from h, Bool.false_and]
      rw [List.nil_append, flushFrom_idle later hidle, flushFrom_idle [] hidle]
  | cons answer writes ih =>
      rw [List.cons_append]
      cases hready : c.isActive && !c.outbound.isEmpty with
      | false => rw [flushFrom_idle _ hready, flushFrom_idle _ hready]
      | true =>
          have hactive : c.isActive = true := (Bool.and_eq_true_iff.mp hready).1
          cases answer with
          | error fault =>
              rw [flushFrom, if_pos hready] at h ⊢
              rw [flushFrom, if_pos hready]
              by_cases hblock : fault.kind = .wouldBlock
              · simp only [if_pos hblock] at h
                exact absurd (hactive.symm.trans h) Bool.true_eq_false.mp
              · simp only [if_neg hblock] at h ⊢
                rw [ih h]
          | ok n =>
              rw [flushFrom, if_pos hready] at h ⊢
              rw [flushFrom, if_pos hready]
              dsimp only at h ⊢
              rw [ih h]

/-! ## Before the release -/

/-- Only a release gives up the registration. -/
theorem Unreleased.run (h : c.Unreleased) (socket : Socket) {step : ConnectionStep}
    (hstep : step.isRelease = false) :
    (c.run socket step).connection.Unreleased ∧
      ∀ call ∈ (c.run socket step).calls, call.isUnwatch = false := by
  have hequip : { c with socket := socket }.Unreleased := h.of_eq rfl rfl
  cases step with
  | markOpen => exact ⟨hequip.markOpen, List.forall_mem_nil _⟩
  | close => exact ⟨hequip.close, List.forall_mem_nil _⟩
  | readReady =>
      refine ⟨hequip.readFrom _, fun call hcall => ?_⟩
      rcases mem_calls_readFrom _ _ call hcall with ⟨answer, rfl⟩
      rfl
  | flushReady => exact ⟨hequip.flushReady, fun call hcall => (outward_flushReady _ call hcall).2⟩
  | queueMessage m =>
      dsimp only [Connection.run]
      exact ⟨hequip.queueMessage m, fun call hcall => (outward_queueMessage _ m call hcall).2⟩
  | queueBytes data =>
      dsimp only [Connection.run]
      exact ⟨hequip.queueBytes data, fun call hcall => (outward_queueBytes _ data call hcall).2⟩
  | release => cases hstep

theorem Unreleased.runAll (h : c.Unreleased) {steps : List (Socket × ConnectionStep)}
    (hsteps : ∀ s ∈ steps, s.2.isRelease = false) :
    (runAll steps c).connection.Unreleased ∧
      ∀ call ∈ (runAll steps c).calls, call.isUnwatch = false := by
  induction steps generalizing c with
  | nil => exact ⟨h, List.forall_mem_nil _⟩
  | cons s steps ih =>
      rcases List.forall_mem_cons.mp hsteps with ⟨hstep, hlater⟩
      rcases h.run s.1 hstep with ⟨hnext, hfirst⟩
      rcases ih hnext hlater with ⟨hend, hrest⟩
      exact ⟨hend, List.forall_mem_append.mpr ⟨hfirst, hrest⟩⟩

/-! ## Behind the release -/

/-- A connection that was released. -/
structure Gone (c : Connection) : Prop where
  unregistered : c.registration = none
  removed : c.state = .removed
  drained : c.inbound.pending.bytes = ByteArray.empty

theorem Gone.ended (h : c.Gone) : c.isActive = false := by
  unfold isActive
  rw [h.removed]
  rfl

theorem Gone.of_eq {c' : Connection} (h : c.Gone) (hregistration : c'.registration = c.registration)
    (hstate : c'.state = c.state) (hin : c'.inbound = c.inbound) : c'.Gone := by
  refine ⟨hregistration.trans h.unregistered, hstate.trans h.removed, ?_⟩
  rw [hin]
  exact h.drained

theorem Gone.close_eq (h : c.Gone) : c.close = c := by
  unfold close
  rw [h.ended, if_neg Bool.false_ne_true]

theorem Gone.setInterest_eq (h : c.Gone) (interest : Interest) :
    c.setInterest interest = (c, []) := by
  unfold setInterest
  rw [h.unregistered]

theorem Gone.markOpen_eq (h : c.Gone) : c.markOpen = c := by
  unfold markOpen
  rw [h.removed, if_neg ConnectionState.noConfusion]

theorem Gone.readReady (h : c.Gone) : c.readReady.connection.Gone ∧ c.readReady.calls = [] := by
  unfold Connection.readReady
  rw [readFrom_ended _ h.ended]
  exact ⟨h.of_eq rfl rfl rfl, rfl⟩

theorem Gone.flushReady (h : c.Gone) : c.flushReady.1.Gone ∧ c.flushReady.2 = [] := by
  refine ⟨?_, calls_flushReady_ended h.ended⟩
  have hidle : (c.isActive && !c.outbound.isEmpty) = false := by rw [h.ended, Bool.false_and]
  have hsocket : { c with socket := { c.socket with writes := c.socket.writes } }.Gone :=
    h.of_eq rfl rfl rfl
  unfold Connection.flushReady
  rw [flushFrom_idle _ hidle]
  dsimp only
  rw [hsocket.ended, Bool.false_and, if_neg Bool.false_ne_true]
  exact hsocket

theorem Gone.queueMessage (h : c.Gone) (m : Message) :
    (c.queueMessage m).connection.Gone ∧ (c.queueMessage m).calls = [] := by
  rcases c.queueMessage_cases m with
    ⟨_, hclosed, hcalls⟩ | ⟨_, queue, _, _, hconnection, hcalls⟩
  · rw [hclosed, h.close_eq]
    exact ⟨h, hcalls⟩
  · have hqueue : { c with outbound := queue }.Gone := h.of_eq rfl rfl rfl
    rw [hconnection, hcalls, hqueue.setInterest_eq]
    split
    · exact ⟨hqueue, rfl⟩
    · exact ⟨hqueue, rfl⟩

theorem Gone.queueBytes (h : c.Gone) (data : ByteArray) :
    (c.queueBytes data).connection.Gone ∧ (c.queueBytes data).calls = [] := by
  rcases c.queueBytes_cases data with ⟨_, hrefused⟩ | ⟨_, queue, _, _, hqueued⟩
  · rw [hrefused]
    dsimp only
    rw [h.close_eq]
    exact ⟨h, rfl⟩
  · have hqueue : { c with outbound := queue }.Gone := h.of_eq rfl rfl rfl
    rw [hqueued, hqueue.setInterest_eq]
    exact ⟨hqueue, rfl⟩

theorem Gone.release_eq (h : c.Gone) : c.release = (c, []) := by
  unfold release
  rw [h.unregistered]

/-- A connection that was released makes no call any more. -/
theorem Gone.run (h : c.Gone) (socket : Socket) (step : ConnectionStep) :
    (c.run socket step).connection.Gone ∧ (c.run socket step).calls = [] := by
  have hequip : { c with socket := socket }.Gone := h.of_eq rfl rfl rfl
  cases step with
  | markOpen =>
      refine ⟨?_, rfl⟩
      change { c with socket := socket }.markOpen.Gone
      rw [hequip.markOpen_eq]
      exact hequip
  | close =>
      refine ⟨?_, rfl⟩
      change { c with socket := socket }.close.Gone
      rw [hequip.close_eq]
      exact hequip
  | readReady => exact hequip.readReady
  | flushReady => exact hequip.flushReady
  | queueMessage m =>
      dsimp only [Connection.run]
      exact hequip.queueMessage m
  | queueBytes data =>
      dsimp only [Connection.run]
      exact hequip.queueBytes data
  | release =>
      change { c with socket := socket }.release.1.Gone ∧ { c with socket := socket }.release.2 = []
      rw [hequip.release_eq]
      exact ⟨hequip, rfl⟩

theorem Gone.runAll (h : c.Gone) (steps : List (Socket × ConnectionStep)) :
    (Connection.runAll steps c).connection.Gone ∧ (Connection.runAll steps c).calls = [] := by
  induction steps generalizing c with
  | nil => exact ⟨h, rfl⟩
  | cons s steps ih =>
      rcases h.run s.1 s.2 with ⟨hnext, hfirst⟩
      rcases ih hnext with ⟨hend, hrest⟩
      refine ⟨hend, ?_⟩
      change (c.run s.1 s.2).calls ++ _ = []
      rw [hfirst, hrest, List.append_nil]

/-- The first release gives up the registration and drops both buffers. -/
theorem Unreleased.release (h : c.Unreleased) : c.release.1.Gone ∧
    c.release.1.outbound.bytes = ByteArray.empty ∧ c.release.2 = [.unwatch] := by
  rcases Option.isSome_iff_exists.mp h.registered with ⟨r, hr⟩
  unfold Connection.release
  rw [hr]
  exact ⟨⟨rfl, rfl, rfl⟩, rfl, rfl⟩

end Connection

/-- Whatever is done to a connection, in any order, and whatever its socket and the
    system answer. The state never goes back. Once the connection has ended
    nothing is read or written, also by the operation that has met the end. The
    registration is given up by the first release and by nothing else, and both
    buffers are empty then. A connection that was released stays so, makes no
    call, and another release does nothing to it. -/
theorem connection_ends_once (c : Connection)
    (hnew : (∃ socket address token limit,
        Connection.accepted socket address token limit = .ok c) ∨
      ∃ socket address token limit, Connection.dialled socket address token limit = .ok c) :
    (∀ before later : List (Socket × ConnectionStep),
      let r := Connection.runAll before c
      let r' := Connection.runAll later r.connection
      r.connection.state.rank ≤ r'.connection.state.rank ∧
      (r.connection.state = .closing ∨ r.connection.state = .removed →
        ∀ call ∈ r'.calls, call.transfers = false)) ∧
    (∀ (c' : Connection) (reads later : List ReadAnswer),
      (Connection.readFrom reads c').connection.isActive = false →
        (Connection.readFrom (reads ++ later) c').calls = (Connection.readFrom reads c').calls) ∧
    (∀ (c' : Connection) (writes later : List (Except Fault Nat)),
      (Connection.flushFrom writes c').1.isActive = false →
        (Connection.flushFrom (writes ++ later) c').2 = (Connection.flushFrom writes c').2) ∧
    ∀ before : List (Socket × ConnectionStep), (∀ s ∈ before, s.2.isRelease = false) →
      let r := Connection.runAll before c
      (∀ call ∈ r.calls, call.isUnwatch = false) ∧ r.connection.state ≠ .removed ∧
      ∀ (socket : Socket) (later : List (Socket × ConnectionStep)),
        let released := r.connection.run socket .release
        let r' := Connection.runAll later released.connection
        released.calls = [.unwatch] ∧ released.connection.state = .removed ∧
        released.connection.inbound.pending.bytes = ByteArray.empty ∧
        released.connection.outbound.bytes = ByteArray.empty ∧
        r'.calls = [] ∧ r'.connection.state = .removed ∧
        r'.connection.inbound.pending.bytes = ByteArray.empty ∧
        ∀ socket', r'.connection.run socket' .release
          = ⟨r'.connection.equip (some socket'), [], []⟩ := by
  have hunreleased : c.Unreleased := by
    rcases hnew with ⟨_, _, _, _, haccepted⟩ | ⟨_, _, _, _, hdialled⟩
    · exact Connection.unreleased_of_register haccepted (by decide)
    · exact Connection.unreleased_of_register hdialled (by decide)
  refine ⟨fun before later => ⟨?_, fun hended => ?_⟩, fun c' reads later h => ?_,
    fun c' writes later h => ?_, fun before hbefore => ?_⟩
  · exact Connection.rank_le_runAll later _
  · refine Connection.transfers_runAll ?_ later
    unfold Connection.isActive
    rcases hended with hclosing | hremoved
    · rw [hclosing]
      rfl
    · rw [hremoved]
      rfl
  · exact Connection.calls_readFrom_append reads later h
  · exact Connection.calls_flushFrom_append writes later h
  · rcases hunreleased.runAll hbefore with ⟨hkept, hcalls⟩
    refine ⟨hcalls, hkept.present, fun socket later => ?_⟩
    have hequip : { (Connection.runAll before c).connection with socket := socket }.Unreleased :=
      hkept.of_eq rfl rfl
    rcases hequip.release with ⟨hgone, hout, hunwatch⟩
    rcases hgone.runAll later with ⟨hlater, hnone⟩
    refine ⟨hunwatch, hgone.removed, hgone.drained, hout, hnone, hlater.removed, hlater.drained,
      fun socket' => ?_⟩
    have hagain : ∀ c' : Connection, c'.Gone →
        c'.run socket' .release = ⟨c'.equip (some socket'), [], []⟩ := by
      intro c' hc'
      have hequip' : (c'.equip (some socket')).Gone := hc'.of_eq rfl rfl rfl
      change Connection.Received.mk (c'.equip (some socket')).release.1 []
        (c'.equip (some socket')).release.2 = _
      rw [hequip'.release_eq]
    exact hagain _ hlater

/-- A connection is accepted, reads half a line, meets the end of the stream, and
    is released, sent a line and released again. The line stays in its queue. -/
theorem connection_ends_once_after_half_a_line :
    let socket : Socket := ⟨[.ok "ha".toUTF8, .ok ByteArray.empty], [], [], none⟩
    ∃ c, Connection.accepted Socket.idle (.v4 ⟨127, 0, 0, 1⟩ 1) 1 8 = .ok c ∧
      let before := [(socket, ConnectionStep.readReady)]
      let r := Connection.runAll before c
      let released := r.connection.run Socket.idle .release
      r.connection.state = .closing ∧ r.connection.inbound.pending.bytes = "ha".toUTF8 ∧
      released.calls = [.unwatch] ∧
      released.connection.inbound.pending.bytes = ByteArray.empty ∧
      released.connection.outbound.bytes = ByteArray.empty ∧
      (Connection.runAll [(Socket.idle, .queueBytes "a\n".toUTF8)] released.connection).calls
        = [] := by
  intro socket
  refine ⟨_, rfl, ?_⟩
  intro before r released
  have hbefore : ∀ s ∈ before, s.2.isRelease = false := List.forall_mem_singleton.mpr rfl
  rcases connection_ends_once _ (Or.inl ⟨Socket.idle, .v4 ⟨127, 0, 0, 1⟩ 1, 1, 8, rfl⟩) with
    ⟨_, _, _, hrelease⟩
  rcases (hrelease before hbefore).2.2 Socket.idle [(Socket.idle, .queueBytes "a\n".toUTF8)] with
    ⟨hcalls, _, hin, hout, hnone, _⟩
  refine ⟨?_, ?_, hcalls, hin, hout, hnone⟩
  · decide +kernel
  · decide +kernel

/-- What is queued behind a release is still there after the next one. -/
theorem later_release_keeps_queue :
    ∃ c, Connection.accepted Socket.idle (.v4 ⟨127, 0, 0, 1⟩ 1) 1 8 = .ok c ∧
      let r := Connection.runAll [(Socket.idle, .release),
        (Socket.idle, .queueBytes "x".toUTF8), (Socket.idle, .release)] c
      r.connection.state = .removed ∧ r.connection.outbound.bytes = "x".toUTF8 := by
  refine ⟨_, rfl, ?_⟩
  decide +kernel

end LineChat
