import Mathlib.Order.Basic
import LineChat.Session.Connection

/-!
# Passes over a Connection

What the loops of a connection have in common, whatever law is to be proved.

Reading and writing are loops over the answers of a socket. `ReadPass` and
`WritePass` say what one answer can do as long as the loop goes on, and
`readFrom_cons` and `flushFrom_cons` that the only other thing it can do is to
end the loop: that is an answer that the socket would block. A law of a loop that
composes is then proved for the passes (`readFrom_law`, `flushFrom_law`), and for
a property of the connection alone it is enough that it survives a handful of
changes (`readFrom_keeps`, `flushFrom_keeps`). An event is at most one loop of
each kind and a close, so such a law need not look into it either (`handle_law`).

Two laws come from that at once. The state of a connection never goes back. And
a loop that leaves the connection active, with something still to be done, was
ended by a socket that would block, since every other answer closes the
connection or makes the loop go on.

## Main definitions

* `SocketCall.fault?`: The fault that a call has met.
* `Connection.ReadPass`: A read call after which reading goes on.
* `Connection.WritePass`: A write call after which writing goes on.

## Theorems

* `readFrom_cons`, `flushFrom_cons`: The first call of a loop.
* `readFrom_law`, `flushFrom_law`: A law of every pass is one of the loop.
* `readFrom_keeps`, `flushFrom_keeps`: What every pass keeps, the loop keeps.
* `readFrom_blocks`, `flushFrom_blocks`: The last call of a loop.
* `handle_parts`, `handle_law`: An event is a read, a write and a close, or some
  of them.
* `mem_calls_readFrom`, `mem_calls_flushFrom`: The calls of a loop.
* `rank_le_readFrom`, `rank_le_flushReady`: States do not go back.
-/

namespace LineChat

theorem ConnectionState.rank_eq_zero_iff (s : ConnectionState) : s.rank = 0 ↔ s = .connecting := by
  cases s <;> decide

namespace SocketCall

/-- The fault that a call has met. A call that would block, or that was
    interrupted, may be made again and has met none. -/
def fault? : SocketCall → Option Fault
  | read (.error fault) =>
    if fault.kind = .wouldBlock ∨ fault.kind = .interrupted then none else some fault
  | write _ (.error fault) =>
    if fault.kind = .wouldBlock ∨ fault.kind = .interrupted then none else some fault
  | _ => none

end SocketCall

namespace Connection

/-! ## One pass -/

/-- A read call after which reading goes on: its answer, the connection then,
    and the messages that came in. -/
inductive ReadPass (c : Connection) : ReadAnswer → Connection → List Message → Prop
  | again (fault : Fault) (hagain : fault.kind = .interrupted) : ReadPass c (.error fault) c []
  | fails (fault : Fault) (hfault : (SocketCall.read (.error fault)).fault? = some fault) :
      ReadPass c (.error fault) (c.fail fault) []
  | ends (data : ByteArray) (hnone : data.size = 0) : ReadPass c (.ok data) c.close []
  | refused (data : ByteArray) (o : Overflow) (hrefused : (c.inbound.feed data).refusal = some o) :
      ReadPass c (.ok data) { c with inbound := (c.inbound.feed data).framer }.close
        (c.inbound.feed data).messages.toList
  | fed (data : ByteArray) (hsome : data.size ≠ 0)
      (haccepted : (c.inbound.feed data).refusal = none) :
      ReadPass c (.ok data) { c with inbound := (c.inbound.feed data).framer }
        (c.inbound.feed data).messages.toList

/-- A write call after which writing goes on: what the socket was ready for, the
    connection then, and the answer of the call. -/
inductive WritePass (c : Connection) :
    Except Fault Nat → Connection → Except Fault Nat → Prop
  | again (fault : Fault) (hagain : fault.kind = .interrupted) :
      WritePass c (.error fault) c (.error fault)
  | fails (fault : Fault)
      (hfault : (SocketCall.write c.outbound.bytes (.error fault)).fault? = some fault) :
      WritePass c (.error fault) (c.fail fault) (.error fault)
  | ends (n : Nat) (hnone : min n c.outbound.size = 0) : WritePass c (.ok n) c.close (.ok 0)
  | taken (n : Nat) (hsome : min n c.outbound.size ≠ 0) :
      WritePass c (.ok n) { c with outbound := c.outbound.consume (min n c.outbound.size) }
        (.ok (min n c.outbound.size))

theorem readFrom_nil (c : Connection) :
    readFrom [] c = ⟨{ c with socket := { c.socket with reads := [] } }, [],
      if c.isActive then [.read (.error .wouldBlock)] else []⟩ := by
  rw [readFrom]
  split <;> rfl

theorem readFrom_ended (answers : List ReadAnswer) {c : Connection} (h : c.isActive = false) :
    readFrom answers c = ⟨{ c with socket := { c.socket with reads := answers } }, [], []⟩ := by
  cases answers with
  | nil => rw [readFrom_nil, h, if_neg Bool.false_ne_true]
  | cons answer later => rw [readFrom, h, if_neg Bool.false_ne_true]

/-- A socket that would block ends the loop, and after any other answer it goes
    on. -/
theorem readFrom_cons (answer : ReadAnswer) (later : List ReadAnswer) {c : Connection}
    (hactive : c.isActive = true) :
    (∃ fault, answer = .error fault ∧ fault.kind = .wouldBlock ∧
      readFrom (answer :: later) c
        = ⟨{ c with socket := { c.socket with reads := later } }, [], [.read (.error fault)]⟩) ∨
    ∃ c' ms, c.ReadPass answer c' ms ∧
      readFrom (answer :: later) c = ⟨(readFrom later c').connection,
        ms ++ (readFrom later c').messages, .read answer :: (readFrom later c').calls⟩ := by
  rw [readFrom, if_pos hactive]
  cases answer with
  | error fault =>
      by_cases hblock : fault.kind = .wouldBlock
      · left
        refine ⟨fault, rfl, hblock, ?_⟩
        simp only [if_pos hblock]
      · right
        by_cases hagain : fault.kind = .interrupted
        · refine ⟨c, [], .again fault hagain, ?_⟩
          simp only [if_neg hblock, if_pos hagain]
        · refine ⟨c.fail fault, [], .fails fault (if_neg (not_or.mpr ⟨hblock, hagain⟩)), ?_⟩
          simp only [if_neg hblock, if_neg hagain]
  | ok data =>
      right
      by_cases hend : data.size = 0
      · refine ⟨c.close, [], .ends data hend, ?_⟩
        simp only [if_pos hend]
      · simp only [if_neg hend]
        cases hrefusal : (c.inbound.feed data).refusal with
        | some o => exact ⟨_, _, .refused data o hrefusal, rfl⟩
        | none => exact ⟨_, _, .fed data hend hrefusal, rfl⟩

theorem flushFrom_nil (c : Connection) :
    flushFrom [] c = ({ c with socket := { c.socket with writes := [] } },
      if c.isActive && !c.outbound.isEmpty then [.write c.outbound.bytes (.error .wouldBlock)]
      else []) := by
  rw [flushFrom]
  split <;> rfl

theorem flushFrom_idle (answers : List (Except Fault Nat)) {c : Connection}
    (h : (c.isActive && !c.outbound.isEmpty) = false) :
    flushFrom answers c = ({ c with socket := { c.socket with writes := answers } }, []) := by
  cases answers with
  | nil => rw [flushFrom_nil, h, if_neg Bool.false_ne_true]
  | cons answer later =>
      unfold flushFrom
      simp only [h, Bool.false_eq_true, if_false]

/-- A socket that would block ends the loop, and after any other answer it goes
    on. -/
theorem flushFrom_cons (answer : Except Fault Nat) (later : List (Except Fault Nat))
    {c : Connection} (hready : (c.isActive && !c.outbound.isEmpty) = true) :
    (∃ fault, answer = .error fault ∧ fault.kind = .wouldBlock ∧
      flushFrom (answer :: later) c = ({ c with socket := { c.socket with writes := later } },
        [.write c.outbound.bytes (.error fault)])) ∨
    ∃ c' result, c.WritePass answer c' result ∧
      flushFrom (answer :: later) c = ((flushFrom later c').1,
        .write c.outbound.bytes result :: (flushFrom later c').2) := by
  cases answer with
  | error fault =>
      rw [flushFrom, if_pos hready]
      by_cases hblock : fault.kind = .wouldBlock
      · left
        refine ⟨fault, rfl, hblock, ?_⟩
        simp only [if_pos hblock]
      · right
        by_cases hagain : fault.kind = .interrupted
        · refine ⟨c, _, .again fault hagain, ?_⟩
          simp only [if_neg hblock, if_pos hagain]
        · refine ⟨c.fail fault, _, .fails fault (if_neg (not_or.mpr ⟨hblock, hagain⟩)), ?_⟩
          simp only [if_neg hblock, if_neg hagain]
  | ok n =>
      rw [flushFrom, if_pos hready]
      right
      by_cases hnone : min n c.outbound.size = 0
      · refine ⟨c.close, _, .ends n hnone, ?_⟩
        simp only [hnone, if_true]
      · refine ⟨_, _, .taken n hnone, ?_⟩
        simp only [if_neg hnone]

/-! ## Loops -/

/-- A law that goes on from one call to the next holds of reading, if it holds of
    one pass and of the end of the loop: without a call, or with one that would
    block. -/
theorem readFrom_law {R : Connection → List Message → List SocketCall → Connection → Prop}
    (htrans : ∀ {c c' c'' ms ms' calls calls'}, R c ms calls c' → R c' ms' calls' c'' →
      R c (ms ++ ms') (calls ++ calls') c'')
    (hrests : ∀ (c : Connection) reads,
      R c [] [] { c with socket := { c.socket with reads := reads } })
    (hblocks : ∀ (c : Connection) reads fault, fault.kind = .wouldBlock →
      R c [] [.read (.error fault)] { c with socket := { c.socket with reads := reads } })
    (hpass : ∀ {c answer c' ms}, c.isActive = true → c.ReadPass answer c' ms →
      R c ms [.read answer] c')
    (answers : List ReadAnswer) (c : Connection) :
    R c (readFrom answers c).messages (readFrom answers c).calls
      (readFrom answers c).connection := by
  induction answers generalizing c with
  | nil =>
      rw [readFrom_nil]
      split
      · exact hblocks c [] .wouldBlock rfl
      · exact hrests c []
  | cons answer later ih =>
      by_cases hactive : c.isActive = true
      · rcases readFrom_cons answer later hactive with
          ⟨fault, _, hblock, hstop⟩ | ⟨c', ms, hpassed, hgo⟩
        · rw [hstop]
          exact hblocks c later fault hblock
        · rw [hgo]
          exact htrans (hpass hactive hpassed) (ih c')
      · rw [readFrom_ended _ (Bool.eq_false_iff.mpr hactive)]
        exact hrests c _

/-- A law that goes on from one call to the next holds of writing, if it holds of
    one pass and of the end of the loop. -/
theorem flushFrom_law {R : Connection → List SocketCall → Connection → Prop}
    (htrans : ∀ {c c' c'' calls calls'}, R c calls c' → R c' calls' c'' →
      R c (calls ++ calls') c'')
    (hrests : ∀ (c : Connection) writes,
      R c [] { c with socket := { c.socket with writes := writes } })
    (hblocks : ∀ (c : Connection) writes fault, fault.kind = .wouldBlock →
      R c [.write c.outbound.bytes (.error fault)]
        { c with socket := { c.socket with writes := writes } })
    (hpass : ∀ {c answer c' result}, c.isActive = true → c.outbound.isEmpty = false →
      c.WritePass answer c' result → R c [.write c.outbound.bytes result] c')
    (answers : List (Except Fault Nat)) (c : Connection) :
    R c (flushFrom answers c).2 (flushFrom answers c).1 := by
  induction answers generalizing c with
  | nil =>
      rw [flushFrom_nil]
      split
      · exact hblocks c [] .wouldBlock rfl
      · exact hrests c []
  | cons answer later ih =>
      by_cases hready : (c.isActive && !c.outbound.isEmpty) = true
      · rcases flushFrom_cons answer later hready with
          ⟨fault, _, hblock, hstop⟩ | ⟨c', result, hpassed, hgo⟩
        · rw [hstop]
          exact hblocks c later fault hblock
        · rw [hgo]
          rw [Bool.and_eq_true, Bool.not_eq_true'] at hready
          exact htrans (hpass hready.1 hready.2 hpassed) (ih c')
      · rw [flushFrom_idle _ (Bool.eq_false_iff.mpr hready)]
        exact hrests c _

section Keeps

variable {P : Connection → Prop} (hsocket : ∀ c socket, P c → P { c with socket := socket })
  (hclose : ∀ c, P c → P c.close) (hfail : ∀ c fault, P c → P (c.fail fault))

include hsocket hclose hfail

/-- A property that survives a change of the socket, of what comes in, and the
    end of the connection survives reading. -/
theorem readFrom_keeps (hinbound : ∀ c framer, P c → P { c with inbound := framer })
    (answers : List ReadAnswer) {c : Connection} (h : P c) :
    P (readFrom answers c).connection := by
  refine readFrom_law (R := fun c _ _ c' => P c → P c') (fun hfirst hthen hc => hthen (hfirst hc))
    (fun c _ => hsocket c _) (fun c _ _ _ => hsocket c _) (fun {c} _ _ _ _ hpass hc => ?_)
    answers c h
  cases hpass with
  | again => exact hc
  | fails fault => exact hfail c fault hc
  | ends => exact hclose c hc
  | refused => exact hclose _ (hinbound c _ hc)
  | fed => exact hinbound c _ hc

/-- A property that survives a change of the socket, the loss of the first bytes
    of a queue that is not empty, and the end of the connection survives writing. -/
theorem flushFrom_keeps
    (hconsume : ∀ c n, c.isActive = true → c.outbound.isEmpty = false → P c →
      P { c with outbound := c.outbound.consume n })
    (answers : List (Except Fault Nat)) {c : Connection} (h : P c) :
    P (flushFrom answers c).1 := by
  refine flushFrom_law (R := fun c _ c' => P c → P c') (fun hfirst hthen hc => hthen (hfirst hc))
    (fun c _ => hsocket c _) (fun c _ _ _ => hsocket c _)
    (fun {c} _ _ _ hactive hwaits hpass hc => ?_) answers c h
  cases hpass with
  | again => exact hc
  | fails fault => exact hfail c fault hc
  | ends => exact hclose c hc
  | taken => exact hconsume c _ hactive hwaits hc

end Keeps

/-- An event is a read, then a write, then a close, and each of them may be left
    out. Only an error or a hangup closes. -/
theorem handle_parts (c : Connection) (e : Event) :
    ∃ received flushed,
      (received = c.readReady ∨ received = ⟨c, [], []⟩) ∧
      (flushed = received.connection.flushReady ∨ flushed = (received.connection, [])) ∧
      ((c.handle e).connection = flushed.1.close ∧ (e.error || e.hangup) = true ∨
        (c.handle e).connection = flushed.1) ∧
      (c.handle e).messages = received.messages ∧
      (c.handle e).calls = received.calls ++ flushed.2 := by
  unfold handle
  dsimp only
  refine ⟨if e.readable || e.hangup || e.error then c.readReady else ⟨c, [], []⟩, _, ?_, ?_, ?_,
    rfl, rfl⟩
  · exact ite_eq_or_eq _ _ _
  · exact ite_eq_or_eq _ _ _
  · split
    · exact Or.inl ⟨rfl, ‹_›⟩
    · exact Or.inr rfl

/-- A law that holds of a read, a write and a close and that goes on from one to
    the next holds of an event. The messages and the calls add up. -/
theorem handle_law {R : Connection → List Message → List SocketCall → Connection → Prop}
    (hrefl : ∀ c, R c [] [] c)
    (htrans : ∀ {c c' c'' ms ms' calls calls'}, R c ms calls c' → R c' ms' calls' c'' →
      R c (ms ++ ms') (calls ++ calls') c'')
    (hread : ∀ c, R c c.readReady.messages c.readReady.calls c.readReady.connection)
    (hwrite : ∀ c, R c [] c.flushReady.2 c.flushReady.1) (hclose : ∀ c, R c [] [] c.close)
    (c : Connection) (e : Event) :
    R c (c.handle e).messages (c.handle e).calls (c.handle e).connection := by
  rcases c.handle_parts e with ⟨received, flushed, hr, hw, hend, hmessages, hcalls⟩
  have hreceived : R c received.messages received.calls received.connection := by
    rcases hr with rfl | rfl
    · exact hread c
    · exact hrefl c
  have hflushed : R received.connection [] flushed.2 flushed.1 := by
    rcases hw with rfl | rfl
    · exact hwrite _
    · exact hrefl _
  have hended : R flushed.1 [] [] (c.handle e).connection := by
    rcases hend with ⟨h, _⟩ | h
    · rw [h]
      exact hclose _
    · rw [h]
      exact hrefl _
  have hall := htrans (htrans hreceived hflushed) hended
  simp only [List.append_nil] at hall
  rw [hmessages, hcalls]
  exact hall

/-! ## Calls -/

theorem mem_calls_readFrom (answers : List ReadAnswer) (c : Connection) :
    ∀ call ∈ (readFrom answers c).calls, ∃ answer, call = .read answer :=
  readFrom_law (R := fun _ _ calls _ => ∀ call ∈ calls, ∃ answer, call = .read answer)
    (fun h h' => List.forall_mem_append.mpr ⟨h, h'⟩) (fun _ _ => List.forall_mem_nil _)
    (fun _ _ _ _ => List.forall_mem_singleton.mpr ⟨_, rfl⟩)
    (fun _ _ => List.forall_mem_singleton.mpr ⟨_, rfl⟩) answers c

theorem mem_calls_flushFrom (answers : List (Except Fault Nat)) (c : Connection) :
    ∀ call ∈ (flushFrom answers c).2, ∃ offered answer, call = .write offered answer :=
  flushFrom_law
    (R := fun _ calls _ => ∀ call ∈ calls, ∃ offered answer, call = .write offered answer)
    (fun h h' => List.forall_mem_append.mpr ⟨h, h'⟩) (fun _ _ => List.forall_mem_nil _)
    (fun _ _ _ _ => List.forall_mem_singleton.mpr ⟨_, _, rfl⟩)
    (fun _ _ _ => List.forall_mem_singleton.mpr ⟨_, _, rfl⟩) answers c

/-! ## States -/

theorem rank_le_close (c : Connection) : c.state.rank ≤ c.close.state.rank := by
  unfold close isActive
  cases hstate : c.state with
  | connecting => exact Nat.zero_le _
  | opened => exact Nat.le_succ 1
  | closing => exact Nat.le_of_eq (congrArg _ hstate.symm)
  | removed => exact Nat.le_of_eq (congrArg _ hstate.symm)

theorem rank_le_fail (c : Connection) (fault : Fault) :
    c.state.rank ≤ (c.fail fault).state.rank :=
  rank_le_close { c with failure := c.failure.or (some fault) }

theorem rank_le_markOpen (c : Connection) : c.state.rank ≤ c.markOpen.state.rank := by
  unfold markOpen
  by_cases hstate : c.state = .connecting
  · rw [if_pos hstate, hstate]
    exact Nat.zero_le _
  · exact Nat.le_of_eq (by rw [if_neg hstate])

theorem rank_le_setInterest (c : Connection) (interest : Interest) :
    c.state.rank ≤ (c.setInterest interest).1.state.rank := by
  unfold setInterest
  cases c.registration with
  | none => exact Nat.le_refl _
  | some r =>
      dsimp only
      split
      · exact Nat.le_refl _
      · exact rank_le_close { c with
          registration := some (r.setInterest c.socket interest).registration
          socket := (r.setInterest c.socket interest).socket }

theorem rank_le_readFrom (answers : List ReadAnswer) (c : Connection) :
    c.state.rank ≤ (readFrom answers c).connection.state.rank :=
  readFrom_keeps (P := fun c' => c.state.rank ≤ c'.state.rank) (fun _ _ h => h)
    (fun c' h => Nat.le_trans h (rank_le_close c'))
    (fun c' fault h => Nat.le_trans h (rank_le_fail c' fault))
    (fun _ _ h => h) answers (Nat.le_refl _)

theorem rank_le_flushFrom (answers : List (Except Fault Nat)) (c : Connection) :
    c.state.rank ≤ (flushFrom answers c).1.state.rank :=
  flushFrom_keeps (P := fun c' => c.state.rank ≤ c'.state.rank) (fun _ _ h => h)
    (fun c' h => Nat.le_trans h (rank_le_close c'))
    (fun c' fault h => Nat.le_trans h (rank_le_fail c' fault))
    (fun _ _ _ _ h => h) answers (Nat.le_refl _)

theorem rank_le_flushReady (c : Connection) : c.state.rank ≤ c.flushReady.1.state.rank := by
  unfold flushReady
  have hflushed := rank_le_flushFrom c.socket.writes c
  dsimp only
  split
  · exact Nat.le_trans hflushed (rank_le_setInterest _ _)
  · exact hflushed

theorem rank_le_queueBytes (c : Connection) (data : ByteArray) :
    c.state.rank ≤ (c.queueBytes data).connection.state.rank := by
  unfold queueBytes
  split
  · exact rank_le_close c
  · rename_i outbound _
    exact rank_le_setInterest { c with outbound := outbound } .both

/-! ## Last calls -/

theorem active_of_readFrom {answers : List ReadAnswer} {c : Connection}
    (h : (readFrom answers c).connection.isActive = true) : c.isActive = true := by
  cases hactive : c.isActive with
  | true => rfl
  | false =>
      rw [readFrom_ended answers hactive] at h
      exact absurd (hactive.symm.trans h) Bool.false_ne_true

/-- Reading that leaves the connection active was ended by a socket that would
    block. -/
theorem readFrom_blocks (answers : List ReadAnswer) {c : Connection}
    (h : (readFrom answers c).connection.isActive = true) :
    ∃ before fault, (readFrom answers c).calls = before ++ [.read (.error fault)] ∧
      fault.kind = .wouldBlock := by
  induction answers generalizing c with
  | nil =>
      have hactive := active_of_readFrom h
      rw [readFrom_nil, if_pos hactive]
      exact ⟨[], .wouldBlock, rfl, rfl⟩
  | cons answer later ih =>
      rcases readFrom_cons answer later (active_of_readFrom h) with
        ⟨fault, _, hblock, hstop⟩ | ⟨c', ms, _, hgo⟩
      · rw [hstop]
        exact ⟨[], fault, rfl, hblock⟩
      · rw [hgo] at h ⊢
        rcases ih h with ⟨before, fault, hcalls, hblock⟩
        refine ⟨.read answer :: before, fault, ?_, hblock⟩
        rw [hcalls, List.cons_append]

/-- Writing that leaves the connection active and bytes in the queue was ended
    by a socket that would block. -/
theorem flushFrom_blocks (answers : List (Except Fault Nat)) {c : Connection}
    (hactive : (flushFrom answers c).1.isActive = true)
    (hleft : (flushFrom answers c).1.outbound.isEmpty = false) :
    ∃ before offered fault, (flushFrom answers c).2 = before ++ [.write offered (.error fault)] ∧
      fault.kind = .wouldBlock := by
  induction answers generalizing c with
  | nil =>
      rw [flushFrom_nil] at hactive hleft ⊢
      have hready : (c.isActive && !c.outbound.isEmpty) = true := by
        rw [Bool.and_eq_true, Bool.not_eq_true']
        exact ⟨hactive, hleft⟩
      rw [if_pos hready]
      exact ⟨[], _, .wouldBlock, rfl, rfl⟩
  | cons answer later ih =>
      by_cases hready : (c.isActive && !c.outbound.isEmpty) = true
      · rcases flushFrom_cons answer later hready with
          ⟨fault, _, hblock, hstop⟩ | ⟨c', result, _, hgo⟩
        · rw [hstop]
          exact ⟨[], _, fault, rfl, hblock⟩
        · rw [hgo] at hactive hleft ⊢
          rcases ih hactive hleft with ⟨before, offered, fault, hcalls, hblock⟩
          refine ⟨.write c.outbound.bytes result :: before, offered, fault, ?_, hblock⟩
          rw [hcalls, List.cons_append]
      · -- A loop that has not begun has found nothing to do.
        rw [flushFrom_idle _ (Bool.eq_false_iff.mpr hready)] at hactive hleft
        rw [Bool.and_eq_true, Bool.not_eq_true'] at hready
        exact absurd ⟨hactive, hleft⟩ hready

end Connection

end LineChat
