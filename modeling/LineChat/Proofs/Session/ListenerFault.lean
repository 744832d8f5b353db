import Mathlib.Data.List.Forall2
import LineChat.Proofs.Session.Removal

/-!
# Faults of a Listener

A listener that fails does not cut a batch short, and its failure is not lost.

When accepting meets a fault that does not go away it stops, as it does when
nothing waits any more, and the batch goes on with its next event. So the law
compares two batches with the same events: in one the listener fails, and in the
other it says instead that nothing waits. `Calmed` allows that change at any of
the answers, and `Batch.Alike` says that the two batches have the same peers and
messages and the same record but for the faults themselves. One event keeps them
alike (`alike_step`), since the peers never look at the listener.

What an update answers is an account of the answers that were taken from the
listener. They are the first of those that it had (`Batch.Accounts`), the record
tells of each of them in order, and the last fault among them that does not go
away is the one that is reported.

A batch only lets peers in. Those that were there before the fault are there when
the marked peers are taken out, and so are those that came in before it.

## Main definitions

* `Fault.lasts`: A fault of a listener that does not go away.
* `AcceptAnswer.Calmed`: A listener that has nothing to give where another fails.
* `besidesFaults`: A record without the faults of the listener that last.
* `Batch.Accounts`: The answers that a batch has taken from the listener.
* `Batch.Alike`: Batches that differ only in the faults of the listener.

## Theorems

* `acceptAll_cons`: The first answer to accepting.
* `accounts_step`, `alike_step`, `grown_step`: One event.
* `accounts_batch`, `alike_batch`, `grown_batch`: Every batch.
* `listener_fault_leaves_batch_whole`: The law for every run.
-/

namespace LineChat

/-! ## Answers of a listener -/

/-- A fault of a listener that does not go away: it does not say that nothing
    waits, and it does not belong to one connection or to one call. -/
def Fault.lasts (fault : Fault) : Bool :=
  fault.kind ∉ [FaultKind.wouldBlock, .interrupted, .connectionAborted, .connectionReset]

namespace AcceptAnswer

/-- The fault that does not go away, if the answer is one. -/
def lasting? : AcceptAnswer → Option Fault
  | .error fault => if fault.lasts then some fault else none
  | .ok _ => none

/-- What a record tells of an answer. That nothing waits is not told. -/
def told? : AcceptAnswer → Option (Except Fault SocketAddress)
  | .ok (_, address) => some (.ok address)
  | .error fault => if fault.kind = .wouldBlock then none else some (.error fault)

/-- The same answer, or that nothing waits instead of a fault that lasts. -/
inductive Calmed : AcceptAnswer → AcceptAnswer → Prop
  | same (answer : AcceptAnswer) : Calmed answer answer
  | calmed (fault blocked : Fault) (hlasts : fault.lasts = true)
      (hblock : blocked.kind = .wouldBlock) : Calmed (.error fault) (.error blocked)

end AcceptAnswer

theorem Fault.lasts_iff (fault : Fault) : fault.lasts = true ↔
    fault.kind ≠ .wouldBlock ∧ fault.kind ≠ .interrupted ∧ fault.kind ≠ .connectionAborted ∧
      fault.kind ≠ .connectionReset := by
  simp [lasts]

namespace Deed

/-- The answer of the listener that a deed tells of. -/
def accept? : Deed → Option (Except Fault SocketAddress)
  | joined _ address => some (.ok address)
  | turnedAway address => some (.ok address)
  | notRegistered _ address _ => some (.ok address)
  | acceptFault fault => some (.error fault)
  | _ => none

/-- The deed tells of a fault of the listener that does not go away. -/
def isLasting : Deed → Bool
  | acceptFault fault => fault.lasts
  | _ => false

end Deed

/-- The answers of the listener that a record tells of, in order. -/
def acceptsOf (ds : List Deed) : List (Except Fault SocketAddress) := ds.filterMap Deed.accept?

/-- A record without the faults of the listener that do not go away. -/
def besidesFaults (ds : List Deed) : List Deed := ds.filter (!·.isLasting)

@[simp] theorem acceptsOf_append (ds es : List Deed) :
    acceptsOf (ds ++ es) = acceptsOf ds ++ acceptsOf es := List.filterMap_append

@[simp] theorem besidesFaults_append (ds es : List Deed) :
    besidesFaults (ds ++ es) = besidesFaults ds ++ besidesFaults es := List.filter_append ..

/-! ## Deeds that do not come from the listener -/

section Others

@[simp] theorem acceptsOf_map_called (id : PeerId) (calls : List SocketCall) :
    acceptsOf (calls.map (.called id)) = [] := by
  unfold acceptsOf
  rw [List.filterMap_map, List.filterMap_eq_nil_iff]
  exact fun _ _ => rfl

@[simp] theorem acceptsOf_map_framed (sender : Option PeerId) (ms : List Message) :
    acceptsOf (ms.map (.framed sender)) = [] := by
  unfold acceptsOf
  rw [List.filterMap_map, List.filterMap_eq_nil_iff]
  exact fun _ _ => rfl

theorem acceptsOf_dispatch (e : Event) (r : Registry) : acceptsOf (dispatch e r).2.deeds = [] := by
  rcases dispatch_cases e r with ⟨hnothing, _⟩ | ⟨c, _, _, hhandled⟩
  · rw [hnothing]
    rfl
  · simp [hhandled]

theorem acceptsOf_fanOutTo (sender : Option PeerId) (m : Message) (ps : List Peer) (r : Registry) :
    acceptsOf (fanOutTo sender m ps r).deeds = [] := by
  induction ps generalizing r with
  | nil => rfl
  | cons p ps ih =>
      rw [fanOutTo]
      split
      · exact ih r
      · simp [ih]

theorem acceptsOf_fanOutAll (sender : Option PeerId) (ms : List Message) (r : Registry) :
    acceptsOf (fanOutAll sender ms r).deeds = [] := by
  induction ms generalizing r with
  | nil => rfl
  | cons m ms ih =>
      rw [fanOutAll, acceptsOf_append, fanOut, acceptsOf_fanOutTo, ih, List.append_nil]

theorem acceptsOf_releaseMarked (ids : List PeerId) (r : Registry) :
    acceptsOf (releaseMarked ids r).deeds = [] := by
  induction ids generalizing r with
  | nil => rfl
  | cons id ids ih =>
      rw [releaseMarked]
      cases r.get? id with
      | none => exact ih r
      | some c =>
          dsimp only
          rw [acceptsOf_append, acceptsOf_map_called]
          exact ih (r.erase id)

end Others

/-! ## Accepting -/

theorem acceptAll_blocks (limit : Nat) {fault : Fault} (h : fault.kind = .wouldBlock)
    (later : List AcceptAnswer) (r : Registry) :
    acceptAll limit (.error fault :: later) r = ⟨r, later, [], none⟩ := by
  rw [acceptAll]
  simp only [h]

theorem acceptAll_fails (limit : Nat) {fault : Fault} (h : fault.lasts = true)
    (later : List AcceptAnswer) (r : Registry) :
    acceptAll limit (.error fault :: later) r
      = ⟨r, later, [.acceptFault fault], some fault⟩ := by
  rcases fault.lasts_iff.mp h with ⟨hblock, hagain, haborted, hreset⟩
  rw [acceptAll]
  split
  · exact absurd ‹_› hblock
  · exact absurd ‹_› hagain
  · exact absurd ‹_› haborted
  · exact absurd ‹_› hreset
  · rfl

/-- The first answer to accepting: nothing waits, or the listener fails for good,
    and accepting ends; or else accepting goes on. What the answer does depends on
    the peers only, not on the answers behind it. -/
theorem acceptAll_cons (limit : Nat) (answer : AcceptAnswer) (r : Registry) :
    (∃ fault, answer = .error fault ∧ fault.kind = .wouldBlock ∧
      ∀ later, acceptAll limit (answer :: later) r = ⟨r, later, [], none⟩) ∨
    (∃ fault, answer = .error fault ∧ fault.lasts = true ∧
      ∀ later, acceptAll limit (answer :: later) r
        = ⟨r, later, [.acceptFault fault], some fault⟩) ∨
    answer.lasting? = none ∧ ∃ es r', Arrival limit r es r' ∧
      acceptsOf es = answer.told?.toList ∧ ∀ later,
      acceptAll limit (answer :: later) r = ⟨(acceptAll limit later r').registry,
        (acceptAll limit later r').arrivals, es ++ (acceptAll limit later r').deeds,
        (acceptAll limit later r').fault⟩ := by
  cases answer with
  | error fault =>
      by_cases hblock : fault.kind = .wouldBlock
      · exact Or.inl ⟨fault, rfl, hblock, fun later => acceptAll_blocks limit hblock later r⟩
      · right
        by_cases hlasts : fault.lasts = true
        · exact Or.inl ⟨fault, rfl, hlasts, fun later => acceptAll_fails limit hlasts later r⟩
        · right
          have htold : AcceptAnswer.told? (.error fault) = some (.error fault) := if_neg hblock
          refine ⟨if_neg hlasts, _, _, .acceptFault fault, ?_, fun later => ?_⟩
          · rw [htold]
            rfl
          · rw [acceptAll]
            split
            · exact absurd ‹_› hblock
            · rfl
            · rfl
            · rfl
            · exact absurd (fault.lasts_iff.mpr ⟨‹_›, ‹_›, ‹_›, ‹_›⟩) hlasts
  | ok connection =>
      rcases connection with ⟨socket, address⟩
      refine Or.inr (Or.inr ⟨rfl, ?_⟩)
      cases hfull : r.isFull with
      | true =>
          refine ⟨_, _, .turnAway address hfull, rfl, fun later => ?_⟩
          rw [acceptAll, if_pos hfull]
          rfl
      | false =>
          cases hjoined : Connection.accepted socket address r.allocate.1.token limit with
          | error fault =>
              refine ⟨_, _, .lose socket address fault hfull hjoined, rfl, fun later => ?_⟩
              rw [acceptAll]
              simp only [hfull, Bool.false_eq_true, if_false, hjoined]
              rfl
          | ok c =>
              refine ⟨_, _, .join socket address c hfull hjoined, rfl, fun later => ?_⟩
              rw [acceptAll]
              simp only [hfull, Bool.false_eq_true, if_false, hjoined]
              rfl

/-- The answers that accepting takes are the first ones, each is told of but the
    last if nothing waits, and the last is reported if it is a fault that lasts. -/
theorem acceptAll_accounts (limit : Nat) (arrivals : List AcceptAnswer) (r : Registry) :
    ∃ taken, arrivals = taken ++ (acceptAll limit arrivals r).arrivals ∧
      acceptsOf (acceptAll limit arrivals r).deeds = taken.filterMap AcceptAnswer.told? ∧
      (acceptAll limit arrivals r).fault = (taken.filterMap AcceptAnswer.lasting?).getLast? := by
  induction arrivals generalizing r with
  | nil => exact ⟨[], rfl, rfl, rfl⟩
  | cons answer later ih =>
      rcases acceptAll_cons limit answer r with
        ⟨fault, rfl, hblock, hstop⟩ | ⟨fault, rfl, hlasts, hstop⟩ | ⟨hpassed, es, r', _, htold, hgo⟩
      · have hno : fault.lasts = false := by
          cases hlasts : fault.lasts with
          | true => exact absurd hblock (fault.lasts_iff.mp hlasts).1
          | false => rfl
        refine ⟨[.error fault], ?_, ?_, ?_⟩
        · rw [hstop]
          rfl
        · rw [hstop]
          simp [AcceptAnswer.told?, hblock, acceptsOf]
        · rw [hstop]
          simp [AcceptAnswer.lasting?, hno]
      · have hwaits := (fault.lasts_iff.mp hlasts).1
        refine ⟨[.error fault], ?_, ?_, ?_⟩
        · rw [hstop]
          rfl
        · rw [hstop]
          simp [AcceptAnswer.told?, hwaits, acceptsOf, Deed.accept?]
        · rw [hstop]
          simp [AcceptAnswer.lasting?, hlasts]
      · rcases ih r' with ⟨taken, harrivals, hnoted, hfault⟩
        refine ⟨answer :: taken, ?_, ?_, ?_⟩
        · rw [hgo, List.cons_append, ← harrivals]
        · rw [hgo, acceptsOf_append, htold, hnoted, List.filterMap_cons]
          cases answer.told? <;> rfl
        · rw [hgo, List.filterMap_cons, hpassed]
          exact hfault

/-- Accepting goes the same way if the listener has nothing to give where it would
    have failed. -/
theorem acceptAll_calmed (limit : Nat) {arrivals arrivals' : List AcceptAnswer}
    (h : List.Forall₂ AcceptAnswer.Calmed arrivals arrivals') (r : Registry) :
    (acceptAll limit arrivals' r).registry = (acceptAll limit arrivals r).registry ∧
      List.Forall₂ AcceptAnswer.Calmed (acceptAll limit arrivals r).arrivals
        (acceptAll limit arrivals' r).arrivals ∧
      besidesFaults (acceptAll limit arrivals' r).deeds
        = besidesFaults (acceptAll limit arrivals r).deeds := by
  induction h generalizing r with
  | nil => exact ⟨rfl, .nil, rfl⟩
  | @cons answer answer' later later' hanswer hlater ih =>
      cases hanswer with
      | same =>
          rcases acceptAll_cons limit answer r with
            ⟨fault, _, _, hstop⟩ | ⟨fault, _, _, hstop⟩ | ⟨_, es, r', _, _, hgo⟩
          · rw [hstop, hstop]
            exact ⟨rfl, hlater, rfl⟩
          · rw [hstop, hstop]
            exact ⟨rfl, hlater, rfl⟩
          · rcases ih r' with ⟨hregistry, harrivals, hdeeds⟩
            rw [hgo, hgo]
            refine ⟨hregistry, harrivals, ?_⟩
            rw [besidesFaults_append, besidesFaults_append, hdeeds]
      | calmed fault blocked hlasts hblock =>
          -- Both end here, and only one of them with a deed.
          rw [acceptAll_fails limit hlasts, acceptAll_blocks limit hblock]
          refine ⟨rfl, hlater, ?_⟩
          simp [besidesFaults, Deed.isLasting, hlasts]

theorem ids_acceptAll (limit : Nat) (arrivals : List AcceptAnswer) (r : Registry) :
    (acceptAll limit arrivals r).registry.ids
      = r.ids ++ newcomers (acceptAll limit arrivals r).deeds := by
  refine acceptAll_law (R := fun r es r' => r'.ids = r.ids ++ newcomers es)
    (fun _ => (List.append_nil _).symm) (fun h h' => ?_) (fun {r _ _} harrival => ?_) arrivals r
  · rw [h', h, newcomers_append, List.append_assoc]
  · cases harrival with
    | turnAway => exact (List.append_nil _).symm
    | acceptFault => exact (List.append_nil _).symm
    | lose => exact (List.append_nil _).symm
    | join socket address c => exact List.map_append

theorem ids_fanOutAll (sender : Option PeerId) (ms : List Message) (r : Registry) :
    (fanOutAll sender ms r).registry.ids = r.ids ∧
      newcomers (fanOutAll sender ms r).deeds = [] := by
  induction ms generalizing r with
  | nil => exact ⟨rfl, rfl⟩
  | cons m ms ih =>
      rcases record_fanOut sender m r with ⟨_, hnew, hids, _⟩
      rcases ih (fanOut sender m r).registry with ⟨hids', hnew'⟩
      refine ⟨hids'.trans hids, ?_⟩
      rw [fanOutAll, newcomers_append, hnew, hnew', List.append_nil]

/-! ## Batches -/

namespace Batch

/-- The batch has gone on from `b` to `b'` and has taken these answers from the
    listener. The record tells of each, and the last fault that does not go away
    is kept. -/
structure Accounts (b : Batch) (taken : List AcceptAnswer) (b' : Batch) : Prop where
  arrivals : b.arrivals = taken ++ b'.arrivals
  told : acceptsOf b'.deeds = acceptsOf b.deeds ++ taken.filterMap AcceptAnswer.told?
  fault : b'.fault = (taken.filterMap AcceptAnswer.lasting?).getLast?.or b.fault

/-- Two batches that differ only in the faults of the listener. -/
structure Alike (b b' : Batch) : Prop where
  registry : b'.registry = b.registry
  messages : b'.messages = b.messages
  arrivals : List.Forall₂ AcceptAnswer.Calmed b.arrivals b'.arrivals
  deeds : besidesFaults b'.deeds = besidesFaults b.deeds

/-- The peers are those of `ids` and behind them those that have come in. -/
def Grown (ids : List PeerId) (b : Batch) : Prop := b.registry.ids = ids ++ newcomers b.deeds

variable {b b' b'' : Batch} {taken taken' : List AcceptAnswer}

theorem Accounts.trans (h : b.Accounts taken b') (h' : b'.Accounts taken' b'') :
    b.Accounts (taken ++ taken') b'' := by
  refine ⟨?_, ?_, ?_⟩
  · rw [h.arrivals, h'.arrivals, List.append_assoc]
  · rw [h'.told, h.told, List.filterMap_append, List.append_assoc]
  · rw [h'.fault, h.fault, List.filterMap_append, List.getLast?_append, Option.or_assoc]

theorem accounts_step (limit : Nat) (b : Batch) (e : Event) :
    ∃ taken, b.Accounts taken (b.step limit e) := by
  unfold step
  by_cases hlistener : e.token = listenerToken
  · rw [if_pos hlistener]
    rcases acceptAll_accounts limit b.arrivals b.registry with ⟨taken, harrivals, htold, hfault⟩
    refine ⟨taken, harrivals, ?_, ?_⟩
    · rw [acceptsOf_append, htold]
    · rw [← hfault]
  · rw [if_neg hlistener]
    refine ⟨[], rfl, ?_, rfl⟩
    simp [acceptsOf_dispatch, acceptsOf_fanOutAll]

theorem accounts_batch (limit : Nat) (events : List Event) (b : Batch) :
    ∃ taken, b.Accounts taken (events.foldl (step limit) b) := by
  induction events generalizing b with
  | nil => exact ⟨[], rfl, (List.append_nil _).symm, rfl⟩
  | cons e events ih =>
      rcases accounts_step limit b e with ⟨taken, hfirst⟩
      rcases ih (b.step limit e) with ⟨taken', hrest⟩
      exact ⟨taken ++ taken', hfirst.trans hrest⟩

/-- An event finds the same peers, whatever the listener did before. -/
theorem alike_step (limit : Nat) (h : b.Alike b') (e : Event) :
    (b.step limit e).Alike (b'.step limit e) := by
  unfold step
  by_cases hlistener : e.token = listenerToken
  · rw [if_pos hlistener, if_pos hlistener, h.registry]
    rcases acceptAll_calmed limit h.arrivals b.registry with ⟨hregistry, harrivals, hdeeds⟩
    refine ⟨hregistry, h.messages, harrivals, ?_⟩
    rw [besidesFaults_append, besidesFaults_append, h.deeds, hdeeds]
  · rw [if_neg hlistener, if_neg hlistener, h.registry]
    refine ⟨rfl, ?_, h.arrivals, ?_⟩
    · exact congrArg (· ++ _) h.messages
    · dsimp only
      simp only [besidesFaults_append, h.deeds]

theorem alike_batch (limit : Nat) (events : List Event) (h : b.Alike b') :
    (events.foldl (step limit) b).Alike (events.foldl (step limit) b') := by
  induction events generalizing b b' with
  | nil => exact h
  | cons e events ih => exact ih (alike_step limit h e)

theorem grown_step (limit : Nat) {ids : List PeerId} (h : b.Grown ids) (e : Event) :
    (b.step limit e).Grown ids := by
  unfold Grown at h ⊢
  unfold step
  by_cases hlistener : e.token = listenerToken
  · rw [if_pos hlistener]
    dsimp only
    rw [ids_acceptAll, newcomers_append, h, List.append_assoc]
  · rw [if_neg hlistener]
    rcases record_dispatch e b.registry with ⟨_, hnew, hids, _⟩
    rcases ids_fanOutAll (some (PeerId.ofToken e.token)) (dispatch e b.registry).1
      (dispatch e b.registry).2.registry with ⟨hids', hnew'⟩
    dsimp only
    rw [newcomers_append, newcomers_append, hnew, hnew', List.append_nil, List.append_nil, hids',
      hids, h]

/-- A batch only lets peers in. -/
theorem grown_batch (limit : Nat) (events : List Event) {ids : List PeerId} (h : b.Grown ids) :
    (events.foldl (step limit) b).Grown ids := by
  induction events generalizing b with
  | nil => exact h
  | cons e events ih => exact ih (grown_step limit h e)

end Batch

theorem Registry.get?_of_mem_ids {r : Registry} {q : PeerId} (h : q ∈ r.ids) :
    ∃ c, r.get? q = some c := by
  rcases List.mem_map.mp h with ⟨p, hp, hid⟩
  have hfound : (r.peers.find? (·.id = q)).isSome = true :=
    List.find?_isSome.mpr ⟨p, hp, decide_eq_true hid⟩
  rcases Option.isSome_iff_exists.mp hfound with ⟨p', hp'⟩
  refine ⟨p'.connection, ?_⟩
  unfold get?
  rw [hp']
  rfl

namespace Listening

variable (l : Listening) (limit : Nat) (arrivals : List AcceptAnswer)
  (sockets : PeerId → Option Socket) (events : List Event)

theorem accounts_during : ∃ taken,
    arrivals = taken ++ (l.during limit arrivals sockets events).arrivals ∧
    acceptsOf (l.during limit arrivals sockets events).deeds
      = taken.filterMap AcceptAnswer.told? ∧
    (l.during limit arrivals sockets events).fault
      = (taken.filterMap AcceptAnswer.lasting?).getLast? := by
  rcases Batch.accounts_batch limit events ⟨l.registry.equip sockets, arrivals, [], [], none⟩ with
    ⟨taken, harrivals, htold, hfault⟩
  rw [Option.or_none] at hfault
  exact ⟨taken, harrivals, htold, hfault⟩

-- Without a fault that lasts there is none to report.
theorem calm_during (hcalm : ∀ answer ∈ arrivals, AcceptAnswer.lasting? answer = none) :
    (l.during limit arrivals sockets events).fault = none := by
  rcases l.accounts_during limit arrivals sockets events with ⟨taken, harrivals, _, hfault⟩
  have hnone : taken.filterMap AcceptAnswer.lasting? = [] := by
    refine List.filterMap_eq_nil_iff.mpr fun answer hanswer => hcalm answer ?_
    rw [harrivals]
    exact List.mem_append_left _ hanswer
  rw [hfault, hnone]
  rfl

-- Whoever was there before the batch, or came in with it, is there behind it.
theorem get?_during {q : PeerId}
    (h : q ∈ l.registry.ids ∨ q ∈ newcomers (l.during limit arrivals sockets events).deeds) :
    ∃ c, (l.during limit arrivals sockets events).registry.get? q = some c := by
  have hgrown : (l.during limit arrivals sockets events).Grown l.registry.ids := by
    refine Batch.grown_batch limit events ?_
    unfold Batch.Grown
    rw [newcomers_nil, List.append_nil]
    exact Registry.ids_equip l.registry sockets
  unfold Batch.Grown at hgrown
  refine Registry.get?_of_mem_ids ?_
  rw [hgrown]
  exact List.mem_append.mpr h

theorem alike_during {arrivals' : List AcceptAnswer}
    (h : List.Forall₂ AcceptAnswer.Calmed arrivals arrivals') :
    (l.during limit arrivals sockets events).Alike (l.during limit arrivals' sockets events) :=
  Batch.alike_batch limit events ⟨rfl, rfl, h, rfl⟩

end Listening

/-- What the listener makes of an update. -/
def reported : Option Fault → Except SessionError Unit
  | none => .ok ()
  | some fault => .error (.system fault)

-- An update that was told of events, read off its batch.
theorem update_ready (s : Server) {l : Listening} (hl : s.listening = some l)
    (arrivals : List AcceptAnswer) (sockets : PeerId → Option Socket) (e : Event)
    (es : List Event) :
    let b := l.during s.config.maxBuffer arrivals sockets (e :: es)
    (s.equip arrivals sockets).update (.ok (e :: es)) =
      { answer := reported b.fault
        server := { s with
          listening := some { l with
            registry := (removeMarked b.registry).registry
            arrivals := b.arrivals }
          messages := s.messages ++ b.messages }
        deeds := b.deeds ++ (removeMarked b.registry).deeds } := by
  simp only [Server.equip, Server.update, hl, Option.map_some, waitOutcome, Server.dispatchBatch]
  rfl

/-- An update that was told of events takes the first answers of the listener and
    tells of each of them. It fails exactly if one of them is a fault that does not
    go away, and then with the last. Whoever was there, or came in before or
    behind such a fault, is there when the marked peers are taken out, and stays
    if it is active. And if the listener had nothing to give where it fails, at
    any of its answers, then the update would leave the same peers, messages and
    deeds, but for the faults themselves. -/
theorem listener_fault_leaves_batch_whole (config : ServerConfig) (port : UInt16)
    (address : SocketAddress) (arrivals₀ : List AcceptAnswer) (requests : List ServerRequest)
    (arrivals : List AcceptAnswer) (sockets : PeerId → Option Socket) (e : Event)
    (es : List Event) :
    let h := ServerHistory.serveAll requests (.opened config port address arrivals₀)
    let o := (h.server.equip arrivals sockets).update (.ok (e :: es))
    ∃ l l' taken, h.server.listening = some l ∧ o.server.listening = some l' ∧
      arrivals = taken ++ l'.arrivals ∧
      acceptsOf o.deeds = taken.filterMap AcceptAnswer.told? ∧
      o.answer = reported (taken.filterMap AcceptAnswer.lasting?).getLast? ∧
      (∀ q, q ∈ l.registry.ids ∨ q ∈ newcomers o.deeds →
        ∃ c, (l.during config.maxBuffer arrivals sockets (e :: es)).registry.get? q = some c ∧
          l'.registry.get? q = if c.isActive then some c else none) ∧
      ∀ arrivals', List.Forall₂ AcceptAnswer.Calmed arrivals arrivals' →
        let o' := (h.server.equip arrivals' sockets).update (.ok (e :: es))
        (∃ l'', o'.server.listening = some l'' ∧ l''.registry = l'.registry) ∧
        o'.server.messages = o.server.messages ∧ o'.server.outgoing = o.server.outgoing ∧
        besidesFaults o'.deeds = besidesFaults o.deeds ∧
        ((∀ answer ∈ arrivals', AcceptAnswer.lasting? answer = none) → o'.answer = .ok ()) := by
  intro h o
  rcases ServerHistory.course_of_opened config port address arrivals₀ requests with
    ⟨l, hl, hcourse⟩
  rcases ServerHistory.course_serveAll requests
    (ServerHistory.opened config port address arrivals₀) rfl with ⟨_, _, _, hconfig, _, _⟩
  have hlimit : h.server.config.maxBuffer = config.maxBuffer := congrArg (·.maxBuffer) hconfig
  have ho : o = _ := update_ready h.server hl arrivals sockets e es
  rw [hlimit] at ho
  have hb := l.course_during hcourse arrivals sockets (e :: es)
  rcases l.accounts_during config.maxBuffer arrivals sockets (e :: es) with
    ⟨taken, harrivals, htold, hfault⟩
  rw [ho]
  refine ⟨l, _, taken, hl, rfl, harrivals, ?_, ?_, fun q hq => ?_, fun arrivals' halike => ?_⟩
  · rw [acceptsOf_append, htold, removeMarked, acceptsOf_releaseMarked]
    exact List.append_nil _
  · exact congrArg reported hfault
  · rcases record_removeMarked (numbered_of_course hb).orderly with ⟨_, hnew, _, _⟩
    rw [newcomers_append, hnew, List.append_nil] at hq
    rcases l.get?_during config.maxBuffer arrivals sockets (e :: es) hq with ⟨c, hc⟩
    refine ⟨c, hc, ?_⟩
    have hlook := get?_removeMarked (marksEnded_of_course hb) q
    rwa [hc, Option.filter_some] at hlook
  · intro o'
    have ho' : o' = _ := update_ready h.server hl arrivals' sockets e es
    rw [hlimit] at ho'
    rcases l.alike_during config.maxBuffer arrivals sockets (e :: es) halike with
      ⟨hregistry, hmessages, _, hdeeds⟩
    rw [ho', hregistry, hmessages]
    refine ⟨⟨_, rfl, rfl⟩, rfl, rfl, ?_, fun hcalm => ?_⟩
    · rw [besidesFaults_append, besidesFaults_append, hdeeds]
    · exact congrArg reported (l.calm_during config.maxBuffer arrivals' sockets (e :: es) hcalm)

/-- A third connection is accepted, and then the listener has no descriptor left.
    The first peer still gets its line relayed in the same batch, the second is
    taken out after a hangup, and the third stays. With nothing to accept instead
    of the fault, the update succeeds. -/
theorem listener_fault_leaves_batch_whole_after_one :
    let address : UInt16 → SocketAddress := .v4 ⟨127, 0, 0, 1⟩
    let accepting : Event := ⟨0, true, false, false, false⟩
    let events : List Event := [⟨1, true, false, false, false⟩, ⟨2, false, false, true, false⟩]
    let requests : List ServerRequest := [.update
      [.ok (Socket.idle, address 1), .ok (Socket.idle, address 2)] (fun _ => none)
      (.ok [accepting])]
    let sockets : PeerId → Option Socket := fun q =>
      if q = ⟨1⟩ then some ⟨[.ok "hi\n".toUTF8], [], [], none⟩ else none
    let failing : List AcceptAnswer := [.ok (Socket.idle, address 3), .error (.errno 24)]
    let calm : List AcceptAnswer := [.ok (Socket.idle, address 3), .error .wouldBlock]
    let h := ServerHistory.serveAll requests (.opened ⟨3, 8, 4⟩ 1 (address 0) [])
    let o := (h.server.equip failing sockets).update (.ok (accepting :: events))
    let o' := (h.server.equip calm sockets).update (.ok (accepting :: events))
    o.answer = .error (.system (.errno 24)) ∧ o'.answer = .ok () ∧
      besidesFaults o'.deeds = besidesFaults o.deeds ∧
      o.server.messages.map Message.bytes = ["hi".toUTF8] ∧
      ∃ l', o.server.listening = some l' ∧ l'.registry.ids = [⟨1⟩, ⟨3⟩] := by
  intro address accepting events requests sockets failing calm h o o'
  rcases listener_fault_leaves_batch_whole ⟨3, 8, 4⟩ 1 (address 0) [] requests failing sockets
    accepting events with ⟨l, l', taken, _, hl', harrivals, _, hanswer, _, hcalmed⟩
  have hlook : (o.server.listening.map fun l' => (l'.arrivals.length, l'.registry.ids),
      o.server.messages.map Message.bytes)
      = (some (0, [⟨1⟩, ⟨3⟩]), ["hi".toUTF8]) := by decide +kernel
  rw [show o.server.listening = some l' from hl', Prod.mk.injEq, Option.map_some,
    Option.some.injEq, Prod.mk.injEq] at hlook
  rcases hlook with ⟨⟨hleft, hids⟩, hmessages⟩
  have htaken : taken = failing := by
    rw [harrivals, List.length_eq_zero_iff.mp hleft, List.append_nil]
  have hcalm : List.Forall₂ AcceptAnswer.Calmed failing calm :=
    .cons (.same _) (.cons (.calmed _ _ (by decide) rfl) .nil)
  rcases hcalmed calm hcalm with ⟨_, _, _, hdeeds, hok⟩
  refine ⟨?_, hok ?_, hdeeds, hmessages, l', hl', hids⟩
  · rw [show o.answer = _ from hanswer, htaken]
    rfl
  · decide +kernel

end LineChat
