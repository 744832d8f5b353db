import LineChat.Command.ClientRun
import LineChat.Proofs.Line.Resuming
import LineChat.Proofs.Session.Account

/-!
# What a Run Sends

A run of the client command that ends well has sent all that it was given.

The lines of a run go through a framer, at the end of standard input through a
case of their own, then into the queue of the client and piece by piece onto its
socket, while chunks of standard input, answers of the socket and time limits
come in any order. That nothing is left anywhere is never checked. The run looks
at three things at the beginning of a turn: standard input is not read any more,
the connection is open, and its queue is empty.

These are enough because of an account that every part of a turn keeps. As long
as the client has its connection, what was written and what is queued are the
lines that were sent (`Client.Owes`), and what standard input has given so far
is in these lines or is held by the framer (`pumpInput_takes`). A connection
that is open was not lost, so an empty queue means that everything was written.

## Main definitions

* `Client.Owes`: The bytes that were written or are queued.
* `ClientRun.Takes`: What a run takes from standard input.

## Theorems

* `owes_feed`, `owes_update`, `owes_sendAll`: Every operation keeps the account.
* `pumpInput_takes`: What standard input gives is sent or held.
* `turn_succeeds`, `turn_goesOn`: One turn.
* `play_sends`, `start_owes`: Turns until the run ends well, and where they begin.
* `successful_run_sends_every_line`: What a run has sent that ends well.
-/

namespace LineChat

/-! ## The account of a client -/

namespace Client

/-- The bytes that were written and those that are queued are `fed`, as long as
    the client has its connection. -/
def Owes (cl : Client) (calls : List SocketCall) (fed : ByteArray) : Prop :=
  ∀ c, cl.connection = some c → sentBytes calls ++ c.outbound.bytes = fed

variable {cl : Client} {calls : List SocketCall} {fed : ByteArray}

-- Whoever works on the connection keeps the account, whether the connection
-- survives the work or not.
theorem owes_moves {cl' : Client} {c : Connection} {calls' : List SocketCall} {queued : ByteArray}
    (h : cl.Owes calls fed) (hc : cl.connection = some c) (hmoves : cl.Moves cl' c calls' queued) :
    cl'.Owes (calls ++ calls') (fed ++ queued) := by
  rcases hmoves with ⟨c', ms, hcarries, _, _, hend⟩
  intro c₁ hc₁
  rcases hend with hthere | ⟨hgone, _⟩
  · rw [hthere, Option.some.injEq] at hc₁
    rw [← hc₁, sentBytes_append, ByteArray.append_assoc, ← hcarries.sent, ← ByteArray.append_assoc,
      h c hc]
  · rw [hgone] at hc₁
    cases hc₁

theorem owes_update (h : cl.Owes calls fed) (wait : WaitAnswer) :
    (cl.update wait).client.Owes (calls ++ (cl.update wait).calls) fed := by
  rcases cl.update_works wait with ⟨hclient, hcalls⟩ | ⟨c, hc, hworks⟩
  · rw [hclient, hcalls, List.append_nil]
    exact h
  · have hmoves := owes_moves h hc hworks.moves
    rwa [ByteArray.append_empty] at hmoves

theorem owes_feed (h : cl.Owes calls fed) {data : ByteArray}
    (hok : (cl.feed data).answer = .ok ()) :
    (cl.feed data).client.Owes (calls ++ (cl.feed data).calls) (fed ++ data) := by
  rcases cl.feed_works data with ⟨hclient, hcalls, hnothing⟩ | ⟨c, hc, hworks⟩
  · rw [hclient, hcalls, hnothing hok, List.append_nil, ByteArray.append_empty]
    exact h
  · have hmoves := owes_moves h hc hworks.moves
    rwa [hok] at hmoves

-- A client that has just connected has written nothing and owes nothing.
theorem owes_connect {config : ClientConfig} {d : Dialler} {target : String} :
    ((ofConfig config).connect d target).client.Owes
      ((ofConfig config).connect d target).calls ByteArray.empty := by
  intro c hc
  rcases (ofConfig config).connect_cases d target with
    ⟨hclient, _⟩ | ⟨_, _, c', ⟨_, _, hdialled⟩, hclient, hcalls⟩
  · rw [hclient] at hc
    cases hc
  · rw [hclient, Option.some.injEq] at hc
    rcases Connection.heard_of_register hdialled with ⟨_, hempty, _, _, _⟩
    rw [← hc, hempty, hcalls]
    rfl

end Client

namespace ClientRun

variable {r : ClientRun} {calls : List SocketCall} {fed : ByteArray}

-- An open connection was not lost, and an empty queue owes nothing.
theorem sent_of_delivered (h : r.client.Owes calls fed) (hdelivered : r.delivered = true) :
    sentBytes calls = fed := by
  unfold delivered at hdelivered
  rw [Bool.and_eq_true, beq_iff_eq, Bool.not_eq_true'] at hdelivered
  rcases hdelivered with ⟨hstate, hquiet⟩
  unfold Client.state? at hstate
  cases hc : r.client.connection with
  | none =>
      rw [hc] at hstate
      split at hstate
      · cases hstate
      · cases hstate
  | some c =>
      unfold Client.pendingEvents at hquiet
      rw [hc] at hquiet
      have hempty : c.outbound.bytes = ByteArray.empty :=
        ByteArray.size_eq_zero_iff.mp (Nat.eq_zero_of_not_pos (of_decide_eq_false hquiet))
      have hall := h c hc
      rwa [hempty, ByteArray.append_empty] at hall

theorem owes_sendAll (ms : List Message) {cl : Client} (h : cl.Owes calls fed)
    (hall : (sendAll ms cl).failure = none) :
    (sendAll ms cl).client.Owes (calls ++ (sendAll ms cl).calls) (fed ++ wires ms) := by
  induction ms generalizing cl calls fed with
  | nil =>
      rw [sendAll, wires_nil, List.append_nil, ByteArray.append_empty]
      exact h
  | cons m ms ih =>
      rw [sendAll] at hall ⊢
      cases hanswer : (cl.feed m.wire).answer with
      | error e =>
          simp only [hanswer] at hall
          cases hall
      | ok =>
          simp only [hanswer] at hall ⊢
          rw [← List.append_assoc, wires_cons, ← ByteArray.append_assoc]
          exact ih (Client.owes_feed h hanswer) hall

/-! ## Standard input -/

/-- What a run takes from standard input, and the lines that are sent of it. What
    is read of standard input is `none` when it is not read any more: then nothing
    is taken. Otherwise these are chunks, of which the last line is held again, or
    chunks and the end, and then the last line is sent too. -/
inductive Takes : Option Framer → List InputEvent → List Line → Option Framer → Prop
  | nothing (events : List InputEvent) : Takes none events [] none
  | more (f : Framer) (chunks : List ByteArray) (f' : Framer) (hlimit : f'.limit = f.limit)
      (hpending : f'.pending = (Split.goOn f.pending (joined chunks)).rest) :
      Takes (some f) (chunks.map .data) (Split.goOn f.pending (joined chunks)).lines (some f')
  | all (f : Framer) (chunks : List ByteArray) (later : List InputEvent) :
      Takes (some f) (chunks.map .data ++ .ended :: later)
        (Split.goOn f.pending (joined chunks)).all none

section Takes

variable {input input' input'' : Option Framer} {events events' : List InputEvent}
  {ls ls' : List Line}

-- What is taken first completes lines, and the line that it leaves is held for
-- what is taken then.
theorem Takes.trans (h : Takes input events ls input') (h' : Takes input' events' ls' input'') :
    Takes input (events ++ events') (ls ++ ls') input'' := by
  cases h with
  | nothing =>
      cases h'
      exact .nothing _
  | all f chunks later =>
      cases h'
      rw [List.append_nil, List.append_assoc, List.cons_append]
      exact .all f chunks _
  | more f chunks f' hlimit hpending =>
      cases h' with
      | more f' chunks' f'' hlimit' hpending' =>
          rw [hpending, ← Split.rest_goOn_append, ← joined_append] at hpending'
          rw [hpending, ← Split.lines_goOn_append, ← joined_append, ← List.map_append]
          exact .more f _ f'' (hlimit'.trans hlimit) hpending'
      | all f' chunks' later =>
          have hlines : (Split.goOn f.pending (joined chunks)).lines
              ++ (Split.goOn f'.pending (joined chunks')).all
              = (Split.goOn f.pending (joined (chunks ++ chunks'))).all := by
            unfold Split.all
            rw [hpending, joined_append, Split.lines_goOn_append, Split.rest_goOn_append,
              List.append_assoc]
          rw [hlines, ← List.append_assoc, ← List.map_append]
          exact .all f _ later

theorem Takes.limit_lt (h : Takes input events ls input')
    (hlimit : ∀ f, input = some f → f.limit < wordBound) :
    ∀ f, input' = some f → f.limit < wordBound := by
  rintro f rfl
  cases h with
  | more f₀ chunks f hsame => exact hsame.trans_lt (hlimit f₀ rfl)

-- Nothing but the end of a run of standard input: its last line is the held one.
theorem Takes.last (f : Framer) (later : List InputEvent) :
    Takes (some f) (.ended :: later) [f.pending] none := by
  have hlast : (Split.goOn f.pending (joined [])).all = [f.pending] := by
    unfold Split.all
    rw [show joined [] = ByteArray.empty from rfl, Split.goOn_nothing, List.nil_append]
  rw [← hlast]
  exact .all f [] later

theorem Takes.refl (f : Framer) : Takes (some f) [] [] (some f) := by
  have hnone := Split.goOn_nothing f.pending
  have h : Takes (some f) [] (Split.goOn f.pending ByteArray.empty).lines (some f) :=
    .more f [] f rfl (by rw [show joined [] = ByteArray.empty from rfl, hnone])
  rwa [hnone] at h

end Takes

/-- What standard input gives is sent or held, as long as nothing fails. -/
theorem pumpInput_takes (events : List InputEvent) {f : Framer} (hf : f.limit < wordBound)
    {cl : Client} (h : cl.Owes calls fed) (hall : (pumpInput events f cl).failure = none) :
    ∃ ls, Takes (some f) events ls (pumpInput events f cl).input ∧
      (pumpInput events f cl).client.Owes (calls ++ (pumpInput events f cl).calls)
        (fed ++ wires (messagesOf ls)) := by
  induction events generalizing f cl calls fed with
  | nil =>
      refine ⟨[], .refl f, ?_⟩
      rw [pumpInput, List.append_nil]
      exact (ByteArray.append_empty (b := fed)).symm ▸ h
  | cons event later ih =>
      cases event with
      | failed fault => cases hall
      | ended =>
          rw [pumpInput] at hall ⊢
          refine ⟨[f.pending], ?_⟩
          cases hm : Message.ofLine? f.pending with
          | none =>
              have hblank : messagesOf [f.pending] = [] := by
                simp only [messagesOf, List.filterMap, hm]
              refine ⟨.last f later, ?_⟩
              rw [hblank, wires_nil, ByteArray.append_empty]
              exact (List.append_nil calls).symm ▸ h
          | some m =>
              have hlast : messagesOf [f.pending] = [m] := by
                simp only [messagesOf, List.filterMap, hm]
              simp only [hm] at hall ⊢
              cases hfailure : (sendAll [m] cl).failure with
              | some failure =>
                  simp only [hfailure] at hall
                  cases hall
              | none =>
                  rw [hlast]
                  exact ⟨.last f later, owes_sendAll [m] h hfailure⟩
      | data chunk =>
          rcases f.feed_reads_kept hf chunk with ⟨hread, hrest, hsame, haccepted⟩
          rw [pumpInput] at hall ⊢
          cases hrefusal : (f.feed chunk).refusal with
          | some o =>
              simp only [hrefusal] at hall
              cases hall
          | none =>
              rw [Split.kept_of_fits (haccepted.mp hrefusal)] at hread hrest
              simp only [hrefusal] at hall ⊢
              cases hfailure : (sendAll (f.feed chunk).messages.toList cl).failure with
              | some failure =>
                  simp only [hfailure] at hall
                  cases hall
              | none =>
                  simp only [hfailure] at hall ⊢
                  have hone : joined [chunk] = chunk := by
                    rw [joined_cons, show joined [] = ByteArray.empty from rfl,
                      ByteArray.append_empty]
                  have hfirst : Takes (some f) [.data chunk] (Split.goOn f.pending chunk).lines
                      (some (f.feed chunk).framer) := by
                    have htakes := Takes.more f [chunk] (f.feed chunk).framer hsame
                    rw [hone] at htakes
                    exact htakes hrest
                  rcases ih (hsame.trans_lt hf) (owes_sendAll _ h hfailure) hall with
                    ⟨ls, htakes, howes⟩
                  refine ⟨_, hfirst.trans htakes, ?_⟩
                  rw [messagesOf_append, wires_append, ← hread, ← List.append_assoc,
                    ← ByteArray.append_assoc]
                  exact howes

/-! ## One turn -/

theorem owes_exchange (before : List SocketCall) (h : r.client.Owes (calls ++ before) fed)
    (wait : WaitAnswer) :
    (r.exchange wait before).run.client.Owes (calls ++ (r.exchange wait before).calls) fed := by
  have hupdated := Client.owes_update h wait
  rwa [List.append_assoc] at hupdated

theorem exchange_not_success (r : ClientRun) (wait : WaitAnswer) (before : List SocketCall) :
    (r.exchange wait before).ended ≠ some (.ok ()) := by
  unfold exchange
  dsimp only
  split
  · nofun
  · split
    · nofun
    · nofun

-- A turn that is not over before it begins ends the run with a failure or not at
-- all.
theorem advance_not_success (r : ClientRun) (t : ClientTurn) :
    (r.advance t).ended ≠ some (.ok ()) := by
  unfold advance
  split
  · nofun
  · split
    · exact exchange_not_success _ _ _
    · dsimp only
      split
      · nofun
      · exact exchange_not_success _ _ _

/-- A run that nobody interrupts and that has no number of messages to print ends
    well when standard input is not read any more and everything was written. -/
theorem turn_succeeds {t : ClientTurn} (hunlimited : r.exitAfter = none)
    (hgoing : t.interrupted = false) (h : (r.turn t).ended = some (.ok ())) :
    r.input = none ∧ r.delivered = true ∧ (r.turn t).calls = [] := by
  unfold turn at h ⊢
  rw [hgoing, if_neg Bool.false_ne_true] at h ⊢
  cases hverdict : r.verdict? t.elapsed with
  | none =>
      rw [hverdict] at h
      exact absurd h (r.advance_not_success t)
  | some verdict =>
      simp only [hverdict, Option.some.injEq] at h
      subst h
      unfold verdict? at hverdict
      rw [hunlimited] at hverdict
      dsimp only at hverdict
      split at hverdict
      · rename_i hfinished
        rw [Bool.and_eq_true, Option.isNone_iff_eq_none] at hfinished
        exact ⟨hfinished.1, hfinished.2, rfl⟩
      · split at hverdict
        · cases hverdict
        · cases hverdict

/-- A turn behind which the run goes on keeps the account. Lines of standard input
    are sent as long as it is read. -/
theorem turn_goesOn {t : ClientTurn} (h : r.client.Owes calls fed)
    (hlimit : ∀ f, r.input = some f → f.limit < wordBound) (hended : (r.turn t).ended = none) :
    (r.turn t).run.exitAfter = r.exitAfter ∧
      ∃ ls, Takes r.input t.input ls (r.turn t).run.input ∧
        (r.turn t).run.client.Owes (calls ++ (r.turn t).calls) (fed ++ wires (messagesOf ls)) := by
  have hadvance : r.turn t = r.advance t := by
    unfold turn at hended ⊢
    split at hended
    · cases hended
    · rename_i hgoing
      rw [if_neg hgoing]
      cases hverdict : r.verdict? t.elapsed with
      | none => rfl
      | some verdict =>
          rw [hverdict] at hended
          cases hended
  rw [hadvance] at hended ⊢
  unfold advance at hended ⊢
  cases hready : t.readiness with
  | error e =>
      rw [hready] at hended
      cases hended
  | ok =>
      cases hinput : r.input with
      | none =>
          have howes := owes_exchange [] ((List.append_nil calls).symm ▸ h) t.wait
          rw [← ByteArray.append_empty (b := fed)] at howes
          refine ⟨rfl, [], ?_, howes⟩
          rw [show (r.exchange t.wait []).run.input = none from hinput]
          exact .nothing _
      | some f =>
          simp only [hready, hinput] at hended ⊢
          cases hfailure : (pumpInput t.input f r.client).failure with
          | some failure =>
              rw [hfailure] at hended
              cases hended
          | none =>
              rcases pumpInput_takes t.input (hlimit f hinput) h hfailure with
                ⟨ls, htakes, howes⟩
              exact ⟨rfl, ls, htakes, owes_exchange _ howes t.wait⟩

/-! ## The whole run -/

/-- Turns until the run ends well take all of standard input, if it is read, and
    write all that was owed and the lines of what they take. -/
theorem play_sends {ts : List ClientTurn} (hgoing : ∀ t ∈ ts, t.interrupted = false)
    (hunlimited : r.exitAfter = none) (h : r.client.Owes calls fed)
    (hlimit : ∀ f, r.input = some f → f.limit < wordBound)
    (hended : (r.play ts).ended = some (.ok ())) :
    ∃ ls, Takes r.input (ts.flatMap (·.input)) ls none ∧
      sentBytes (calls ++ (r.play ts).calls) = fed ++ wires (messagesOf ls) := by
  induction ts generalizing r calls fed with
  | nil => cases hended
  | cons t ts ih =>
      rw [List.forall_mem_cons] at hgoing
      rw [play] at hended ⊢
      cases hfirst : (r.turn t).ended with
      | some verdict =>
          simp only [hfirst] at hended ⊢
          rw [hended] at hfirst
          rcases turn_succeeds hunlimited hgoing.1 hfirst with ⟨hinput, hdelivered, hcalls⟩
          refine ⟨[], hinput ▸ .nothing _, ?_⟩
          rw [hcalls, List.append_nil, sent_of_delivered h hdelivered]
          exact ByteArray.append_empty.symm
      | none =>
          simp only [hfirst] at hended ⊢
          rcases turn_goesOn h hlimit hfirst with ⟨hsame, ls, htakes, howes⟩
          rcases ih hgoing.2 (hsame.trans hunlimited) howes (htakes.limit_lt hlimit) hended with
            ⟨ls', htakes', hsent⟩
          refine ⟨ls ++ ls', htakes.trans htakes', ?_⟩
          rw [messagesOf_append, wires_append, ← List.append_assoc, ← ByteArray.append_assoc]
          exact hsent

-- The lines of a command line are its values, trimmed.
theorem givenMessages_bytes {texts : List String} {ms : List Message}
    (h : givenMessages texts = .ok ms) :
    ms.map Message.bytes = texts.map fun text => trimmed text.toUTF8 := by
  induction texts generalizing ms with
  | nil =>
      cases h
      rfl
  | cons text texts ih =>
      rw [givenMessages] at h
      cases hm : Message.ofBytes text.toUTF8 with
      | error e =>
          rw [hm] at h
          cases h
      | ok m =>
          rw [hm] at h
          cases hmore : givenMessages texts with
          | error failure =>
              rw [hmore] at h
              cases h
          | ok more =>
              rw [hmore] at h
              cases h
              rw [List.map_cons, List.map_cons, ih hmore, Message.bytes_of_ofBytes hm]

/-- A run begins with the lines of its command line sent. If there are none, it
    reads standard input. -/
theorem start_owes {o : ClientOptions} {d : Dialler} (h : start o d = .ok (r, calls)) :
    r.exitAfter = o.exitAfter ∧
      r.input = (if o.send = [] then some (Framer.ofLimit defaultLimit) else none) ∧
      ∃ ms : List Message, ms.map Message.bytes = (o.send.map fun text => trimmed text.toUTF8) ∧
        r.client.Owes calls (wires ms) := by
  unfold start at h
  cases htime : Duration.parse o.timeout with
  | error failure =>
      rw [htime] at h
      cases h
  | ok timeLimit =>
      cases hmessages : givenMessages o.send with
      | error failure =>
          rw [htime, hmessages] at h
          cases h
      | ok ms =>
          rw [htime, hmessages] at h
          dsimp only [bind, Except.bind] at h
          have hgiven := givenMessages_bytes hmessages
          have hempty : ms.isEmpty = decide (o.send = []) := by
            have hlength := congrArg List.length hgiven
            rw [List.length_map, List.length_map] at hlength
            rw [Bool.eq_iff_iff, List.isEmpty_iff, decide_eq_true_iff, ← List.length_eq_zero_iff,
              ← List.length_eq_zero_iff, hlength]
          split at h
          · cases h
          · split at h
            · cases h
            · rename_i hfailure
              cases h
              refine ⟨rfl, ?_, ms, hgiven, ?_⟩
              · simp only [hempty, decide_eq_true_iff]
              · have howes := owes_sendAll ms Client.owes_connect hfailure
                rwa [ByteArray.empty_append] at howes

end ClientRun

/-- A client command that has no number of messages to print and that nobody
    interrupts has ended well, whatever came in which order from standard input
    and from the socket. Then the bytes that its calls have handed to the socket
    are whole lines: the values of the command line, trimmed. If there are none,
    standard input was read to its end, and they are the lines of all its chunks,
    trimmed and without the blank ones, and among them the one that was not
    ended. -/
theorem successful_run_sends_every_line (o : ClientOptions) (d : Dialler) (r : ClientRun)
    (calls : List SocketCall) (ts : List ClientTurn) (hstart : ClientRun.start o d = .ok (r, calls))
    (hunlimited : o.exitAfter = none) (hgoing : ∀ t ∈ ts, t.interrupted = false)
    (hended : (r.play ts).ended = some (.ok ())) :
    ∃ ms : List Message, sentBytes (calls ++ (r.play ts).calls) = wires ms ∧
      (o.send ≠ [] → ms.map Message.bytes = o.send.map fun text => trimmed text.toUTF8) ∧
      (o.send = [] → ∃ chunks later, ts.flatMap (·.input) = chunks.map .data ++ .ended :: later ∧
        ms.map Message.bytes = ((split (joined chunks)).all.map fun l => trimmed l.bytes).filter
          fun text => text.size != 0) := by
  rcases ClientRun.start_owes hstart with ⟨hlimit, hinput, given, hgiven, howes⟩
  have hframer : ∀ f, r.input = some f → f.limit < wordBound := by
    intro f hf
    rw [hinput] at hf
    split at hf
    · cases hf
      decide
    · cases hf
  rcases ClientRun.play_sends hgoing (hlimit.trans hunlimited) howes hframer hended with
    ⟨ls, htakes, hsent⟩
  refine ⟨given ++ messagesOf ls, ?_, fun hsend => ?_, fun hsend => ?_⟩
  · rw [hsent, wires_append]
  · rw [if_neg hsend] at hinput
    rw [hinput] at htakes
    cases htakes
    rw [← hgiven]
    exact congrArg _ (List.append_nil given)
  · rw [if_pos hsend] at hinput
    rw [hinput] at htakes
    rw [hsend, List.map_nil, List.map_eq_nil_iff] at hgiven
    generalize htaken : ts.flatMap (·.input) = taken at htakes
    cases htakes with
    | all f chunks later =>
        refine ⟨chunks, later, rfl, ?_⟩
        rw [hgiven, List.nil_append, messagesOf_bytes]
        exact congrArg _ (congrArg _ (congrArg Split.all (Split.goOn_empty _)))

/-- Standard input comes in three chunks, with a blank line, a line that is cut in
    two and one that is not ended. The socket takes a part of what it is offered,
    then nothing for a while, and again. The run ends well, and three lines were
    sent. -/
theorem cut_lines_are_sent_whole :
    let blocked : Except Fault Nat := .error (.plain .wouldBlock)
    let turn (input : List InputEvent) (events : List Event) : ClientTurn :=
      ⟨false, ⟨0⟩, .ok (), input, .ok events⟩
    let o : ClientOptions := ⟨"127.0.0.1:9", [], none, "5s"⟩
    let d : Dialler := ⟨Directory.none, .ok (),
      fun _ => .ok ⟨[], [.ok 2, blocked, .ok 3, blocked, .ok 2, .ok 100], [], none⟩⟩
    let writable : Event := ⟨1, false, true, false, false⟩
    let ts : List ClientTurn := [turn [.data "one\n \ntw".toUTF8] [writable], turn [] [],
      turn [.data "o\r\nthr".toUTF8, .data "ee".toUTF8, .ended] [writable], turn [] [writable],
      turn [] [writable], turn [] []]
    ∃ r calls ms, ClientRun.start o d = .ok (r, calls) ∧
      sentBytes (calls ++ (r.play ts).calls) = wires ms ∧
      ms.map Message.bytes = ["one".toUTF8, "two".toUTF8, "three".toUTF8] := by
  intro blocked turn o d writable ts
  have hended : ∃ p, ClientRun.start o d = .ok p ∧ (p.1.play ts).ended = some (.ok ()) := by
    have hok : ((ClientRun.start o d).map fun p => (p.1.play ts).ended) = .ok (some (.ok ())) := by
      decide +kernel
    cases hstart : ClientRun.start o d with
    | error failure =>
        rw [hstart] at hok
        cases hok
    | ok p =>
        rw [hstart] at hok
        exact ⟨p, rfl, Except.ok.inj hok⟩
  rcases hended with ⟨⟨r, calls⟩, hstart, hended⟩
  rcases successful_run_sends_every_line o d r calls ts hstart rfl (by simp [ts, turn]) hended with
    ⟨ms, hsent, _, hinput⟩
  rcases hinput rfl with ⟨chunks, later, htaken, hms⟩
  refine ⟨r, calls, ms, hstart, hsent, hms.trans ?_⟩
  have hchunks : chunks = ["one\n \ntw".toUTF8, "o\r\nthr".toUTF8, "ee".toUTF8] := by
    rcases chunks with _ | ⟨first, _ | ⟨second, _ | ⟨third, _ | ⟨fourth, chunks⟩⟩⟩⟩ <;> cases htaken
    rfl
  rw [hchunks]
  decide +kernel

end LineChat
