import LineChat.Command.ClientRun
import LineChat.Proofs.Session.Visits
import Mathlib.Data.List.Forall2

/-!
# A Limited Number of Messages

How a run of the client command ends that is to print a number of messages.

A turn prints all that an update has handed over, and only the next turn asks
whether that was enough. So what a run prints depends on the grouping of the
stream into updates: it is the messages of the first visits that have enough of
them together, whole visits, and no fewer would do. The run ends well then,
unless the last of these visits has met the end of the stream too: an update
that says so ends the run at once, before anything is counted.

Both are decided by the stream and its grouping alone, so every run of this kind
comes to the same statement (`exits_after_visits`), and with it the condition on
which the run does what its option says: the visits that are needed have exactly
the messages that were asked for, and the stream goes on.

## Main definitions

* `ClientTurn.Meets`: A turn meets a visit and nothing else.
* `ClientRun.Printing`: A run that has printed what has come so far.
* `ClientRun.Finishes`: A run that ends when the first visits have enough.

## Theorems

* `turn_over`, `turn_visit`: One turn.
* `play_visits`: Turns until the run ends.
* `start_printing`: A run begins with nothing printed.
* `exits_after_visits`: What a run prints, and how it ends.
* `exit_depends_on_grouping`: One stream that is printed in three ways.
-/

namespace LineChat

/-- A turn meets a visit: nobody interrupts it, standard input gives nothing or
    its end, and the waits are those for the visit. -/
structure ClientTurn.Meets (t : ClientTurn) (v : Visit) : Prop where
  going : t.interrupted = false
  ready : t.readiness = .ok ()
  input : t.input = [] ∨ t.input = [.ended]
  wait : t.wait = v.wait

namespace ClientRun

/-- A run that prints `n` messages, as long as it has met nothing but a stream
    of which `held` is unended. Its socket is going to give `later`. -/
structure Printing (n : Nat) (held : Line) (later : List ReadAnswer) (r : ClientRun) : Prop where
  limit : r.exitAfter = some n
  given : r.givenLines = false
  input : ∀ f, r.input = some f → f.pending = Line.empty
  going : r.client.ended = false
  shown : r.client.messages = []
  attached : ∃ c, r.client.connection = some c ∧ c.Attached defaultLimit held later

/-! ## One turn -/

theorem turn_over {n : Nat} {r : ClientRun} (hlimit : r.exitAfter = some n)
    (henough : n ≤ r.printed) {t : ClientTurn} (ht : t.interrupted = false) :
    (r.turn t).ended = some (.ok ()) ∧ (r.turn t).shown = [] := by
  have hverdict : r.verdict? t.elapsed = some (.ok ()) := by
    unfold verdict?
    rw [hlimit]
    simp only [decide_eq_true henough, if_true]
  unfold turn
  rw [ht, if_neg Bool.false_ne_true, hverdict]
  exact ⟨rfl, rfl⟩

-- The end of standard input sends nothing, because nothing of it is unended.
theorem pumpInput_quiet {events : List InputEvent} (h : events = [] ∨ events = [.ended])
    {f : Framer} (hf : f.pending = Line.empty) (c : Client) :
    ∃ input, pumpInput events f c = ⟨c, input, [], none⟩ ∧
      ∀ f', input = some f' → f'.pending = Line.empty := by
  rcases h with rfl | rfl
  · refine ⟨some f, rfl, fun f' hf' => ?_⟩
    rw [← Option.some.inj hf']
    exact hf
  · have hblank : Message.ofLine? Line.empty = none := by decide
    refine ⟨none, ?_, nofun⟩
    rw [pumpInput, hf, hblank]

-- Standard input changes nothing of a turn but that it may not be read any more.
theorem advance_quiet {n : Nat} {held : Line} {later : List ReadAnswer} {r : ClientRun}
    (h : r.Printing n held later) {v : Visit} {t : ClientTurn} (ht : t.Meets v) :
    ∃ input, r.advance t = { r with input := input }.exchange v.wait [] ∧
      ∀ f, input = some f → f.pending = Line.empty := by
  unfold advance
  rw [ht.ready, ht.wait]
  cases hinput : r.input with
  | none =>
      have hsame : { r with input := none } = r := by rw [← hinput]
      refine ⟨none, ?_, nofun⟩
      rw [hsame]
  | some f =>
      rcases pumpInput_quiet ht.input (h.input f hinput) r.client with ⟨input, hpump, hquiet⟩
      refine ⟨input, ?_, hquiet⟩
      simp only [hpump]

/-- A turn that meets a visit and is not over before prints the messages of its
    lines. If the stream has not ended, the run goes on printing; if it has, that
    is its failure. -/
theorem turn_visit {n : Nat} {held : Line} {v : Visit} (hv : v.Proper)
    {later : List ReadAnswer} {r : ClientRun} (h : r.Printing n held (v.script ++ later))
    (hless : r.printed < n) {t : ClientTurn} (ht : t.Meets v)
    (hfits : (Split.goOn held v.bytes).Fits defaultLimit) :
    (r.turn t).shown = messagesOf (Split.goOn held v.bytes).lines ∧
      (v.closes = false → (r.turn t).ended = none ∧
        (r.turn t).run.printed = r.printed + (messagesOf (Split.goOn held v.bytes).lines).length ∧
        (r.turn t).run.Printing n (Split.goOn held v.bytes).rest later) ∧
      (v.closes = true → (r.turn t).ended
        = some (.error (Failure.ofSession "connection lost" .closed))) := by
  have hverdict : r.verdict? t.elapsed = none := by
    unfold verdict?
    rw [h.limit, h.given]
    simp only [decide_eq_false (Nat.not_le_of_lt hless), Bool.false_and, Bool.false_eq_true,
      if_false]
  rcases advance_quiet h ht with ⟨input, hadvance, hquiet⟩
  have hturn : r.turn t = { r with input := input }.exchange v.wait [] := by
    unfold turn
    rw [ht.going, if_neg Bool.false_ne_true, hverdict]
    exact hadvance
  rcases h.attached with ⟨c, hc, hattached⟩
  rcases Client.update_visit (by decide) hv h.going hc h.shown hattached hfits with
    ⟨hmessages, hopen, hclosed⟩
  rw [hturn]
  unfold exchange
  refine ⟨hmessages, fun hcloses => ?_, fun hcloses => ?_⟩
  · rcases hopen hcloses with ⟨hanswer, hgoing, hconnected⟩
    refine ⟨?_, congrArg (r.printed + ·.length) hmessages,
      ⟨h.limit, h.given, hquiet, hgoing, rfl, hconnected⟩⟩
    rcases hanswer with hok | htimeout
    · simp only [hok]
    · simp only [htimeout]
      rfl
  · simp only [hclosed hcloses]
    rfl

/-! ## Turns until the end -/

/-- The messages of the lines that visits complete. -/
def arrived (held : Line) (vs : List Visit) : List Message :=
  messagesOf (Split.goOn held (Visit.stream vs)).lines

/-- How a run ends whose last update is the last of these visits. -/
def verdictOf (vs : List Visit) : Except Failure Unit :=
  if vs.any (·.closes) then .error (Failure.ofSession "connection lost" .closed) else .ok ()

theorem arrived_nil (held : Line) : arrived held [] = [] := by
  unfold arrived
  rw [show Visit.stream [] = ByteArray.empty from rfl, Split.goOn_nothing]
  rfl

theorem arrived_cons (held : Line) (v : Visit) (vs : List Visit) :
    arrived held (v :: vs) = messagesOf (Split.goOn held v.bytes).lines
      ++ arrived (Split.goOn held v.bytes).rest vs := by
  unfold arrived
  rw [show Visit.stream (v :: vs) = v.bytes ++ Visit.stream vs from rfl, Split.lines_goOn_append,
    messagesOf_append]

-- What the first visits have is a beginning of what all have.
theorem arrived_take_prefix (held : Line) (vs : List Visit) (k : Nat) :
    arrived held (vs.take k) <+: arrived held vs := by
  induction vs generalizing held k with
  | nil => simp only [List.take_nil, List.prefix_refl]
  | cons v vs ih =>
      cases k with
      | zero =>
          rw [List.take_zero, arrived_nil]
          exact List.nil_prefix
      | succ k =>
          rw [List.take_succ_cons, arrived_cons, arrived_cons, List.prefix_append_right_inj]
          exact ih _ k

theorem play_stop {r : ClientRun} {t : ClientTurn} {verdict : Except Failure Unit}
    (h : (r.turn t).ended = some verdict) (ts : List ClientTurn) :
    r.play (t :: ts) = r.turn t := by
  rw [play]
  simp only [h]

theorem play_goOn {r : ClientRun} {t : ClientTurn} (h : (r.turn t).ended = none)
    (ts : List ClientTurn) :
    (r.play (t :: ts)).shown = (r.turn t).shown ++ ((r.turn t).run.play ts).shown ∧
      (r.play (t :: ts)).ended = ((r.turn t).run.play ts).ended := by
  rw [play]
  simp only [h]
  exact ⟨trivial, trivial⟩

-- A run that has printed enough already prints nothing more.
theorem play_over {n : Nat} {r : ClientRun} (hlimit : r.exitAfter = some n)
    (henough : n ≤ r.printed) {t : ClientTurn} (ht : t.interrupted = false)
    (ts : List ClientTurn) :
    (r.play (t :: ts)).shown = [] ∧ (r.play (t :: ts)).ended = some (.ok ()) := by
  rcases turn_over hlimit henough ht with ⟨hended, hshown⟩
  rw [play_stop hended]
  exact ⟨hshown, hended⟩

/-- A run that has printed `printed` messages ends by printing those of the first
    visits that have enough of them. -/
def Finishes (n printed : Nat) (held : Line) (vs : List Visit) (a : After) : Prop :=
  ∃ k ≤ vs.length, n ≤ printed + (arrived held (vs.take k)).length ∧
    (∀ j < k, printed + (arrived held (vs.take j)).length < n) ∧
    a.shown = arrived held (vs.take k) ∧ a.ended = some (verdictOf (vs.take k))

section Finishes

variable {n printed : Nat} {held : Line} {v : Visit} {vs : List Visit}

-- Enough was printed before, so no visit is needed.
theorem finishes_over {a : After} (henough : n ≤ printed)
    (h : a.shown = [] ∧ a.ended = some (.ok ())) : Finishes n printed held vs a := by
  refine ⟨0, Nat.zero_le _, Nat.le_add_right_of_le henough, nofun, ?_, ?_⟩
  · rw [List.take_zero, arrived_nil]
    exact h.1
  · exact h.2

-- One more visit is needed, and the stream ends in it.
theorem finishes_closed {a : After} (hless : printed < n)
    (henough : n ≤ printed + (arrived held [v]).length) (hcloses : v.closes = true)
    (hshown : a.shown = messagesOf (Split.goOn held v.bytes).lines)
    (hended : a.ended = some (.error (Failure.ofSession "connection lost" .closed))) :
    Finishes n printed held [v] a := by
  refine ⟨1, Nat.le_refl 1, henough, fun j hj => ?_, ?_, ?_⟩
  · rw [Nat.lt_one_iff.mp hj, List.take_zero, arrived_nil]
    exact hless
  · rw [hshown, List.take_succ_cons, List.take_zero, arrived_cons, arrived_nil, List.append_nil]
  · rw [hended, verdictOf]
    simp only [List.take_succ_cons, List.take_nil, List.any_cons, hcloses, Bool.true_or, if_true]

-- One more visit is needed, and the run goes on behind it.
theorem Finishes.cons {a a' : After} (hless : printed < n) (hcloses : v.closes = false)
    (h : Finishes n (printed + (messagesOf (Split.goOn held v.bytes).lines).length)
      (Split.goOn held v.bytes).rest vs a)
    (hshown : a'.shown = messagesOf (Split.goOn held v.bytes).lines ++ a.shown)
    (hended : a'.ended = a.ended) : Finishes n printed held (v :: vs) a' := by
  rcases h with ⟨k, hk, henough, hbefore, hmore, hverdict⟩
  have hcount : ∀ j, printed + (arrived held ((v :: vs).take (j + 1))).length
      = printed + (messagesOf (Split.goOn held v.bytes).lines).length
        + (arrived (Split.goOn held v.bytes).rest (vs.take j)).length := by
    intro j
    rw [List.take_succ_cons, arrived_cons, List.length_append, Nat.add_assoc]
  refine ⟨k + 1, Nat.succ_le_succ hk, ?_, fun j hj => ?_, ?_, ?_⟩
  · rw [hcount]
    exact henough
  · cases j with
    | zero =>
        rw [List.take_zero, arrived_nil]
        exact hless
    | succ j =>
        rw [hcount]
        exact hbefore j (Nat.lt_of_succ_lt_succ hj)
  · rw [hshown, hmore, List.take_succ_cons, arrived_cons]
  · rw [hended, hverdict, List.take_succ_cons, verdictOf, verdictOf, List.any_cons, hcloses,
      Bool.false_or]

end Finishes

-- Nothing is met behind the end of the stream.
theorem open_before_last {v : Visit} {vs : List Visit}
    (h : ∀ v' ∈ (v :: vs).dropLast, v'.closes = false) :
    (v.closes = true → vs = []) ∧ ∀ v' ∈ vs.dropLast, v'.closes = false := by
  cases vs with
  | nil => exact ⟨fun _ => rfl, List.forall_mem_nil _⟩
  | cons second vs =>
      rw [List.dropLast_cons_cons, List.forall_mem_cons] at h
      refine ⟨fun hcloses => ?_, h.2⟩
      rw [h.1] at hcloses
      cases hcloses

/-- Turns that meet visits are played until enough was printed, and one more
    turn tells it. -/
theorem play_visits {n : Nat} {held : Line} {vs : List Visit} {ts : List ClientTurn}
    (hmeets : List.Forall₂ ClientTurn.Meets ts vs) (hproper : ∀ v ∈ vs, v.Proper)
    (hlast : ∀ v ∈ vs.dropLast, v.closes = false) {r : ClientRun}
    (h : r.Printing n held (vs.flatMap Visit.script))
    (hfits : (Split.goOn held (Visit.stream vs)).Fits defaultLimit)
    (henough : n ≤ r.printed + (arrived held vs).length) {next : ClientTurn}
    (hnext : next.interrupted = false) (later : List ClientTurn) :
    Finishes n r.printed held vs (r.play (ts ++ next :: later)) := by
  induction hmeets generalizing held r with
  | nil =>
      have hover : n ≤ r.printed := by
        rw [arrived_nil] at henough
        exact henough
      exact finishes_over hover (play_over h.limit hover hnext later)
  | @cons t v ts vs ht hmore ih =>
      rw [List.cons_append]
      by_cases hover : n ≤ r.printed
      · exact finishes_over hover (play_over h.limit hover ht.going _)
      · have hless : r.printed < n := Nat.lt_of_not_le hover
        rw [show Visit.stream (v :: vs) = v.bytes ++ Visit.stream vs from rfl] at hfits
        have hfirst := Split.fits_of_fits_goOn_append hfits
        rcases turn_visit (hproper v List.mem_cons_self) h hless ht hfirst with
          ⟨hshown, hopen, hclosed⟩
        rcases open_before_last hlast with ⟨hend, hvs⟩
        cases hcloses : v.closes with
        | false =>
            rcases hopen hcloses with ⟨hended, hprinted, hprinting⟩
            rcases play_goOn hended (ts ++ next :: later) with ⟨hplayed, hverdict⟩
            rw [Split.fits_goOn_append hfirst] at hfits
            rw [arrived_cons, List.length_append, ← Nat.add_assoc, ← hprinted] at henough
            have hrest := ih (fun v' hv' => hproper v' (List.mem_cons_of_mem _ hv')) hvs hprinting
              hfits henough
            rw [hprinted] at hrest
            rw [hshown] at hplayed
            exact hrest.cons hless hcloses hplayed hverdict
        | true =>
            have hnone : vs = [] := hend hcloses
            have hended := hclosed hcloses
            subst hnone
            rw [play_stop hended]
            exact finishes_closed hless henough hcloses hshown hended

/-! ## The whole run -/

/-- A run without lines to send that has connected waits for the stream of the
    socket it has dialled. -/
theorem start_printing {o : ClientOptions} {d : Dialler} {r : ClientRun} {calls : List SocketCall}
    (h : start o d = .ok (r, calls)) (hsend : o.send = []) {n : Nat} (hn : o.exitAfter = some n)
    {script : List ReadAnswer}
    (hdial : ∀ address socket, d.dial address = .ok socket → socket.reads = script ∧
      (∀ answer ∈ socket.watches, answer = .ok ()) ∧ socket.remembered = none) :
    r.Printing n Line.empty script ∧ r.printed = 0 := by
  unfold start at h
  rw [hsend] at h
  cases htime : Duration.parse o.timeout with
  | error failure =>
      rw [htime] at h
      cases h
  | ok timeLimit =>
      have hnone : givenMessages [] = .ok [] := rfl
      rw [htime, hnone] at h
      dsimp only [bind, Except.bind] at h
      cases hanswer : ((Client.ofConfig ClientConfig.standard).connect d o.address).answer with
      | error e =>
          rw [hanswer] at h
          cases h
      | ok =>
          rcases Client.connect_attached hdial hanswer with ⟨c, hclient, hattached⟩
          rw [hanswer, hclient] at h
          cases h
          refine ⟨⟨hn, rfl, fun f hf => ?_, rfl, rfl, c, rfl, hattached⟩, rfl⟩
          rw [← Option.some.inj hf]
          rfl

end ClientRun

/-- A client command that is to print `n` messages has connected, nobody
    interrupts it, and it has no lines to send. The stream it meets has so many
    messages and no line that is too long, and then it may end. Whatever the
    grouping of the stream and its end, the run prints the messages of the first
    visits that have enough of them, and it ends. It ends well unless the last of
    these visits has met the end too, which is a lost connection. So it prints
    the first `n` messages and ends well if and only if these visits have
    exactly `n` messages and the stream has not ended in them. -/
theorem exits_after_visits (o : ClientOptions) (d : Dialler) (n : Nat) (r : ClientRun)
    (calls : List SocketCall) (vs : List Visit) (ts : List ClientTurn) (next : ClientTurn)
    (later : List ClientTurn) (hstart : ClientRun.start o d = .ok (r, calls))
    (hn : o.exitAfter = some n) (hsend : o.send = [])
    (hdial : ∀ address socket, d.dial address = .ok socket →
      socket.reads = vs.flatMap Visit.script ∧
      (∀ answer ∈ socket.watches, answer = .ok ()) ∧ socket.remembered = none)
    (hproper : ∀ v ∈ vs, v.Proper) (hlast : ∀ v ∈ vs.dropLast, v.closes = false)
    (hmeets : List.Forall₂ ClientTurn.Meets ts vs) (hnext : next.interrupted = false)
    (hfits : (split (Visit.stream vs)).Fits defaultLimit)
    (hcount : n ≤ (messagesOf (split (Visit.stream vs)).lines).length) :
    let all := messagesOf (split (Visit.stream vs)).lines
    let first (k : Nat) := messagesOf (split (Visit.stream (vs.take k))).lines
    let run := r.play (ts ++ next :: later)
    ∃ k ≤ vs.length, n ≤ (first k).length ∧ (∀ j < k, (first j).length < n) ∧
      run.shown = first k ∧
      run.ended = some (if (vs.take k).any (·.closes)
        then .error (Failure.ofSession "connection lost" .closed) else .ok ()) ∧
      (run.shown = all.take n ∧ run.ended = some (.ok ())
        ↔ (first k).length = n ∧ ∀ v ∈ vs.take k, v.closes = false) := by
  intro all first run
  have hfirst : ∀ k, ClientRun.arrived Line.empty (vs.take k) = first k := by
    intro k
    rw [ClientRun.arrived, Split.goOn_empty]
  have hall : ClientRun.arrived Line.empty vs = all := by rw [ClientRun.arrived, Split.goOn_empty]
  rcases ClientRun.start_printing hstart hsend hn hdial with ⟨hprinting, hprinted⟩
  rw [← Split.goOn_empty] at hfits
  rcases ClientRun.play_visits hmeets hproper hlast hprinting hfits
    (by rw [hprinted, Nat.zero_add, hall]; exact hcount) hnext later with
    ⟨k, hk, henough, hbefore, hshown, hended⟩
  simp only [hprinted, Nat.zero_add, hfirst] at henough hbefore hshown
  have hends : run.ended = some (if (vs.take k).any (·.closes)
      then .error (Failure.ofSession "connection lost" .closed) else .ok ()) := hended
  have hbegins : first k <+: all := by
    rw [← hfirst, ← hall]
    exact ClientRun.arrived_take_prefix Line.empty vs k
  have hshownIff : run.shown = all.take n ↔ (first k).length = n := by
    rw [show run.shown = first k from hshown]
    refine ⟨fun h => ?_, fun h => ?_⟩
    · rw [h, List.length_take, Nat.min_eq_left hcount]
    · rw [← h]
      exact List.prefix_iff_eq_take.mp hbegins
  have hendedIff : run.ended = some (.ok ()) ↔ ∀ v ∈ vs.take k, v.closes = false := by
    rw [hends]
    cases hcloses : (vs.take k).any (·.closes) with
    | false =>
        refine iff_of_true rfl ?_
        simpa using hcloses
    | true =>
        refine iff_of_false nofun fun hnone => ?_
        rcases List.any_eq_true.mp hcloses with ⟨v, hv, hclosed⟩
        rw [hnone v hv] at hclosed
        cases hclosed
  exact ⟨k, hk, henough, hbefore, hshown, hends, and_congr hshownIff hendedIff⟩

/-- Of five updates the first tells that the connection is open, and the third
    is a time limit. The fourth brings the second message, so a run that is to
    print two has printed them and ends well before it meets the end of the
    stream. -/
theorem exits_after_four_visits :
    let input : Event := ⟨1, true, false, false, false⟩
    let vs : List Visit := [⟨some ⟨1, false, true, false, false⟩, [], false⟩,
      ⟨some input, [.ok "a".toUTF8, .error (.plain .interrupted), .ok "\n".toUTF8], false⟩,
      ⟨none, [], false⟩, ⟨some input, [.ok " \nb\n".toUTF8], false⟩,
      ⟨some ⟨1, true, false, true, false⟩, [.ok "c\n".toUTF8], true⟩]
    let turn (v : Visit) : ClientTurn := ⟨false, ⟨0⟩, .ok (), [.ended], v.wait⟩
    let o : ClientOptions := ⟨"127.0.0.1:9", [], some 2, "5s"⟩
    let d : Dialler := ⟨Directory.none, .ok (), fun _ => .ok ⟨vs.flatMap Visit.script, [], [], none⟩⟩
    ∃ r calls, ClientRun.start o d = .ok (r, calls) ∧
      (r.play (vs.map turn ++ [turn ⟨none, [], false⟩])).shown.map Message.bytes
        = ["a".toUTF8, "b".toUTF8] ∧
      (r.play (vs.map turn ++ [turn ⟨none, [], false⟩])).ended = some (.ok ()) := by
  intro input vs turn o d
  have hproper : ∀ v ∈ vs, v.Proper := by decide +kernel
  have hlast : ∀ v ∈ vs.dropLast, v.closes = false := by decide +kernel
  have hmeets : List.Forall₂ ClientTurn.Meets (vs.map turn) vs :=
    List.forall₂_map_left_iff.mpr (List.forall₂_same.mpr fun v _ => ⟨rfl, rfl, .inr rfl, rfl⟩)
  have hfits : (split (Visit.stream vs)).Fits defaultLimit := by decide +kernel
  have hcount : 2 ≤ (messagesOf (split (Visit.stream vs)).lines).length := by decide +kernel
  have hdial : ∀ address socket, d.dial address = .ok socket →
      socket.reads = vs.flatMap Visit.script ∧
      (∀ answer ∈ socket.watches, answer = .ok ()) ∧ socket.remembered = none := by
    rintro address socket ⟨⟩
    exact ⟨rfl, List.forall_mem_nil _, rfl⟩
  have hok : (ClientRun.start o d).isOk = true := by decide +kernel
  cases hstart : ClientRun.start o d with
  | error failure =>
      rw [hstart] at hok
      cases hok
  | ok p =>
      rcases p with ⟨r, calls⟩
      rcases exits_after_visits o d 2 r calls vs (vs.map turn) (turn ⟨none, [], false⟩) [] hstart
        rfl rfl hdial hproper hlast hmeets rfl hfits hcount with
        ⟨k, _, henough, hbefore, hshown, hended, _⟩
      have hreached : 2 ≤ (messagesOf (split (Visit.stream (vs.take 4))).lines).length := by
        decide +kernel
      have hless : ∀ j < 4, (messagesOf (split (Visit.stream (vs.take j))).lines).length < 2 := by
        decide +kernel
      have hfour : k = 4 := by
        rcases Nat.lt_trichotomy k 4 with hlt | heq | hgt
        · exact absurd henough (Nat.not_le_of_lt (hless k hlt))
        · exact heq
        · exact absurd hreached (Nat.not_le_of_lt (hbefore 4 hgt))
      subst hfour
      refine ⟨r, calls, rfl, ?_, ?_⟩
      · rw [hshown]
        decide +kernel
      · rw [hended]
        decide +kernel

/-- One stream of two messages and its end, in three groupings, for a run that is
    to print one message. If they come one after the other, it prints the first.
    If the messages come in one update, it prints both. If everything does, it
    prints both and fails. -/
theorem exit_depends_on_grouping :
    let input : Event := ⟨1, true, false, false, false⟩
    let visit (text : String) (closes : Bool) : Visit := ⟨some input, [.ok text.toUTF8], closes⟩
    let turn (v : Visit) : ClientTurn := ⟨false, ⟨0⟩, .ok (), [], v.wait⟩
    let outcome (vs : List Visit) :=
      (ClientRun.start ⟨"127.0.0.1:9", [], some 1, "5s"⟩
        ⟨Directory.none, .ok (), fun _ => .ok ⟨vs.flatMap Visit.script, [], [], none⟩⟩).map fun p =>
          let run := p.1.play (vs.map turn ++ [turn ⟨none, [], false⟩])
          (run.shown.map Message.bytes, run.ended)
    outcome [visit "a\n" false, visit "b\n" true] = .ok (["a".toUTF8], some (.ok ())) ∧
      outcome [visit "a\nb\n" false] = .ok (["a".toUTF8, "b".toUTF8], some (.ok ())) ∧
      outcome [visit "a\nb\n" true] = .ok (["a".toUTF8, "b".toUTF8],
        some (.error (Failure.ofSession "connection lost" .closed))) := by
  decide +kernel

end LineChat
