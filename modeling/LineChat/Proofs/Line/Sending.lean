import LineChat.Line.Writer
import LineChat.Proofs.Line.Reading
import LineChat.Proofs.Line.RoundTrip

/-!
# What a Writer Sends

A writer sends every line whole, and a reader finds the lines again.

A sink may take a line in as many calls as it likes and interrupt any of them.
As long as each call takes something, nothing of this can be seen from outside:
a line that was begun is ended (`writeAll_willing`), so what a sink has taken
is always the stream of some messages, `wires`. A payload decides alone what
becomes of it (`answerTo`), because the line buffer is cleared before each of
them, and a payload that is refused never reaches the sink.

The reader then sees the stream of messages and nothing else. The longest line
with its newline fits the line buffer, so the message in it fits a reader with
the same limit, and no delivery can make the reader refuse it
(`Reader.Ends.of_fits`).

## Main definitions

* `LineError.OfSink`: A failure that a sink was the cause of.
* `Sink.Willing`: A sink that fails in no other way than by interrupting.
* `Sink.Wrote`: How a run of write calls ends.
* `answerTo`: What becomes of a payload.

## Theorems

* `writeAll_wrote`, `flushAll_cases`: How runs of calls end on any sink.
* `writeAll_willing`, `flushAll_willing`: A willing sink takes everything.
* `appendLine_answerTo`: The line of a payload in the line buffer.
* `send_willing`: One payload leaves one line or nothing.
* `sendAll_willing`: Several payloads leave the stream of some messages.
* `sent_lines_are_read`: What was sent is read, and then the stream ends.
-/

namespace LineChat

/-- A failure that a sink was the cause of: a call failed other than by being
    interrupted, or took nothing. -/
inductive LineError.OfSink : LineError → Prop
  | io (fault : Fault) (h : fault.kind ≠ .interrupted) : OfSink (.io fault)
  | closed : OfSink .closed

namespace Sink

/-- A write call that takes something or is interrupted. -/
def Takes : Except Fault Nat → Prop
  | .ok n => 0 < n
  | .error fault => fault.kind = .interrupted

/-- A flush call that succeeds or is interrupted. -/
def Flushes : Except Fault Unit → Prop
  | .ok () => True
  | .error fault => fault.kind = .interrupted

instance : DecidablePred Takes
  | .ok _ => inferInstanceAs (Decidable (_ < _))
  | .error _ => inferInstanceAs (Decidable (_ = _))

instance : DecidablePred Flushes
  | .ok () => inferInstanceAs (Decidable True)
  | .error _ => inferInstanceAs (Decidable (_ = _))

/-- A sink that takes any number of bytes but zero in a call and interrupts as
    it likes, but does not fail. -/
def Willing (s : Sink) : Prop := (∀ a ∈ s.writes, Takes a) ∧ ∀ a ∈ s.flushes, Flushes a

instance (s : Sink) : Decidable s.Willing := inferInstanceAs (Decidable (_ ∧ _))

/-- How a run of write calls ends that offers `data`: all of it was taken, or a
    call failed and a part was taken before. -/
inductive Wrote (s : Sink) (data : ByteArray) : Except LineError Unit × Sink → Prop
  | all (s' : Sink) (taken : s'.taken = s.taken ++ data) (willing : s.Willing → s'.Willing) :
      Wrote s data (.ok (), s')
  | part (s' : Sink) (e : LineError) (cause : e.OfSink) (first left : ByteArray)
      (taken : s'.taken = s.taken ++ first) (parts : data = first ++ left)
      (more : 0 < left.size) (unwilling : ¬ s.Willing) : Wrote s data (.error e, s')

-- A call took the first bytes, and the run goes on with the others.
theorem Wrote.after_call {s s' : Sink} {data first left : ByteArray}
    {outcome : Except LineError Unit × Sink} (h : Wrote s' left outcome)
    (htaken : s'.taken = s.taken ++ first) (hparts : first ++ left = data)
    (hwilling : s.Willing → s'.Willing) : Wrote s data outcome := by
  cases h with
  | all s'' taken willing =>
      refine .all s'' ?_ fun hs => willing (hwilling hs)
      rw [taken, htaken, ByteArray.append_assoc, hparts]
  | part s'' e cause next left taken parts more unwilling =>
      refine .part s'' e cause (first ++ next) left ?_ ?_ more fun hs => unwilling (hwilling hs)
      · rw [taken, htaken, ByteArray.append_assoc]
      · rw [ByteArray.append_assoc, ← parts, hparts]

/-- Every run of write calls ends in one of the two ways. -/
theorem writeAll_wrote (s : Sink) (data : ByteArray) : Wrote s data (s.writeAll data) := by
  rcases s with ⟨writes, flushes, taken, writeCalls, flushCalls⟩
  -- The induction is on the answers of the sink, since every call uses up one.
  induction writes generalizing taken writeCalls data with
  | nil =>
      by_cases hnone : data.size = 0
      · rw [writeAll, if_pos hnone, ByteArray.size_eq_zero_iff.mp hnone]
        exact .all _ ByteArray.append_empty.symm id
      · rw [writeAll, if_neg hnone, dif_pos rfl]
        exact .all _ rfl id
  | cons answer later ih =>
      have hlater : Willing ⟨answer :: later, flushes, taken, writeCalls, flushCalls⟩ →
          ∀ a ∈ later, Takes a := fun h => (List.forall_mem_cons.mp h.1).2
      by_cases hnone : data.size = 0
      · rw [writeAll, if_pos hnone, ByteArray.size_eq_zero_iff.mp hnone]
        exact .all _ ByteArray.append_empty.symm id
      · rw [writeAll, if_neg hnone, dif_neg (List.cons_ne_nil _ _)]
        cases answer with
        | error fault =>
            by_cases hagain : fault.kind = .interrupted
            · simp only [write, if_pos hagain]
              exact (ih data taken (writeCalls + 1)).after_call ByteArray.append_empty.symm
                ByteArray.empty_append fun h => ⟨hlater h, h.2⟩
            · simp only [write, if_neg hagain]
              exact .part _ _ (.io fault hagain) ByteArray.empty data
                ByteArray.append_empty.symm ByteArray.empty_append.symm (by omega)
                fun h => hagain (h.1 _ List.mem_cons_self)
        | ok n =>
            cases hk : min n data.size with
            | zero =>
                have hn : n = 0 := by omega
                simp only [write, hk]
                refine .part _ _ .closed ByteArray.empty data ?_ ByteArray.empty_append.symm
                  (by omega) fun h => ?_
                · rw [ByteArray.extract_same]
                · exact absurd hn (Nat.ne_of_gt (h.1 _ List.mem_cons_self))
            | succ k =>
                -- The bytes of this call and those behind them are all of the data.
                have hall : data.extract 0 (k + 1) ++ data.extract (k + 1) data.size = data := by
                  rw [extract_append_extract_of_le (Nat.zero_le _) (by omega),
                    ByteArray.extract_zero_size]
                simp only [write, hk]
                exact (ih _ _ (writeCalls + 1)).after_call rfl hall fun h => ⟨hlater h, h.2⟩

theorem writeAll_willing {s : Sink} (h : s.Willing) (data : ByteArray) :
    ∃ s', s.writeAll data = (.ok (), s') ∧ s'.taken = s.taken ++ data ∧ s'.Willing := by
  have hwrote := s.writeAll_wrote data
  generalize s.writeAll data = outcome at hwrote ⊢
  cases hwrote with
  | all s' taken willing => exact ⟨s', rfl, taken, willing h⟩
  | part s' e cause first left taken parts more unwilling => exact absurd h unwilling

/-- Flushing changes nothing of what was taken, and a willing sink is flushed. -/
theorem flushAll_cases (s : Sink) :
    ∃ s', ((s.flushAll = (.ok (), s') ∧ (s.Willing → s'.Willing)) ∨
      ∃ e, s.flushAll = (.error e, s') ∧ e.OfSink ∧ ¬ s.Willing) ∧ s'.taken = s.taken := by
  rcases s with ⟨writes, flushes, taken, writeCalls, flushCalls⟩
  induction flushes generalizing flushCalls with
  | nil =>
      rw [flushAll, dif_pos rfl]
      exact ⟨_, .inl ⟨rfl, id⟩, rfl⟩
  | cons answer later ih =>
      have hlater : Willing ⟨writes, answer :: later, taken, writeCalls, flushCalls⟩ →
          Willing ⟨writes, later, taken, writeCalls, flushCalls + 1⟩ :=
        fun h => ⟨h.1, (List.forall_mem_cons.mp h.2).2⟩
      rw [flushAll, dif_neg (List.cons_ne_nil _ _)]
      cases answer with
      | error fault =>
          by_cases hagain : fault.kind = .interrupted
          · simp only [flush, if_pos hagain]
            rcases ih (flushCalls + 1) with ⟨s', ⟨hrun, hs'⟩ | ⟨e, hrun, he, hnot⟩, htaken⟩
            · exact ⟨s', .inl ⟨hrun, fun h => hs' (hlater h)⟩, htaken⟩
            · exact ⟨s', .inr ⟨e, hrun, he, fun h => hnot (hlater h)⟩, htaken⟩
          · simp only [flush, if_neg hagain]
            exact ⟨_, .inr ⟨_, rfl, .io fault hagain, fun h => hagain (h.2 _ List.mem_cons_self)⟩,
              rfl⟩
      | ok _ => exact ⟨_, .inl ⟨rfl, hlater⟩, rfl⟩

theorem flushAll_willing {s : Sink} (h : s.Willing) :
    ∃ s', s.flushAll = (.ok (), s') ∧ s'.taken = s.taken ∧ s'.Willing := by
  rcases s.flushAll_cases with ⟨s', ⟨hrun, hs'⟩ | ⟨_, _, _, hnot⟩, htaken⟩
  · exact ⟨s', hrun, htaken, hs' h⟩
  · exact absurd h hnot

end Sink

/-- What becomes of a payload that is sent to a sink that does not fail: nothing
    is sent of a blank one, a newline inside and a line that is longer than the
    line buffer are refused. -/
def answerTo (payload : ByteArray) : Except LineError Bool :=
  if (trimmed payload).size = 0 then .ok false
  else if newline ∈ octets (trimmed payload) then .error .embeddedNewline
  else if defaultLimit < (trimmed payload).size + 1 then
    .error (.overflow ⟨0, (trimmed payload).size + 1, defaultLimit⟩)
  else .ok true

/-- A payload at the end of a line buffer that nothing is left in: the answer is
    the one that the payload demands, and the line is in the buffer if that is
    yes. -/
theorem Buffer.appendLine_answerTo {b : Buffer} (hlimit : b.limit = defaultLimit)
    (hnone : b.bytes = ByteArray.empty) (payload : ByteArray) :
    (∃ e, answerTo payload = .error e ∧ b.appendLine payload = .error e) ∨
    (answerTo payload = .ok false ∧ b.appendLine payload = .ok none) ∨
    ∃ (m : Message) (b' : Buffer), answerTo payload = .ok true ∧ m.bytes = trimmed payload ∧
      m.size ≤ defaultLimit ∧ b.appendLine payload = .ok (some b') ∧ b'.bytes = m.wire ∧
      b'.limit = defaultLimit := by
  unfold answerTo
  rcases b.appendLine_cases payload with ⟨hblank, hskip⟩ | ⟨hbroken, herr⟩ | ⟨m, hm, hsame⟩
  · rw [if_pos hblank]
    exact .inr (.inl ⟨rfl, hskip⟩)
  · have hsome : (trimmed payload).size ≠ 0 := by
      rw [← length_octets]
      exact List.length_pos_iff.mpr (List.ne_nil_of_mem hbroken) |>.ne'
    rw [if_neg hsome, if_pos hbroken]
    exact .inl ⟨_, rfl, herr⟩
  · have hsome : (trimmed payload).size ≠ 0 := by
      rw [← hm]
      exact m.nonempty.ne'
    have hwhole : newline ∉ octets (trimmed payload) := by
      rw [← hm]
      exact m.line.unbroken
    have hsize : (trimmed payload).size = m.size := by
      rw [← hm]
      rfl
    have hempty : b.size = 0 := ByteArray.size_eq_zero_iff.mpr hnone
    have hword : defaultLimit < wordBound := by decide
    rw [if_neg hsome, if_neg hwhole, hsize, hsame]
    rcases b.appendLine_message_cases m with ⟨hfull, herr⟩ | ⟨hroom, b', hok, hbytes, hb'⟩
    · rw [if_pos (show defaultLimit < m.size + 1 by omega), herr, hempty, hlimit]
      exact .inl ⟨_, rfl, rfl⟩
    · rw [if_neg (show ¬ defaultLimit < m.size + 1 by omega)]
      refine .inr (.inr ⟨m, b', rfl, hm, by omega, hok, ?_, hb'.trans hlimit⟩)
      rw [hbytes, hnone, ByteArray.empty_append]

theorem written_cons (payload : ByteArray) (payloads : List ByteArray)
    (answer : Except LineError Bool) (answers : List (Except LineError Bool)) :
    written (payload :: payloads) (answer :: answers)
      = written [payload] [answer] ++ written payloads answers := by
  unfold written
  rw [List.zip_cons_cons, ← List.singleton_append, List.filterMap_append]
  rfl

namespace Writer

/-- A payload is answered, and what it adds to the sink is the line of the one
    message that was written, or nothing. -/
theorem send_willing {w : Writer} (hline : w.line.limit = defaultLimit) (h : w.sink.Willing)
    (payload : ByteArray) :
    ∃ w' ms, w.send payload = (answerTo payload, w') ∧
      written [payload] [answerTo payload] = ms.map Message.bytes ∧
      (∀ m ∈ ms, m.size ≤ defaultLimit) ∧ w'.sink.taken = w.sink.taken ++ wires ms ∧
      w'.line.limit = defaultLimit ∧ w'.sink.Willing := by
  have hlimit : w.line.clear.limit = defaultLimit := hline
  have hnothing : w.sink.taken = w.sink.taken ++ wires [] := ByteArray.append_empty.symm
  unfold send
  rcases Buffer.appendLine_answerTo hlimit rfl payload with
    ⟨e, hanswer, herr⟩ | ⟨hanswer, hskip⟩ | ⟨m, b, hanswer, hm, hsize, hok, hbytes, hb⟩
  · rw [hanswer, herr]
    exact ⟨_, [], rfl, rfl, List.forall_mem_nil _, hnothing, hlimit, h⟩
  · rw [hanswer, hskip]
    exact ⟨_, [], rfl, rfl, List.forall_mem_nil _, hnothing, hlimit, h⟩
  · rcases Sink.writeAll_willing h b.bytes with ⟨s', hwrite, htaken, hs'⟩
    rcases Sink.flushAll_willing hs' with ⟨s'', hflush, hsame, hs''⟩
    rw [hanswer, hok]
    simp only [hwrite, hflush]
    refine ⟨_, [m], rfl, ?_, List.forall_mem_singleton.mpr hsize, ?_, hb, hs''⟩
    · rw [List.map_singleton, hm]
      rfl
    · rw [hsame, htaken, hbytes, wires_cons, wires_nil, ByteArray.append_empty]

/-- Payloads are answered each for itself, and the sink takes the messages of
    those that were written. -/
theorem sendAll_willing (payloads : List ByteArray) {w : Writer}
    (hline : w.line.limit = defaultLimit) (h : w.sink.Willing) :
    ∃ w' ms, sendAll payloads w = (payloads.map answerTo, w') ∧
      written payloads (payloads.map answerTo) = ms.map Message.bytes ∧
      (∀ m ∈ ms, m.size ≤ defaultLimit) ∧ w'.sink.taken = w.sink.taken ++ wires ms := by
  induction payloads generalizing w with
  | nil => exact ⟨w, [], rfl, rfl, List.forall_mem_nil _, ByteArray.append_empty.symm⟩
  | cons payload payloads ih =>
      rcases send_willing hline h payload with
        ⟨w', ms, hsend, hwritten, hfits, htaken, hline', hwilling⟩
      rcases ih hline' hwilling with ⟨w'', ms', hmore, hwritten', hfits', htaken'⟩
      refine ⟨w'', ms ++ ms', ?_, ?_, ?_, ?_⟩
      · rw [sendAll, hsend]
        simp only [hmore, List.map_cons]
      · rw [List.map_cons, written_cons, hwritten, hwritten', List.map_append]
      · exact List.forall_mem_append.mpr ⟨hfits, hfits'⟩
      · rw [htaken', htaken, wires_append, ByteArray.append_assoc]

end Writer

/-- Payloads are sent to a sink that takes any number of bytes but zero in each
    call and interrupts as it likes. Every call is answered as its payload alone
    demands. However a reader of the same limit is then given the bytes of the
    sink, its answers are the trimmed payloads of the calls that were answered
    with yes, in order, and then the end of the stream, with nothing pending. -/
theorem sent_lines_are_read (payloads : List ByteArray) (writes : List (Except Fault Nat))
    (flushes : List (Except Fault Unit)) (h : (Sink.ofAnswers writes flushes).Willing) :
    let run := Writer.sendAll payloads (Writer.ofSink (Sink.ofAnswers writes flushes))
    run.1 = payloads.map answerTo ∧
    ∀ answers, Delivery answers → joined (piecesOf answers) = run.2.sink.taken →
      ∃ (ms : List Message) (r : Reader), ms.map Message.bytes = written payloads run.1 ∧
        (Reader.ofAnswers defaultLimit answers).nexts (ms.length + 1)
          = (ms.map .ok ++ [.error .closed], r) ∧
        r.pending = Line.empty ∧ r.ready = [] := by
  intro run
  have hline : (Writer.ofSink (Sink.ofAnswers writes flushes)).line.limit = defaultLimit := rfl
  rcases Writer.sendAll_willing payloads hline h with ⟨w', ms, hrun, hwritten, hfits, htaken⟩
  have hanswers : run.1 = payloads.map answerTo := congrArg Prod.fst hrun
  have hwires : run.2.sink.taken = wires ms := by
    rw [show run.2 = w' from congrArg Prod.snd hrun, htaken]
    exact ByteArray.empty_append
  refine ⟨hanswers, fun answers hdelivery hjoined => ?_⟩
  have hsplit : Split.goOn Line.empty (joined (piecesOf answers))
      = ⟨ms.map (·.line), Line.empty⟩ := by
    rw [Split.goOn_empty, hjoined, hwires, split_wires]
  have hall : (Split.goOn Line.empty (joined (piecesOf answers))).Fits defaultLimit := by
    rw [hsplit]
    exact ⟨List.forall_mem_map.mpr hfits, Nat.zero_le _⟩
  rcases Reader.nexts_ofAnswers defaultLimit (by decide) answers hdelivery with
    ⟨ms', e, r, hnexts, hends⟩
  rcases hends.of_fits hall with ⟨rfl, hgiven, hready, hpending⟩
  rw [hsplit, messagesOf_lines] at hgiven
  rw [hsplit] at hpending
  rw [hgiven] at hnexts
  exact ⟨ms, r, by rw [hanswers, hwritten], hnexts, hpending, hready⟩

/-- Of three payloads the second is blank. The sink takes the first line in three
    calls and interrupts in between, and the reader gets the stream cut inside
    both lines. -/
theorem sent_lines_are_read_three_payloads :
    let writes : List (Except Fault Nat) := [.ok 1, .error (.plain .interrupted), .ok 1, .ok 9]
    let flushes : List (Except Fault Unit) := [.error (.plain .interrupted), .ok ()]
    let run := Writer.sendAll [" ab ".toUTF8, "\t".toUTF8, "c".toUTF8]
      (Writer.ofSink (Sink.ofAnswers writes flushes))
    let answers : List ReadAnswer :=
      [.ok "a".toUTF8, .error (.plain .interrupted), .ok "b\nc".toUTF8, .ok "\n".toUTF8]
    (Sink.ofAnswers writes flushes).Willing ∧ Delivery answers ∧
      joined (piecesOf answers) = run.2.sink.taken ∧
      run.1 = [.ok true, .ok false, .ok true] ∧
      ∃ (ms : List Message) (r : Reader), ms.map Message.bytes = ["ab".toUTF8, "c".toUTF8] ∧
        (Reader.ofAnswers defaultLimit answers).nexts (ms.length + 1)
          = (ms.map .ok ++ [.error .closed], r) := by
  intro writes flushes run answers
  have hwilling : (Sink.ofAnswers writes flushes).Willing := by decide
  have hdelivery : Delivery answers := by decide
  have hjoined : joined (piecesOf answers) = run.2.sink.taken := by decide +kernel
  have hrun : run.1 = [.ok true, .ok false, .ok true] := by decide +kernel
  have hwritten : written [" ab ".toUTF8, "\t".toUTF8, "c".toUTF8] run.1
      = ["ab".toUTF8, "c".toUTF8] := by
    rw [hrun]
    decide +kernel
  rcases (sent_lines_are_read _ writes flushes hwilling).2 answers hdelivery hjoined with
    ⟨ms, r, hmessages, hnexts, _⟩
  exact ⟨hwilling, hdelivery, hjoined, hrun, ms, r, hmessages.trans hwritten, hnexts⟩

end LineChat
