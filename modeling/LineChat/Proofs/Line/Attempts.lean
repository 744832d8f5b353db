import LineChat.Proofs.Line.Sending

/-!
# What a Failing Sink Holds

What a sink has taken that may fail at any byte, also when payloads are sent on
after a failure.

A send that fails has added a part of its line to the sink and nothing else, so
a run of sends comes down to one `Attempt` for each payload, whatever the calls
of the sink answered. The bytes of the sink are the bytes of the attempts. That
decides what their records are (`Attempt.stream`): a line that was cut off is
continued by the next one that is attempted.

So the sink holds whole messages and the part of the last line, in order, if and
only if nothing was attempted after a line of which a part was left
(`untorn_iff`). The answers show this to the caller, since every line that was
cut off is answered with a failure of the sink: whoever stops there never tears
a line. The writer itself does not stop.

## Main definitions

* `Attempt`: What a payload has added to a sink.
* `Attempts`: What became of several payloads.
* `Attempt.stream`: The records of attempts.
* `Attempt.Untorn`: Nothing is attempted after a part that was left.

## Theorems

* `send_attempt`, `sendAll_attempts`: One payload, and several.
* `untorn_iff`: Exactly when the records are the messages sent.
* `sink_holds_whole_lines`: What a sink holds after any sends.
* `torn_line_goes_on`: A record of two payloads.
-/

namespace LineChat

/-- What a payload that was sent has added to a sink. -/
inductive Attempt where
  /-- No line was begun. -/
  | nothing
  /-- The whole line of a message. -/
  | whole (m : Message)
  /-- The beginning of the line of a message. -/
  | cut (m : Message) (part : Line)

namespace Attempt

/-- The bytes that were added. -/
def bytes : Attempt → ByteArray
  | nothing => ByteArray.empty
  | whole m => m.wire
  | cut _ part => part.bytes

/-- The payload and its answer explain what was added. A line is begun if and
    only if the payload alone would have been answered with yes. -/
inductive Of (payload : ByteArray) : Except LineError Bool → Attempt → Prop
  | refused {answer : Except LineError Bool} (h : answerTo payload = answer)
      (hno : answer ≠ .ok true) : Of payload answer nothing
  | sent (m : Message) (hm : m.bytes = trimmed payload) (h : answerTo payload = .ok true) :
      Of payload (.ok true) (whole m)
  | unflushed (m : Message) (hm : m.bytes = trimmed payload) (h : answerTo payload = .ok true)
      (e : LineError) (he : e.OfSink) : Of payload (.error e) (whole m)
  | failed (m : Message) (hm : m.bytes = trimmed payload) (h : answerTo payload = .ok true)
      (e : LineError) (he : e.OfSink) (part : Line)
      (hpart : octets part.bytes <+: octets m.bytes) : Of payload (.error e) (cut m part)

/-- The records of attempts: a part that is left is continued by the next line. -/
def stream : Line → List Attempt → Split
  | l, [] => ⟨[], l⟩
  | l, nothing :: as => stream l as
  | l, whole m :: as => ⟨l.append m.line :: (stream Line.empty as).lines,
      (stream Line.empty as).rest⟩
  | l, cut _ part :: as => stream (l.append part) as

/-- The messages whose line was added as a whole. -/
def wholes : List Attempt → List Message
  | [] => []
  | nothing :: as => wholes as
  | whole m :: as => m :: wholes as
  | cut _ _ :: as => wholes as

/-- What was left by the last line that was attempted, after one that left `l`. -/
def lastPart : Line → List Attempt → Line
  | l, [] => l
  | l, nothing :: as => lastPart l as
  | _, whole _ :: as => lastPart Line.empty as
  | _, cut _ part :: as => lastPart part as

/-- After a line of which a part was left no other one is attempted. The last
    line that was attempted before has left `l`. -/
def Untorn : Line → List Attempt → Prop
  | _, [] => True
  | l, nothing :: as => Untorn l as
  | l, whole _ :: as => l = Line.empty ∧ Untorn Line.empty as
  | l, cut _ part :: as => l = Line.empty ∧ Untorn part as

end Attempt

/-- What became of several payloads, one after the other. -/
inductive Attempts : List ByteArray → List (Except LineError Bool) → List Attempt → Prop
  | nil : Attempts [] [] []
  | cons {payload : ByteArray} {answer : Except LineError Bool} {a : Attempt}
      {payloads : List ByteArray} {answers : List (Except LineError Bool)} {as : List Attempt}
      (first : a.Of payload answer) (more : Attempts payloads answers as) :
      Attempts (payload :: payloads) (answer :: answers) (a :: as)

namespace Attempt

-- What is added continues the held line up to the next newline.
theorem goOn_bytes (l : Line) (as : List Attempt) :
    Split.goOn l (joined (as.map bytes)) = stream l as := by
  apply Split.join_injective
  rw [Split.goOn, Split.join_append, join_split, Split.join_nil]
  induction as generalizing l with
  | nil => exact ByteArray.append_empty
  | cons a as ih =>
      rw [List.map_cons, joined_cons]
      cases a with
      | nothing => rw [stream, ← ih l, bytes, ByteArray.empty_append]
      | whole m =>
          have hmore := ih Line.empty
          apply octets_injective
          rw [stream, Split.join_cons, ← hmore]
          simp [bytes, Message.wire, Line.append, Line.empty]
      | cut m part =>
          rw [stream, ← ih, bytes, ← ByteArray.append_assoc]
          rfl

/-- The number of bytes in records, without the newlines. -/
def total (s : Split) : Nat := s.lines.foldr (fun l n => l.size + n) s.rest.size

-- A line that is continued makes the records longer by what it has already.
theorem total_stream_append (l part : Line) (as : List Attempt) :
    total (stream (l.append part) as) = l.size + total (stream part as) := by
  induction as generalizing part with
  | nil => simp [stream, total]
  | cons a as ih =>
      cases a with
      | nothing => exact ih part
      | whole m =>
          simp only [stream, total, List.foldr_cons, Line.size_append]
          omega
      | cut m more =>
          have hassoc : (l.append part).append more = l.append (part.append more) :=
            Line.ext ByteArray.append_assoc
          rw [stream, hassoc, ih]
          rfl

-- Records of which nothing was put together are the shortest ones.
theorem total_wholes_le (l : Line) (as : List Attempt) :
    total ⟨(wholes as).map (·.line), lastPart l as⟩ ≤ total (stream l as) := by
  induction as generalizing l with
  | nil => exact Nat.le_refl _
  | cons a as ih =>
      cases a with
      | nothing => exact ih l
      | whole m =>
          have hmore := ih Line.empty
          simp only [total, wholes, lastPart, stream, List.map_cons, List.foldr_cons,
            Line.size_append] at hmore ⊢
          omega
      | cut m part =>
          have hmore := ih part
          rw [stream, total_stream_append]
          exact Nat.le_add_left_of_le hmore

/-- The records are the messages that were sent and the part of the last line,
    if and only if nothing was attempted after a part that was left. -/
theorem untorn_iff (l : Line) (as : List Attempt) :
    Untorn l as ↔ stream l as = ⟨(wholes as).map (·.line), lastPart l as⟩ := by
  induction as generalizing l with
  | nil => exact iff_of_true trivial rfl
  | cons a as ih =>
      cases a with
      | nothing => exact ih l
      | whole m =>
          have happend : l.append m.line = m.line ↔ l = Line.empty := by
            refine ⟨fun h => ?_, fun h => ?_⟩
            · have hsize := congrArg Line.size h
              rw [Line.size_append] at hsize
              exact Line.ext (ByteArray.size_eq_zero_iff.mp (show l.size = 0 by omega))
            · rw [h, Line.empty_append]
          rw [Untorn, ih, ← happend, stream, wholes, lastPart]
          rcases stream Line.empty as with ⟨ls, rest⟩
          simp only [List.map_cons, Split.mk.injEq, List.cons.injEq, and_assoc]
      | cut m part =>
          rw [Untorn, ih, stream, wholes, lastPart]
          refine ⟨fun ⟨hl, hmore⟩ => ?_, fun h => ?_⟩
          · rw [hl, Line.empty_append, hmore]
          · -- The records would be too short if anything was left before this part.
            have htotal := congrArg total h
            have hle := total_wholes_le part as
            rw [total_stream_append] at htotal
            have hl : l = Line.empty :=
              Line.ext (ByteArray.size_eq_zero_iff.mp (show l.size = 0 by omega))
            rw [hl, Line.empty_append] at h
            exact ⟨hl, h⟩

end Attempt

namespace Attempts

/-- What was added as a whole are trimmed payloads, in order. -/
theorem wholes_sublist {payloads : List ByteArray} {answers : List (Except LineError Bool)}
    {as : List Attempt} (h : Attempts payloads answers as) :
    ((Attempt.wholes as).map Message.bytes).Sublist (payloads.map trimmed) := by
  induction h with
  | nil => exact List.Sublist.refl _
  | cons first more ih =>
      cases first with
      | refused _ _ => exact ih.cons _
      | sent m hm _ =>
          rw [Attempt.wholes, List.map_cons, List.map_cons, hm]
          exact ih.cons_cons _
      | unflushed m hm _ e he =>
          rw [Attempt.wholes, List.map_cons, List.map_cons, hm]
          exact ih.cons_cons _
      | failed m hm _ e he part hpart => exact ih.cons _

/-- If no payload but the last one was answered with a failure of the sink,
    nothing was attempted after a part that was left. -/
theorem untorn_of_answers {payloads : List ByteArray} {answers : List (Except LineError Bool)}
    {as : List Attempt} (h : Attempts payloads answers as)
    (hcalm : ∀ e, e.OfSink → .error e ∉ answers.dropLast) : Attempt.Untorn Line.empty as := by
  induction h with
  | nil => trivial
  | cons first more ih =>
      cases more with
      | nil =>
          cases first with
          | refused _ _ => trivial
          | sent m _ _ => exact ⟨rfl, trivial⟩
          | unflushed m _ _ e _ => exact ⟨rfl, trivial⟩
          | failed m _ _ e _ part _ => exact ⟨rfl, trivial⟩
      | cons second more =>
          rw [List.dropLast_cons_cons] at hcalm
          have hmore := ih fun e he hmem => hcalm e he (List.mem_cons_of_mem _ hmem)
          cases first with
          | refused _ _ => exact hmore
          | sent m _ _ => exact ⟨rfl, hmore⟩
          | unflushed m _ _ e he => exact absurd List.mem_cons_self (hcalm e he)
          | failed m _ _ e he part _ => exact absurd List.mem_cons_self (hcalm e he)

end Attempts

namespace Writer

-- A part of a line that something is missing of does not reach the newline.
theorem exists_part {m : Message} {first left : ByteArray} (h : m.wire = first ++ left)
    (hleft : 0 < left.size) :
    ∃ part : Line, part.bytes = first ∧ octets part.bytes <+: octets m.bytes := by
  have hoctets : octets m.bytes ++ [newline] = octets first ++ octets left := by
    rw [← octets_append, ← h]
    exact (octets_wire m.line).symm
  have hsome : octets left ≠ [] := by
    rw [← List.length_pos_iff, length_octets]
    exact hleft
  have hbegins : octets first <+: octets m.bytes := by
    rcases List.prefix_concat_iff.mp (show octets first <+: octets m.bytes ++ [newline] from
      ⟨octets left, hoctets.symm⟩) with hall | hpart
    · rw [← hall, List.self_eq_append_right] at hoctets
      exact absurd hoctets hsome
    · exact hpart
  exact ⟨⟨first, fun hmem => m.line.unbroken (hbegins.subset hmem)⟩, rfl, hbegins⟩

/-- A payload makes one attempt. -/
theorem send_attempt {w : Writer} (hline : w.line.limit = defaultLimit) (payload : ByteArray) :
    ∃ a : Attempt, a.Of payload (w.send payload).1 ∧
      (w.send payload).2.sink.taken = w.sink.taken ++ a.bytes ∧
      (w.send payload).2.line.limit = defaultLimit := by
  have hlimit : w.line.clear.limit = defaultLimit := hline
  have hnothing : w.sink.taken = w.sink.taken ++ Attempt.nothing.bytes :=
    ByteArray.append_empty.symm
  unfold send
  rcases Buffer.appendLine_answerTo hlimit rfl payload with
    ⟨e, hanswer, herr⟩ | ⟨hanswer, hskip⟩ | ⟨m, b, hanswer, hm, _, hok, hbytes, hb⟩
  · rw [herr]
    exact ⟨.nothing, .refused hanswer nofun, hnothing, hlimit⟩
  · rw [hskip]
    exact ⟨.nothing, .refused hanswer nofun, hnothing, hlimit⟩
  · have hwrote := w.sink.writeAll_wrote m.wire
    rw [hok]
    dsimp only
    rw [hbytes]
    generalize w.sink.writeAll m.wire = outcome at hwrote ⊢
    cases hwrote with
    | all s' taken willing =>
        rcases s'.flushAll_cases with ⟨s'', ⟨hflush, _⟩ | ⟨e, hflush, he, _⟩, hsame⟩
        · simp only [hflush]
          exact ⟨.whole m, .sent m hm hanswer, hsame.trans taken, hb⟩
        · simp only [hflush]
          exact ⟨.whole m, .unflushed m hm hanswer e he, hsame.trans taken, hb⟩
    | part s' e cause first left taken parts more unwilling =>
        rcases exists_part parts more with ⟨part, rfl, hbegins⟩
        exact ⟨.cut m part, .failed m hm hanswer e cause part hbegins, taken, hb⟩

/-- Payloads make one attempt each, and the sink takes nothing else. -/
theorem sendAll_attempts (payloads : List ByteArray) {w : Writer}
    (hline : w.line.limit = defaultLimit) :
    ∃ as, Attempts payloads (sendAll payloads w).1 as ∧
      (sendAll payloads w).2.sink.taken = w.sink.taken ++ joined (as.map Attempt.bytes) := by
  induction payloads generalizing w with
  | nil => exact ⟨[], .nil, ByteArray.append_empty.symm⟩
  | cons payload payloads ih =>
      rcases send_attempt hline payload with ⟨a, hfirst, htaken, hline'⟩
      rcases ih hline' with ⟨as, hmore, htaken'⟩
      refine ⟨a :: as, .cons hfirst hmore, ?_⟩
      rw [List.map_cons, joined_cons, ← ByteArray.append_assoc, ← htaken, ← htaken']
      rfl

end Writer

/-- Whatever the calls of a sink answer and however often something is sent, the
    sink holds what each payload added to it: nothing, its line, or a beginning
    of its line. The records are the trimmed payloads whose line was added as a
    whole, in order and each once, and behind them the part of the last line, if
    and only if nothing was attempted after a line of which a part was left. So
    it is if no payload but the last was answered with a failure of the sink. -/
theorem sink_holds_whole_lines (payloads : List ByteArray) (writes : List (Except Fault Nat))
    (flushes : List (Except Fault Unit)) :
    let run := Writer.sendAll payloads (Writer.ofSink (Sink.ofAnswers writes flushes))
    ∃ as, Attempts payloads run.1 as ∧
      split run.2.sink.taken = Attempt.stream Line.empty as ∧
      ((Attempt.wholes as).map Message.bytes).Sublist (payloads.map trimmed) ∧
      (Attempt.Untorn Line.empty as ↔ split run.2.sink.taken
        = ⟨(Attempt.wholes as).map (·.line), Attempt.lastPart Line.empty as⟩) ∧
      ((∀ e, e.OfSink → .error e ∉ run.1.dropLast) → Attempt.Untorn Line.empty as) := by
  intro run
  have hline : (Writer.ofSink (Sink.ofAnswers writes flushes)).line.limit = defaultLimit := rfl
  rcases Writer.sendAll_attempts payloads hline with ⟨as, hattempts, htaken⟩
  have hstream : split run.2.sink.taken = Attempt.stream Line.empty as := by
    rw [← Attempt.goOn_bytes, Split.goOn_empty, show run.2.sink.taken = _ from htaken]
    exact congrArg split ByteArray.empty_append
  refine ⟨as, hattempts, hstream, hattempts.wholes_sublist, ?_, hattempts.untorn_of_answers⟩
  rw [hstream]
  exact Attempt.untorn_iff Line.empty as

/-- The second of two lines is cut off, and the caller stops there: the sink
    holds the first one and the part of the second. -/
theorem sink_holds_whole_lines_until_failure :
    let writes : List (Except Fault Nat) := [.ok 3, .ok 9, .ok 1, .error (.plain .brokenPipe)]
    let run := Writer.sendAll [" abc ".toUTF8, "\t".toUTF8, "de".toUTF8]
      (Writer.ofSink (Sink.ofAnswers writes []))
    run.1 = [.ok true, .ok false, .error (.io (.plain .brokenPipe))] ∧
      ∃ as, Attempts [" abc ".toUTF8, "\t".toUTF8, "de".toUTF8] run.1 as ∧
        split run.2.sink.taken
          = ⟨(Attempt.wholes as).map (·.line), Attempt.lastPart Line.empty as⟩ := by
  intro writes run
  have hrun : run.1 = [.ok true, .ok false, .error (.io (.plain .brokenPipe))] := by
    decide +kernel
  rcases sink_holds_whole_lines _ writes [] with ⟨as, hattempts, _, _, huntorn, hanswers⟩
  refine ⟨hrun, as, hattempts, huntorn.mp (hanswers fun e he => ?_)⟩
  rw [show (Writer.sendAll _ _).1 = run.1 from rfl, hrun]
  simp

/-- Two payloads are sent to a sink that takes two bytes and then fails once. The
    second one is answered with yes, and the sink holds one record with the
    bytes of both, which is no payload. -/
theorem torn_line_goes_on :
    let run := Writer.sendAll ["abc".toUTF8, "de".toUTF8]
      (Writer.ofSink (Sink.ofAnswers [.ok 2, .error (.plain .other)] []))
    run.1 = [.error (.io (.plain .other)), .ok true] ∧
      (split run.2.sink.taken).lines.map Line.bytes = ["abde".toUTF8] ∧
      ∀ payload ∈ ["abc".toUTF8, "de".toUTF8], trimmed payload ≠ "abde".toUTF8 := by
  decide +kernel

end LineChat
