import LineChat.Line.Reader
import LineChat.Proofs.Line.Framing

/-!
# What a Reader Gives

The answers of a reader up to the first that is an error.

A stream may come in read calls of any size, and some of them are interrupted.
A reader feeds one call after the other to its framer and hands out what waits
before it reads again, so the messages come in the order of their lines. The
induction is on the read calls, and what carries it is the unended line: the
lines that the calls behind it complete are those of a stream that goes on from
that line, whatever was read before (`Split.lines_append`).

If no line is too long, the answers do not tell how the stream was delivered:
all messages, and then the end of the stream. A line that is too long is a
different matter. A call that completes messages and then meets such a line
puts the messages by and answers with the refusal. So the answers before it are
the messages of the calls before, and the messages of that one call still wait
when the refusal is out. Which these are depends on the delivery, and only what
was given together with what waits does not.

## Main definitions

* `Delivers`, `Delivery`: Read calls that give bytes or are interrupted.
* `piecesOf`: The bytes of read calls.
* `Split.goOn`: A stream that goes on from an unended line.
* `Reader.Ends`: How the answers of a reader end.

## Theorems

* `nexts_drain`: What waits is given before anything is read.
* `nexts_delivery`: The answers of a delivery up to the first error.
* `delivered_until_error`: The same for a reader at the start of a stream.
* `delivery_changes_answers`: Two deliveries of one stream with different answers.
-/

namespace LineChat

/-- A read call that does not end the stream: it gives bytes, no more than a
    reader asks for, or is interrupted. -/
def Delivers : ReadAnswer → Prop
  | .ok data => 0 < data.size ∧ data.size ≤ readerChunk
  | .error fault => fault.kind = .interrupted

instance : DecidablePred Delivers
  | .ok _ => inferInstanceAs (Decidable (_ ∧ _))
  | .error _ => inferInstanceAs (Decidable (_ = _))

/-- Read calls on a stream that does not fail before its end. -/
def Delivery (answers : List ReadAnswer) : Prop := ∀ answer ∈ answers, Delivers answer

instance (answers : List ReadAnswer) : Decidable (Delivery answers) :=
  inferInstanceAs (Decidable (∀ answer ∈ answers, Delivers answer))

/-- The bytes of the read calls that gave some. -/
def piecesOf (answers : List ReadAnswer) : List ByteArray := answers.filterMap Except.toOption

/-- The stream that goes on from an unended line with more bytes. -/
def Split.goOn (l : Line) (data : ByteArray) : Split := Split.append ⟨[], l⟩ (split data)

theorem piecesOf_cons_ok (data : ByteArray) (later : List ReadAnswer) :
    piecesOf (.ok data :: later) = data :: piecesOf later := rfl

theorem joined_cons (piece : ByteArray) (pieces : List ByteArray) :
    joined (piece :: pieces) = piece ++ joined pieces := rfl

theorem joined_append (a b : List ByteArray) : joined (a ++ b) = joined a ++ joined b := by
  induction a with
  | nil => exact ByteArray.empty_append.symm
  | cons piece a ih => rw [List.cons_append, joined_cons, joined_cons, ih, ByteArray.append_assoc]

namespace Split

theorem goOn_empty (data : ByteArray) : goOn Line.empty data = split data := empty_append _

theorem goOn_nothing (l : Line) : goOn l ByteArray.empty = ⟨[], l⟩ := by
  rw [goOn, split_empty, append_empty]

theorem goOn_append (l : Line) (a b : ByteArray) :
    goOn l (a ++ b) = (goOn l a).append (split b) := by
  unfold goOn
  rw [split_append, append_assoc]

theorem lines_goOn_append (l : Line) (a b : ByteArray) :
    (goOn l (a ++ b)).lines = (goOn l a).lines ++ (goOn (goOn l a).rest b).lines := by
  rw [goOn_append, lines_append]
  rfl

theorem rest_goOn_append (l : Line) (a b : ByteArray) :
    (goOn l (a ++ b)).rest = (goOn (goOn l a).rest b).rest := by
  rw [goOn_append, rest_append]
  rfl

theorem fits_of_fits_goOn_append {limit : Nat} {l : Line} {a b : ByteArray}
    (h : (goOn l (a ++ b)).Fits limit) : (goOn l a).Fits limit := by
  rw [goOn_append] at h
  exact fits_of_fits_append h

-- Behind a part that fits, only what goes on from its unended line can be too long.
theorem fits_goOn_append {limit : Nat} {l : Line} {a : ByteArray} (h : (goOn l a).Fits limit)
    (b : ByteArray) : (goOn l (a ++ b)).Fits limit ↔ (goOn (goOn l a).rest b).Fits limit := by
  rw [goOn_append, fits_append_iff]
  exact and_iff_right h.1

theorem fits_rest_of_fits_goOn_append {limit : Nat} {l : Line} {a b : ByteArray}
    (h : (goOn l (a ++ b)).Fits limit) : (goOn (goOn l a).rest b).Fits limit := by
  rw [goOn_append, fits_append_iff] at h
  exact h.2

theorem within_goOn_append {limit : Nat} {l : Line} {a : ByteArray} (h : (goOn l a).Fits limit)
    (b : ByteArray) : (goOn l (a ++ b)).within limit
      = (goOn l a).lines ++ (goOn (goOn l a).rest b).within limit := by
  rw [goOn_append, within_append_of_lines h.1]
  rfl

end Split

namespace Reader

/-! ## One read call -/

theorem next_of_ready (f : Framer) (m : Message) (ready : List Message) (s : Stream) :
    next ⟨f, m :: ready, s⟩ = (.ok m, ⟨f, ready, s⟩) := by
  rw [next]

theorem next_of_end (f : Framer) (taken : Nat) :
    next ⟨f, [], ⟨[], taken⟩⟩ = (.error .closed, ⟨f, [], ⟨[], taken⟩⟩) := by
  rw [next]
  simp only [dif_pos]

theorem next_of_interrupted (f : Framer) {fault : Fault} (h : fault.kind = .interrupted)
    (later : List ReadAnswer) (taken : Nat) :
    next ⟨f, [], ⟨.error fault :: later, taken⟩⟩ = next ⟨f, [], ⟨later, 0⟩⟩ := by
  rw [next]
  simp only [reduceCtorEq, dif_neg, not_false_eq_true, takeChunk, if_pos h]

-- The messages of a call are handed out like those that have waited, unless the
-- call was refused.
theorem next_of_piece (f : Framer) {data : ByteArray} (hsome : 0 < data.size)
    (hfull : data.size ≤ readerChunk) (later : List ReadAnswer) :
    next ⟨f, [], ⟨.ok data :: later, 0⟩⟩ =
      match (f.feed data).refusal with
      | some o => (.error (.overflow o),
          ⟨(f.feed data).framer, (f.feed data).messages.toList, ⟨later, 0⟩⟩)
      | none => next ⟨(f.feed data).framer, (f.feed data).messages.toList, ⟨later, 0⟩⟩ := by
  have hcall : takeChunk readerChunk ⟨.ok data :: later, 0⟩ = (.ok data, ⟨later, 0⟩) := by
    rw [takeChunk, if_pos (by omega), ByteArray.extract_zero_size]
  rw [next]
  simp only [reduceCtorEq, dif_neg, not_false_eq_true, hcall, if_neg (Nat.ne_of_gt hsome)]
  cases (f.feed data).refusal with
  | some o => rfl
  | none =>
      cases (f.feed data).messages.toList with
      | nil => rfl
      | cons m ready => rw [next_of_ready]

/-! ## Requests -/

theorem nexts_drain (f : Framer) (ready : List Message) (s : Stream) (n : Nat) :
    nexts (ready.length + n) ⟨f, ready, s⟩
      = (ready.map .ok ++ (nexts n ⟨f, [], s⟩).1, (nexts n ⟨f, [], s⟩).2) := by
  induction ready with
  | nil => rw [List.length_nil, Nat.zero_add, List.map_nil, List.nil_append]
  | cons m ready ih =>
      rw [List.length_cons, Nat.add_right_comm, nexts, next_of_ready, ih]
      rfl

-- Requests are answered alike by readers that answer the first one alike.
theorem nexts_of_next {r r' : Reader} (h : r.next = r'.next) (n : Nat) :
    nexts (n + 1) r = nexts (n + 1) r' := by
  rw [nexts, nexts, h]

/-- How the answers of a reader end that holds the unended line `l` and is given
    `pieces`, where `ms` are the messages before the error. Either every line
    fits, and all of them were given; or one is too long, and the messages of
    the pieces before it were given, while those of its own piece wait. -/
inductive Ends (limit : Nat) (l : Line) (pieces : List ByteArray) (ms : List Message) :
    LineError → Reader → Prop
  | closed (r : Reader) (hfits : (Split.goOn l (joined pieces)).Fits limit)
      (hall : ms = messagesOf (Split.goOn l (joined pieces)).lines) (hready : r.ready = [])
      (hpending : r.pending = (Split.goOn l (joined pieces)).rest) :
      Ends limit l pieces ms .closed r
  | overflow (o : Overflow) (r : Reader) (before : List ByteArray) (piece : ByteArray)
      (after : List ByteArray) (hpieces : pieces = before ++ piece :: after)
      (hfits : (Split.goOn l (joined before)).Fits limit)
      (hlong : ¬ (Split.goOn l (joined before ++ piece)).Fits limit)
      (hgiven : ms = messagesOf (Split.goOn l (joined before)).lines)
      (hready : ms ++ r.ready = messagesOf ((Split.goOn l (joined pieces)).within limit)) :
      Ends limit l pieces ms (.overflow o) r

-- A piece that fits comes first, and the answers to it before the others.
theorem Ends.cons {limit : Nat} {l : Line} {data : ByteArray} {pieces : List ByteArray}
    {ms : List Message} {e : LineError} {r : Reader} (hfits : (Split.goOn l data).Fits limit)
    (h : Ends limit (Split.goOn l data).rest pieces ms e r) :
    Ends limit l (data :: pieces) (messagesOf (Split.goOn l data).lines ++ ms) e r := by
  cases h with
  | closed r hfits' hall hready hpending =>
      refine .closed r ?_ ?_ hready ?_
      · rw [joined_cons, Split.fits_goOn_append hfits]
        exact hfits'
      · rw [joined_cons, Split.lines_goOn_append, messagesOf_append, hall]
      · rw [joined_cons, Split.rest_goOn_append, hpending]
  | overflow o r before piece after hpieces hfits' hlong hgiven hready =>
      refine .overflow o r (data :: before) piece after (by rw [hpieces]; rfl) ?_ ?_ ?_ ?_
      · rw [joined_cons, Split.fits_goOn_append hfits]
        exact hfits'
      · rw [joined_cons, ByteArray.append_assoc, Split.fits_goOn_append hfits]
        exact hlong
      · rw [joined_cons, Split.lines_goOn_append, messagesOf_append, hgiven]
      · rw [joined_cons, Split.within_goOn_append hfits, messagesOf_append, List.append_assoc,
          hready]

-- A piece with a line that is too long is the last that is looked at.
theorem Ends.of_long {limit : Nat} {l : Line} {data : ByteArray} {r : Reader}
    (hl : l.size ≤ limit) (hlong : ¬ (Split.goOn l data).Fits limit)
    (hready : r.ready = messagesOf ((Split.goOn l data).within limit)) (o : Overflow)
    (pieces : List ByteArray) : Ends limit l (data :: pieces) [] (.overflow o) r := by
  have hnone : Split.goOn l (joined []) = ⟨[], l⟩ := Split.goOn_nothing l
  refine .overflow o r [] data pieces rfl ?_ ?_ ?_ ?_
  · rw [hnone, Split.fits_nil_iff]
    exact hl
  · rw [show joined [] = ByteArray.empty from rfl, ByteArray.empty_append]
    exact hlong
  · rw [hnone]
    rfl
  · rw [joined_cons, Split.goOn_append,
      Split.within_append_of_not_fits hlong, hready]
    rfl

-- A line that is too long at some point makes the whole stream unfit.
theorem Ends.of_fits {limit : Nat} {l : Line} {pieces : List ByteArray} {ms : List Message}
    {e : LineError} {r : Reader} (h : Ends limit l pieces ms e r)
    (hfits : (Split.goOn l (joined pieces)).Fits limit) :
    e = .closed ∧ ms = messagesOf (Split.goOn l (joined pieces)).lines ∧ r.ready = [] ∧
      r.pending = (Split.goOn l (joined pieces)).rest := by
  cases h with
  | closed r _ hall hready hpending => exact ⟨rfl, hall, hready, hpending⟩
  | overflow o r before piece after hpieces _ hlong =>
      have hjoined : joined pieces = joined before ++ piece ++ joined after := by
        rw [hpieces, joined_append, joined_cons, ByteArray.append_assoc]
      rw [hjoined] at hfits
      exact absurd (Split.fits_of_fits_goOn_append hfits) hlong

/-- The answers to requests up to the first error, from any unended line. -/
theorem nexts_delivery (answers : List ReadAnswer) (h : Delivery answers) (f : Framer)
    (hf : f.limit < wordBound) :
    ∃ ms e r, nexts (ms.length + 1) ⟨f, [], ⟨answers, 0⟩⟩ = (ms.map .ok ++ [.error e], r) ∧
      Ends f.limit f.pending (piecesOf answers) ms e r := by
  induction answers generalizing f with
  | nil =>
      have hnone : Split.goOn f.pending (joined (piecesOf [])) = ⟨[], f.pending⟩ :=
        Split.goOn_nothing _
      refine ⟨[], .closed, ⟨f, [], ⟨[], 0⟩⟩, ?_, .closed _ ?_ ?_ rfl ?_⟩
      · rw [List.length_nil, nexts, next_of_end]
        rfl
      · rw [hnone, Split.fits_nil_iff]
        exact f.held.fits
      · rw [hnone]
        rfl
      · rw [hnone]
        rfl
  | cons answer later ih =>
      cases answer with
      | error fault =>
          -- The call is made again, with the rest of the stream.
          have hfault : fault.kind = .interrupted := h _ List.mem_cons_self
          rcases ih (List.forall_mem_cons.mp h).2 f hf with ⟨ms, e, r, hnexts, hends⟩
          refine ⟨ms, e, r, ?_, hends⟩
          rw [nexts_of_next (next_of_interrupted f hfault later 0)]
          exact hnexts
      | ok data =>
          rcases h _ List.mem_cons_self with ⟨hsome, hfull⟩
          have hnext := next_of_piece f hsome hfull later
          have hreads : (f.feed data).Reads f.limit [] (Split.goOn f.pending data) :=
            Framer.reads_feedLines (split data).lines (split data).rest f hf #[]
          have hmessages := hreads.messages
          rw [List.nil_append] at hmessages
          rw [piecesOf_cons_ok]
          cases hrefusal : (f.feed data).refusal with
          | some o =>
              have hlong : ¬ (Split.goOn f.pending data).Fits f.limit := by
                rw [← hreads.accepted, hrefusal]
                exact Option.some_ne_none o
              rw [hrefusal] at hnext
              refine ⟨[], .overflow o,
                ⟨(f.feed data).framer, (f.feed data).messages.toList, ⟨later, 0⟩⟩, ?_,
                .of_long f.held.fits hlong hmessages o _⟩
              rw [List.length_nil, nexts, hnext]
              rfl
          | none =>
              have hfits := hreads.accepted.mp hrefusal
              rw [Split.within_of_fits hfits] at hmessages
              rw [hrefusal] at hnext
              have hword : (f.feed data).framer.limit < wordBound := hreads.limit.trans_lt hf
              rcases ih (List.forall_mem_cons.mp h).2 (f.feed data).framer hword with
                ⟨ms, e, r, hnexts, hends⟩
              rw [hreads.limit, hreads.pending hrefusal] at hends
              refine ⟨_, e, r, ?_, hends.cons hfits⟩
              -- The messages of the piece are given first, and then it is read on.
              rw [List.length_append, Nat.add_assoc, ← hmessages,
                ← Nat.add_assoc, nexts_of_next hnext, Nat.add_assoc, nexts_drain, hnexts,
                List.map_append, List.append_assoc]

theorem nexts_ofAnswers (limit : Nat) (hlimit : limit < wordBound) (answers : List ReadAnswer)
    (h : Delivery answers) :
    ∃ ms e r, nexts (ms.length + 1) (ofAnswers limit answers) = (ms.map .ok ++ [.error e], r) ∧
      Ends limit Line.empty (piecesOf answers) ms e r :=
  nexts_delivery answers h (Framer.ofLimit limit) hlimit

end Reader

/-- A reader that is given a stream in read calls, some of them interrupted,
    answers first with messages and then with an error. If no line of the stream
    is too long, the messages are those of all its lines and the error is the end
    of the stream, however it was delivered. Otherwise the error is a refusal, and
    the messages before it are those of the calls before the one in which the line
    that is too long came, or grew too long. The messages of that call come
    behind the refusal: they wait. -/
theorem delivered_until_error (limit : Nat) (hlimit : limit < wordBound)
    (answers : List ReadAnswer) (h : Delivery answers) :
    let pieces := piecesOf answers
    let records := split (joined pieces)
    ∃ ms e r, (Reader.ofAnswers limit answers).nexts (ms.length + 1)
        = (ms.map .ok ++ [.error e], r) ∧
      (records.Fits limit → e = .closed ∧ ms = records.lines.filterMap Message.ofLine? ∧
        r.ready = [] ∧ r.pending = records.rest) ∧
      (¬ records.Fits limit → (∃ o, e = .overflow o) ∧
        ms ++ r.ready = (records.lines.takeWhile (·.size ≤ limit)).filterMap Message.ofLine? ∧
        ∃ before piece after, pieces = before ++ piece :: after ∧
          (split (joined before)).Fits limit ∧ ¬ (split (joined before ++ piece)).Fits limit ∧
          ms = (split (joined before)).lines.filterMap Message.ofLine?) := by
  intro pieces records
  rcases Reader.nexts_ofAnswers limit hlimit answers h with ⟨ms, e, r, hnexts, hends⟩
  refine ⟨ms, e, r, hnexts, ?_⟩
  have hall := hends.of_fits
  rw [Split.goOn_empty] at hall
  refine ⟨hall, fun hlong => ?_⟩
  cases hends with
  | closed r hfits =>
      rw [Split.goOn_empty] at hfits
      exact absurd hfits hlong
  | overflow o r before piece after hpieces hfits hlong hgiven hready =>
      simp only [Split.goOn_empty] at hfits hlong hgiven hready
      exact ⟨⟨o, rfl⟩, hready, before, piece, after, hpieces, hfits, hlong, hgiven⟩

/-- The line that is too long comes in one call with the message before it, and
    the answer is the refusal; the message waits. -/
theorem delivered_until_error_at_once :
    let answers : List ReadAnswer :=
      [.error (.plain .interrupted), .ok "ok\n01234\n".toUTF8]
    4 < wordBound ∧ Delivery answers ∧ ¬ (split (joined (piecesOf answers))).Fits 4 ∧
      ∃ ms o r, (Reader.ofAnswers 4 answers).nexts (ms.length + 1)
          = (ms.map .ok ++ [.error (.overflow o)], r) ∧
        (ms ++ r.ready).map Message.bytes = ["ok".toUTF8] := by
  intro answers
  have hlimit : 4 < wordBound := by decide
  have hdelivery : Delivery answers := by decide
  have hlong : ¬ (split (joined (piecesOf answers))).Fits 4 := by decide +kernel
  rcases delivered_until_error 4 hlimit answers hdelivery with ⟨ms, e, r, hnexts, _, hcut⟩
  rcases hcut hlong with ⟨⟨o, rfl⟩, hready, _⟩
  refine ⟨hlimit, hdelivery, hlong, ms, o, r, hnexts, ?_⟩
  rw [hready]
  decide +kernel

/-- One stream, delivered in one call and in two. With a limit of four bytes its
    second line is too long. The reader that gets both lines at once answers
    with the refusal and leaves the message behind it; the other one answers
    with the message first. -/
theorem delivery_changes_answers :
    let whole : List ReadAnswer := [.ok "ok\n01234\n".toUTF8]
    let cut : List ReadAnswer := [.ok "ok\n".toUTF8, .ok "01234\n".toUTF8]
    let given (answers : List ReadAnswer) (n : Nat) :=
      ((Reader.ofAnswers 4 answers).nexts n).1.map (Except.map Message.bytes)
    Delivery whole ∧ Delivery cut ∧ joined (piecesOf whole) = joined (piecesOf cut) ∧
      given whole 1 = [.error (.overflow ⟨0, 5, 4⟩)] ∧
      given cut 2 = [.ok "ok".toUTF8, .error (.overflow ⟨0, 5, 4⟩)] := by
  decide +kernel

end LineChat
