import LineChat.Proofs.Line.Requests

/-!
# Reading On After an Error

A reader that is asked again after an error has lost nothing.

The end of the stream and a fault are told to whoever asked, and then the reader
may be asked again. What it has given so far is accounted for by the read calls
that were made (`Stream.calls`), whatever they met: the messages are the records
of the bytes they gave, and the errors are their failures, one for one and in
order. An interrupted call is no failure (`lossOf?`). It is made again in the same
request, so nobody hears of it.

That the messages are the records was shown for the chunks of any stream, refused
ones included (`Reader.nexts_reads`). Here every record fits, and then the chunks
are the bytes of the calls, because the same bytes are left behind both. What is
new is the law of one request: it reads only if nothing waits, and a failure is
the last thing it meets. The induction is again on what is left of the stream, and
it carries that all bytes to come fit with the line that is held (`Roomy`), since a
refusal would be an error that no call has given.

## Main definitions

* `lossOf?`: The failure of a read call.
* `Stream.calls`: The first read calls on a stream.
* `Reader.Roomy`: No record to come is too long.
* `Reader.Asked`: What one request does.

## Theorems

* `unread_calls`: What the calls gave, and what is left.
* `next_asked`, `nexts_asked`: One request, and any number.
* `reading_goes_on_after_errors`: The law for every source.
-/

namespace LineChat

/-- The failure of a read call: no bytes are the end of the stream, and a fault is
    one unless the call was interrupted. -/
def lossOf? : ReadAnswer → Option LineError
  | .ok data => if data.size = 0 then some .closed else none
  | .error fault => if fault.kind = .interrupted then none else some (.io fault)

/-- The error with which a request was answered. -/
def errorOf? : Except LineError Message → Option LineError
  | .ok _ => none
  | .error e => some e

theorem lossOf?_interrupted {fault : Fault} (h : fault.kind = .interrupted) :
    lossOf? (.error fault) = none := if_pos h

theorem lossOf?_fault {fault : Fault} (h : fault.kind ≠ .interrupted) :
    lossOf? (.error fault) = some (.io fault) := if_neg h

theorem lossOf?_end {data : ByteArray} (h : data.size = 0) : lossOf? (.ok data) = some .closed :=
  if_pos h

theorem lossOf?_some {data : ByteArray} (h : data.size ≠ 0) : lossOf? (.ok data) = none :=
  if_neg h

theorem joined_piecesOf_cons (answer : ReadAnswer) (later : List ReadAnswer) :
    joined (piecesOf (answer :: later)) = bytesRead answer ++ joined (piecesOf later) := by
  cases answer with
  | error fault => exact ByteArray.empty_append.symm
  | ok data => rfl

namespace Stream

/-- The answers of the first `k` read calls, and the stream that is left. -/
def calls : Nat → Stream → List ReadAnswer × Stream
  | 0, s => ([], s)
  | k + 1, s =>
    let more := calls k (takeChunk readerChunk s).2
    ((takeChunk readerChunk s).1 :: more.1, more.2)

theorem calls_add (j k : Nat) (s : Stream) :
    calls (j + k) s = ((calls j s).1 ++ (calls k (calls j s).2).1, (calls k (calls j s).2).2) := by
  induction j generalizing s with
  | zero => rw [Nat.zero_add, calls, List.nil_append]
  | succ j ih =>
      rw [Nat.add_right_comm, calls, ih, calls]
      rfl

/-- The calls give the first of the bytes, and the others are left. -/
theorem unread_calls (k : Nat) (s : Stream) :
    s.unread = joined (piecesOf (calls k s).1) ++ (calls k s).2.unread := by
  induction k generalizing s with
  | zero => exact ByteArray.empty_append.symm
  | succ k ih =>
      rw [calls, joined_piecesOf_cons, ByteArray.append_assoc, ← ih, ← unread_takeChunk]

end Stream

namespace Reader

/-- No record is too long that the bytes to come make with the line that is held. -/
def Roomy (r : Reader) : Prop := (Split.goOn r.pending r.stream.unread).Fits r.framer.limit

/-- A request was answered after `k` read calls. It makes none if a message waits,
    it fails exactly if a call has failed, and then with that failure, and that
    call was the last one. Nothing waits behind a failure. -/
structure Asked (r : Reader) (answer : Except LineError Message) (k : Nat) (r' : Reader) :
    Prop where
  stream : r'.stream = (r.stream.calls k).2
  waits : r.ready ≠ [] → k = 0
  losses : (r.stream.calls k).1.filterMap lossOf? = (errorOf? answer).toList
  last : ∀ call ∈ (r.stream.calls k).1.dropLast, lossOf? call = none
  drained : ∀ e, answer = .error e → r'.ready = []

variable {r r' : Reader} {answer : Except LineError Message} {k : Nat}

-- A message that waits is given without a call.
theorem asked_of_ready (f : Framer) (m : Message) (ready : List Message) (s : Stream) :
    Asked ⟨f, m :: ready, s⟩ (.ok m) 0 ⟨f, ready, s⟩ := by
  refine ⟨rfl, fun _ => rfl, rfl, List.forall_mem_nil _, fun e h => ?_⟩
  cases h

-- A call that has failed is the only one.
theorem asked_of_loss (f : Framer) (s : Stream) {e : LineError}
    (h : lossOf? (takeChunk readerChunk s).1 = some e) :
    Asked ⟨f, [], s⟩ (.error e) 1 ⟨f, [], (takeChunk readerChunk s).2⟩ := by
  refine ⟨rfl, fun h => absurd rfl h, ?_, List.forall_mem_nil _, fun _ _ => rfl⟩
  change [(takeChunk readerChunk s).1].filterMap lossOf? = [e]
  rw [List.filterMap_cons, h, List.filterMap_nil]

-- A call that has not failed comes before the others of the request.
theorem Asked.after (h : r.Asked answer k r') (f : Framer) (s : Stream)
    (hstream : r.stream = (takeChunk readerChunk s).2)
    (hcall : lossOf? (takeChunk readerChunk s).1 = none) :
    Asked ⟨f, [], s⟩ answer (k + 1) r' := by
  have hstream' := h.stream
  have hlosses := h.losses
  have hlast := h.last
  rw [hstream] at hstream' hlosses hlast
  refine ⟨hstream', fun hready => absurd rfl hready, ?_, ?_, h.drained⟩
  · rw [Stream.calls, List.filterMap_cons, hcall]
    exact hlosses
  · rw [Stream.calls]
    intro call hmem
    cases hmore : (Stream.calls k (takeChunk readerChunk s).2).1 with
    | nil =>
        rw [hmore] at hmem
        cases hmem
    | cons answer later =>
        rw [hmore] at hmem hlast
        rcases List.mem_cons.mp hmem with rfl | hlater
        · exact hcall
        · exact hlast call hlater

/-- What requests take of bytes that fit leaves bytes that fit. -/
theorem Reads.joined_taken_roomy {answers : List (Except LineError Message)}
    {taken : List ByteArray} (h : r.Reads answers taken r') (hroomy : r.Roomy) :
    r.stream.unread = joined taken ++ r'.stream.unread ∧
      Split.keptAll r.framer.limit r.pending taken = joined taken ∧ r'.Roomy := by
  have hunread : r.stream.unread = joined taken ++ r'.stream.unread := by
    rw [← r.stream.joined_chunks, h.chunks, joined_append, r'.stream.joined_chunks]
  rw [Roomy, hunread] at hroomy
  have htaken := Split.fits_of_fits_goOn_append hroomy
  have hkept := (Split.keptAll_of_fits htaken).1
  refine ⟨hunread, hkept, ?_⟩
  rw [Roomy, h.pending, hkept, h.limit]
  exact (Split.fits_goOn_append htaken _).mp hroomy

/-- The framer takes a chunk of bytes that fit, and those after it fit with what
    it holds then. -/
theorem Roomy.fed {f : Framer} (hf : f.limit < wordBound) {ready ready' : List Message}
    {s s' : Stream} {data : ByteArray} (hroomy : Roomy ⟨f, ready, s⟩)
    (hunread : s.unread = data ++ s'.unread) :
    (f.feed data).refusal = none ∧ (f.feed data).framer.limit = f.limit ∧
      Roomy ⟨(f.feed data).framer, ready', s'⟩ := by
  have hall : (Split.goOn f.pending (data ++ s'.unread)).Fits f.limit := hunread ▸ hroomy
  have hfits := Split.fits_of_fits_goOn_append hall
  rcases f.feed_reads_kept hf data with ⟨_, hpending, hlimit, haccepted⟩
  rw [Split.kept_of_fits hfits] at hpending
  refine ⟨haccepted.mpr hfits, hlimit, ?_⟩
  rw [Roomy, pending, hpending, hlimit]
  exact (Split.fits_goOn_append hfits _).mp hall

/-- One request to a reader for which no record is too long. -/
theorem next_asked (r : Reader) (hr : r.framer.limit < wordBound) (hroomy : r.Roomy) :
    ∃ k, r.Asked r.next.1 k r.next.2 := by
  -- As for `next_reads`, every call leaves less of the stream.
  induction hleft : r.stream.left using Nat.strong_induction_on generalizing r with
  | _ left ih =>
    rcases r with ⟨f, ready, s⟩
    cases ready with
    | cons m ready =>
        rw [next_of_ready]
        exact ⟨0, asked_of_ready f m ready s⟩
    | nil =>
        by_cases hs : s.answers = []
        · rcases s with ⟨answers, taken⟩
          rw [show answers = [] from hs, next_of_end]
          exact ⟨1, asked_of_loss f ⟨[], taken⟩ (lossOf?_end rfl)⟩
        · have hlt := left_takeChunk_lt (show 0 < readerChunk by decide) hs
          have hunread := s.unread_takeChunk readerChunk
          rw [next_of_call rfl hs]
          cases hcall : (takeChunk readerChunk s).1 with
          | error fault =>
              by_cases hagain : fault.kind = .interrupted
              · rw [hcall, show bytesRead (.error fault) = ByteArray.empty from rfl,
                  ByteArray.empty_append] at hunread
                have hroomy' : Roomy ⟨f, [], (takeChunk readerChunk s).2⟩ := by
                  rw [Roomy, ← hunread]
                  exact hroomy
                rcases ih _ (hleft ▸ hlt) ⟨f, [], (takeChunk readerChunk s).2⟩ hr hroomy' rfl with
                  ⟨k, hasked⟩
                simp only [if_pos hagain]
                exact ⟨k + 1, hasked.after f s rfl (hcall ▸ lossOf?_interrupted hagain)⟩
              · simp only [if_neg hagain]
                exact ⟨1, asked_of_loss f s (hcall ▸ lossOf?_fault hagain)⟩
          | ok data =>
              by_cases hnone : data.size = 0
              · simp only [if_pos hnone]
                exact ⟨1, asked_of_loss f s (hcall ▸ lossOf?_end hnone)⟩
              · rw [hcall, show bytesRead (.ok data) = data from rfl] at hunread
                rcases hroomy.fed hr hunread with ⟨haccepted, hlimit, hroomy'⟩
                rcases ih _ (hleft ▸ hlt) ⟨(f.feed data).framer, (f.feed data).messages.toList,
                  (takeChunk readerChunk s).2⟩ (hlimit.trans_lt hr) hroomy' rfl with ⟨k, hasked⟩
                simp only [if_neg hnone, haccepted]
                exact ⟨k + 1, hasked.after f s rfl (hcall ▸ lossOf?_some hnone)⟩

/-- Any number of requests: what they were told is what the calls have failed with. -/
theorem nexts_asked (n : Nat) (r : Reader) (hr : r.framer.limit < wordBound) (hroomy : r.Roomy) :
    ∃ k, (nexts n r).2.stream = (r.stream.calls k).2 ∧
      (nexts n r).1.filterMap errorOf? = (r.stream.calls k).1.filterMap lossOf? := by
  induction n generalizing r with
  | zero => exact ⟨0, rfl, rfl⟩
  | succ n ih =>
      rcases r.next_reads hr with ⟨taken, hreads⟩
      rcases r.next_asked hr hroomy with ⟨k, hasked⟩
      rcases ih r.next.2 (hreads.limit.trans_lt hr) (hreads.joined_taken_roomy hroomy).2.2 with
        ⟨k', hstream, hlosses⟩
      rw [hasked.stream] at hstream hlosses
      refine ⟨k + k', ?_, ?_⟩
      · rw [nexts, Stream.calls_add, hstream]
      · rw [nexts, Stream.calls_add, List.filterMap_append, hasked.losses, ← hlosses]
        cases r.next.1 <;> rfl

/-- At the start no record of the source is too long, if none is at all. -/
theorem roomy_ofAnswers {limit : Nat} {answers : List ReadAnswer}
    (h : (split (joined (piecesOf answers))).Fits limit) : (ofAnswers limit answers).Roomy := by
  change (Split.goOn Line.empty (Stream.unread ⟨answers, 0⟩)).Fits limit
  rw [Stream.unread_fresh, Split.goOn_empty]
  exact h

end Reader

/-- No failure of a call is an interruption. -/
theorem kind_of_lossOf? {call : ReadAnswer} {fault : Fault} (h : lossOf? call = some (.io fault)) :
    fault.kind ≠ .interrupted := by
  cases call with
  | ok data =>
      by_cases hnone : data.size = 0
      · rw [lossOf?_end hnone] at h
        cases h
      · rw [lossOf?_some hnone] at h
        cases h
  | error met =>
      by_cases hagain : met.kind = .interrupted
      · rw [lossOf?_interrupted hagain] at h
        cases h
      · rw [lossOf?_fault hagain] at h
        cases h
        exact hagain

/-- A source without a record or a last line that is too long, read in any number
    of requests that go on after every error. The requests have made the first
    `k` calls: what they gave and what waits are the messages of the bytes of these
    calls, what is held is the last line of these bytes, and the errors are the
    failures of these calls. None of them is an interruption, and what the next
    request does, `Reader.Asked` says. -/
theorem reading_goes_on_after_errors (limit : Nat) (hlimit : limit < wordBound)
    (answers : List ReadAnswer) (hfits : (split (joined (piecesOf answers))).Fits limit)
    (n : Nat) :
    let run := (Reader.ofAnswers limit answers).nexts n
    ∃ k, let calls := Stream.calls k ⟨answers, 0⟩
      let read := split (joined (piecesOf calls.1))
      run.2.stream = calls.2 ∧
      run.1.filterMap Except.toOption ++ run.2.ready = messagesOf read.lines ∧
      run.2.pending = read.rest ∧
      run.1.filterMap errorOf? = calls.1.filterMap lossOf? ∧
      (∀ fault, .error (.io fault) ∈ run.1 → fault.kind ≠ .interrupted) ∧
      ∃ k', run.2.Asked run.2.next.1 k' run.2.next.2 := by
  intro run
  have hroomy := Reader.roomy_ofAnswers hfits
  rcases Reader.nexts_reads n (Reader.ofAnswers limit answers) hlimit with ⟨taken, hreads⟩
  rcases Reader.nexts_asked n (Reader.ofAnswers limit answers) hlimit hroomy with
    ⟨k, hstream, hlosses⟩
  rcases hreads.joined_taken_roomy hroomy with ⟨hunread, hkept, hroomy'⟩
  -- The same is left behind the chunks and behind the calls, so both gave the same.
  have htaken : joined taken = joined (piecesOf (Stream.calls k ⟨answers, 0⟩).1) := by
    have hcalls := Stream.unread_calls k ⟨answers, 0⟩
    rw [← show run.2.stream = (Stream.calls k ⟨answers, 0⟩).2 from hstream] at hcalls
    exact (ByteArray.append_left_inj _).mp (hunread.symm.trans hcalls)
  have hmessages := hreads.messages
  have hpending := hreads.pending
  rw [hkept, htaken] at hmessages hpending
  refine ⟨k, hstream, ?_, ?_, hlosses, fun fault hmem => ?_,
    run.2.next_asked (hreads.limit.trans_lt hlimit) hroomy'⟩
  · rw [← Split.goOn_empty]
    exact hmessages.symm
  · rw [← Split.goOn_empty]
    exact hpending
  · have hloss : LineError.io fault ∈ run.1.filterMap errorOf? :=
      List.mem_filterMap.mpr ⟨.error (.io fault), hmem, rfl⟩
    rw [show run.1.filterMap errorOf? = _ from hlosses] at hloss
    rcases List.mem_filterMap.mp hloss with ⟨call, _, hcall⟩
    exact kind_of_lossOf? hcall

/-- The first line of a source is cut by an interrupted call, by a fault and by the
    end of the stream. It is given whole when its end comes, and the interruption
    is not heard of. -/
theorem reading_goes_on_after_errors_in_record :
    let answers : List ReadAnswer :=
      [.ok "ab".toUTF8, .error (.errno 4), .error (.errno 5), .ok ByteArray.empty,
        .ok "c\nd\n".toUTF8]
    let run := (Reader.ofAnswers 8 answers).nexts 4
    8 < wordBound ∧ (split (joined (piecesOf answers))).Fits 8 ∧
      run.1.map (Except.map Message.bytes)
        = [.error (.io (.errno 5)), .error .closed, .ok "abc".toUTF8, .ok "d".toUTF8] ∧
      ∃ k, run.2.stream = (Stream.calls k ⟨answers, 0⟩).2 ∧
        run.1.filterMap errorOf? = (Stream.calls k ⟨answers, 0⟩).1.filterMap lossOf? := by
  intro answers run
  have hlimit : 8 < wordBound := by decide
  have hfits : (split (joined (piecesOf answers))).Fits 8 := by decide +kernel
  rcases reading_goes_on_after_errors 8 hlimit answers hfits 4 with
    ⟨k, hstream, _, _, hlosses, _⟩
  exact ⟨hlimit, hfits, by decide +kernel, k, hstream, hlosses⟩

end LineChat
