import LineChat.Proofs.Line.Resuming

/-!
# Requests Beyond an Error

What a reader gives when it is asked again after an error.

A stream of answers comes down to the chunks that its read calls give, and any
number of requests uses up the first of them. `Reader.Reads` says what requests
made of these chunks, and it composes, so a statement about any number of them
is one about a single one (`next_reads`). A fault, the end of the stream and a
message that has waited take no chunk. A chunk that is refused takes part like
any other, with what the framer keeps of it. So the answers to all requests are
accounted for by one stream, that of the chunks without what was dropped.

A reader that is in step gives nothing but records of its source, and a reader
that never refused anything is in step. After a refusal it need not be: the rest
of the chunk is gone, but the record goes on in the next one.

## Main definitions

* `Stream.chunks`: What the read calls on a stream give.
* `Stream.unread`: The bytes that are still to be read.
* `Reader.Reads`: What requests made of the chunks they took.

## Theorems

* `joined_chunks`: The chunks are the bytes of the stream.
* `next_reads`, `nexts_reads`: One request, and any number.
* `given_records_in_step`: What a reader gives, beyond errors too.
* `refusal_leaves_reader_inside_record`: Messages that are no records.
-/

namespace LineChat

/-- The bytes that a read call gave. -/
def bytesRead (answer : ReadAnswer) : ByteArray := answer.toOption.getD ByteArray.empty

namespace Stream

/-- The bytes that are still to be read. -/
def unread : Stream → ByteArray
  | ⟨[], _⟩ => ByteArray.empty
  | ⟨.error _ :: later, _⟩ => joined (piecesOf later)
  | ⟨.ok data :: later, taken⟩ => data.extract taken data.size ++ joined (piecesOf later)

/-- What the read calls on a stream give, without the empty answers. -/
def chunks (s : Stream) : List ByteArray :=
  if hs : s.answers = [] then []
  else
    have : (takeChunk readerChunk s).2.left < s.left := left_takeChunk_lt (by decide) hs
    let data := bytesRead (takeChunk readerChunk s).1
    if data.size = 0 then chunks (takeChunk readerChunk s).2
    else data :: chunks (takeChunk readerChunk s).2
termination_by s.left

theorem chunks_of_call {s : Stream} (hs : s.answers ≠ []) :
    s.chunks = if (bytesRead (takeChunk readerChunk s).1).size = 0
      then (takeChunk readerChunk s).2.chunks
      else bytesRead (takeChunk readerChunk s).1 :: (takeChunk readerChunk s).2.chunks := by
  rw [chunks, dif_neg hs]

theorem unread_fresh (answers : List ReadAnswer) :
    unread ⟨answers, 0⟩ = joined (piecesOf answers) := by
  cases answers with
  | nil => rfl
  | cons answer later =>
      cases answer with
      | error fault => rfl
      | ok data =>
          rw [unread, ByteArray.extract_zero_size]
          rfl

-- A call gives the first of the bytes, and they are gone then.
theorem unread_takeChunk (n : Nat) (s : Stream) :
    s.unread = bytesRead (takeChunk n s).1 ++ (takeChunk n s).2.unread := by
  rcases s with ⟨answers, taken⟩
  cases answers with
  | nil => exact ByteArray.empty_append.symm
  | cons answer later =>
      cases answer with
      | error fault =>
          rw [takeChunk, unread_fresh]
          exact ByteArray.empty_append.symm
      | ok data =>
          rw [takeChunk]
          by_cases hlast : data.size ≤ taken + n
          · rw [if_pos hlast, unread_fresh]
            rfl
          · rw [if_neg hlast]
            have hcut : data.extract taken (taken + n) ++ data.extract (taken + n) data.size
                = data.extract taken data.size :=
              extract_append_extract_of_le (Nat.le_add_right taken n) (by omega)
            simp only [unread, bytesRead, Except.toOption, Option.getD_some]
            rw [← hcut, ByteArray.append_assoc]

/-- The chunks are the bytes of the stream. -/
theorem joined_chunks (s : Stream) : joined s.chunks = s.unread := by
  induction s using chunks.induct with
  | case1 s hs =>
      rcases s with ⟨answers, taken⟩
      rw [chunks, dif_pos hs]
      cases hs
      rfl
  | case2 s hs hlt data hnone ih =>
      have hempty : bytesRead (takeChunk readerChunk s).1 = ByteArray.empty :=
        ByteArray.size_eq_zero_iff.mp hnone
      rw [chunks_of_call hs, if_pos hnone, ih, s.unread_takeChunk readerChunk, hempty,
        ByteArray.empty_append]
  | case3 s hs hlt data hsome ih =>
      rw [chunks_of_call hs, if_neg hsome, joined_cons, ih, ← s.unread_takeChunk readerChunk]

end Stream

namespace Reader

/-- Requests to a reader were answered, which took chunks of its stream: the
    messages that had waited and those of what was kept of the chunks were given
    or wait, and unless a request was refused the chunks fit. -/
structure Reads (r : Reader) (answers : List (Except LineError Message))
    (taken : List ByteArray) (r' : Reader) : Prop where
  chunks : r.stream.chunks = taken ++ r'.stream.chunks
  messages : r.ready
      ++ messagesOf (Split.goOn r.pending (Split.keptAll r.framer.limit r.pending taken)).lines
    = answers.filterMap Except.toOption ++ r'.ready
  pending : r'.pending
    = (Split.goOn r.pending (Split.keptAll r.framer.limit r.pending taken)).rest
  limit : r'.framer.limit = r.framer.limit
  accepted : (∀ o, .error (.overflow o) ∉ answers) →
    (Split.goOn r.pending (joined taken)).Fits r.framer.limit

theorem Reads.trans {r r' r'' : Reader} {answers answers' : List (Except LineError Message)}
    {taken taken' : List ByteArray} (h : r.Reads answers taken r')
    (h' : r'.Reads answers' taken' r'') : r.Reads (answers ++ answers') (taken ++ taken') r'' := by
  have hmessages := h'.messages
  have hpending := h'.pending
  rw [h.limit] at hmessages hpending
  refine ⟨?_, ?_, ?_, h'.limit.trans h.limit, fun hnone => ?_⟩
  · rw [h.chunks, h'.chunks, List.append_assoc]
  · rw [Split.keptAll_append, ← h.pending, Split.lines_goOn_append, ← h.pending,
      messagesOf_append, ← List.append_assoc, h.messages, List.append_assoc, hmessages,
      List.filterMap_append, List.append_assoc]
  · rw [Split.keptAll_append, ← h.pending, Split.rest_goOn_append, ← h.pending, hpending]
  · have hfits := h.accepted fun o ho => hnone o (List.mem_append_left _ ho)
    have hfits' := h'.accepted fun o ho => hnone o (List.mem_append_right _ ho)
    rw [h.limit, h.pending, (Split.keptAll_of_fits hfits).1] at hfits'
    rw [joined_append, Split.fits_goOn_append hfits]
    exact hfits'

-- Nothing was read: what has waited is given or waits.
theorem reads_nothing (f : Framer) {ready ready' : List Message} {s s' : Stream}
    {answers : List (Except LineError Message)} (hchunks : s.chunks = s'.chunks)
    (hmessages : ready = answers.filterMap Except.toOption ++ ready') :
    Reads ⟨f, ready, s⟩ answers [] ⟨f, ready', s'⟩ := by
  refine ⟨hchunks, ?_, ?_, rfl, fun _ => ?_⟩
  · rw [Split.keptAll, Split.goOn_nothing, hmessages]
    exact List.append_nil _
  · rw [Split.keptAll, Split.goOn_nothing]
    rfl
  · rw [joined, List.foldr_nil, Split.goOn_nothing, Split.fits_nil_iff]
    exact f.held.fits

-- A chunk was fed to the framer, and its messages were given or wait.
theorem reads_chunk (f : Framer) (hf : f.limit < wordBound) {data : ByteArray} {s s' : Stream}
    {ready : List Message} {answers : List (Except LineError Message)}
    (hchunks : s.chunks = data :: s'.chunks)
    (hmessages : (f.feed data).messages.toList = answers.filterMap Except.toOption ++ ready)
    (hrefusal : (∀ o, .error (.overflow o) ∉ answers) → (f.feed data).refusal = none) :
    Reads ⟨f, [], s⟩ answers [data] ⟨(f.feed data).framer, ready, s'⟩ := by
  rcases f.feed_reads_kept hf data with ⟨hkept, hpending, hlimit, haccepted⟩
  refine ⟨hchunks, ?_, ?_, hlimit, fun hnone => ?_⟩
  · rw [← hmessages, hkept, Split.keptAll, Split.keptAll, ByteArray.append_empty]
    rfl
  · rw [Split.keptAll, Split.keptAll, ByteArray.append_empty]
    exact hpending
  · rw [joined_cons, joined, List.foldr_nil, ByteArray.append_empty]
    exact haccepted.mp (hrefusal hnone)

-- The first call for a reader that nothing waits for.
theorem next_of_call {r : Reader} (hready : r.ready = []) (hs : r.stream.answers ≠ []) :
    r.next = match (takeChunk readerChunk r.stream).1 with
      | .error fault =>
        if fault.kind = .interrupted then
          next { r with stream := (takeChunk readerChunk r.stream).2 }
        else (.error (.io fault), { r with stream := (takeChunk readerChunk r.stream).2 })
      | .ok data =>
        if data.size = 0 then
          (.error .closed, { r with stream := (takeChunk readerChunk r.stream).2 })
        else
          match (r.framer.feed data).refusal with
          | some o => (.error (.overflow o), ⟨(r.framer.feed data).framer,
              (r.framer.feed data).messages.toList, (takeChunk readerChunk r.stream).2⟩)
          | none => next ⟨(r.framer.feed data).framer, (r.framer.feed data).messages.toList,
              (takeChunk readerChunk r.stream).2⟩ := by
  rw [next, hready]
  simp only [dif_neg hs]
  cases (takeChunk readerChunk r.stream).1 with
  | error fault => rfl
  | ok data =>
      by_cases hnone : data.size = 0
      · simp only [if_pos hnone]
      · simp only [if_neg hnone]
        cases (r.framer.feed data).refusal with
        | some o => rfl
        | none =>
            cases (r.framer.feed data).messages.toList with
            | nil => rfl
            | cons m ready => rw [next_of_ready]

/-- One request, whatever it meets on its way. -/
theorem next_reads (r : Reader) (hr : r.framer.limit < wordBound) :
    ∃ taken, r.Reads [r.next.1] taken r.next.2 := by
  -- Every call leaves less of the stream, also one after which it is read on.
  induction hleft : r.stream.left using Nat.strong_induction_on generalizing r with
  | _ left ih =>
    rcases r with ⟨f, ready, s⟩
    cases ready with
    | cons m ready =>
        rw [next_of_ready]
        exact ⟨[], reads_nothing f rfl rfl⟩
    | nil =>
        by_cases hs : s.answers = []
        · rcases s with ⟨answers, taken⟩
          rw [show answers = [] from hs, next_of_end]
          exact ⟨[], reads_nothing f rfl rfl⟩
        · have hlt := left_takeChunk_lt (show 0 < readerChunk by decide) hs
          have hchunks := Stream.chunks_of_call hs
          rw [next_of_call rfl hs]
          cases hcall : (takeChunk readerChunk s).1 with
          | error fault =>
              rw [hcall, if_pos (show (bytesRead (.error fault)).size = 0 from rfl)] at hchunks
              by_cases hagain : fault.kind = .interrupted
              · rcases ih _ (hleft ▸ hlt) ⟨f, [], (takeChunk readerChunk s).2⟩ hr rfl with
                  ⟨taken, hreads⟩
                have hnothing : Reads ⟨f, [], s⟩ [] [] ⟨f, [], (takeChunk readerChunk s).2⟩ :=
                  reads_nothing f hchunks rfl
                simp only [if_pos hagain]
                exact ⟨[] ++ taken, hnothing.trans hreads⟩
              · simp only [if_neg hagain]
                exact ⟨[], reads_nothing f hchunks rfl⟩
          | ok data =>
              rw [hcall, show bytesRead (.ok data) = data from rfl] at hchunks
              by_cases hnone : data.size = 0
              · rw [if_pos hnone] at hchunks
                simp only [if_pos hnone]
                exact ⟨[], reads_nothing f hchunks rfl⟩
              · rw [if_neg hnone] at hchunks
                simp only [if_neg hnone]
                cases hrefusal : (f.feed data).refusal with
                | some o =>
                    refine ⟨[data], reads_chunk f hr hchunks rfl fun hno => ?_⟩
                    exact absurd List.mem_cons_self (hno o)
                | none =>
                    -- The messages of the chunk wait, and the first of them is asked for.
                    have hchunk : Reads ⟨f, [], s⟩ [] [data] ⟨(f.feed data).framer,
                        (f.feed data).messages.toList, (takeChunk readerChunk s).2⟩ :=
                      reads_chunk f hr hchunks rfl fun _ => hrefusal
                    rcases ih _ (hleft ▸ hlt) ⟨(f.feed data).framer, (f.feed data).messages.toList,
                      (takeChunk readerChunk s).2⟩ (hchunk.limit.trans_lt hr) rfl with
                      ⟨taken, hreads⟩
                    exact ⟨[data] ++ taken, hchunk.trans hreads⟩

/-- Any number of requests, beyond the errors they meet. -/
theorem nexts_reads (n : Nat) (r : Reader) (hr : r.framer.limit < wordBound) :
    ∃ taken, r.Reads (nexts n r).1 taken (nexts n r).2 := by
  induction n generalizing r with
  | zero => exact ⟨[], reads_nothing r.framer rfl rfl⟩
  | succ n ih =>
      rcases r.next_reads hr with ⟨taken, hfirst⟩
      rcases ih r.next.2 (hfirst.limit.trans_lt hr) with ⟨taken', hmore⟩
      rw [nexts]
      exact ⟨taken ++ taken', hfirst.trans hmore⟩

end Reader

/-- Whatever a reader is given and however often it is asked, also after errors,
    the messages it has given and those that wait are the records of the chunks
    it has read without what was dropped of them, and it holds the unended line
    of these. As long as it is in step, they are records of its source, in order
    and each once. It is in step as long as no request was refused. -/
theorem given_records_in_step (limit : Nat) (hlimit : limit < wordBound)
    (answers : List ReadAnswer) (n : Nat) :
    let run := (Reader.ofAnswers limit answers).nexts n
    let source : Stream := ⟨answers, 0⟩
    joined source.chunks = joined (piecesOf answers) ∧
    ∃ taken later, source.chunks = taken ++ later ∧
      let kept := split (Split.keptAll limit Line.empty taken)
      run.1.filterMap Except.toOption ++ run.2.ready = messagesOf kept.lines ∧
      run.2.pending = kept.rest ∧
      (Split.InStep limit Line.empty taken →
        (run.1.filterMap Except.toOption).Sublist
          (messagesOf (split (joined (piecesOf answers))).lines)) ∧
      ((∀ o, .error (.overflow o) ∉ run.1) → Split.InStep limit Line.empty taken) := by
  intro run source
  have hsource : joined source.chunks = joined (piecesOf answers) :=
    source.joined_chunks.trans (Stream.unread_fresh answers)
  rcases Reader.nexts_reads n (Reader.ofAnswers limit answers) hlimit with ⟨taken, hreads⟩
  have hmessages := hreads.messages
  have hpending := hreads.pending
  change [] ++ messagesOf (Split.goOn Line.empty (Split.keptAll limit Line.empty taken)).lines
    = run.1.filterMap Except.toOption ++ run.2.ready at hmessages
  change run.2.pending
    = (Split.goOn Line.empty (Split.keptAll limit Line.empty taken)).rest at hpending
  rw [Split.goOn_empty] at hmessages hpending
  refine ⟨hsource, taken, run.2.stream.chunks, hreads.chunks, hmessages.symm, hpending,
    fun hstep => ?_, fun hnone => ?_⟩
  · have hlines := hstep.lines_sublist.1
    rw [Split.goOn_empty, Split.goOn_empty] at hlines
    -- What was taken is the beginning of the source, and its lines are the first ones.
    have hall : (split (joined taken)).lines.Sublist
        (split (joined (piecesOf answers))).lines := by
      have hchunks : source.chunks = taken ++ run.2.stream.chunks := hreads.chunks
      rw [← hsource, hchunks, joined_append, split_append, Split.lines_append]
      exact List.sublist_append_left _ _
    have hgiven : (run.1.filterMap Except.toOption).Sublist
        (messagesOf (split (Split.keptAll limit Line.empty taken)).lines) := by
      rw [← List.nil_append (messagesOf _), hmessages]
      exact List.sublist_append_left _ _
    exact hgiven.trans ((hlines.trans hall).filterMap _)
  · exact (Split.keptAll_of_fits (hreads.accepted hnone)).2

/-- A line is refused that came in one answer, so it is gone as a whole and the
    line after it is given as it was sent. -/
theorem given_records_in_step_whole_line :
    let answers : List ReadAnswer :=
      [.ok "ok\n".toUTF8, .ok "01234\n".toUTF8, .ok "yes\n".toUTF8]
    let run := (Reader.ofAnswers 4 answers).nexts 3
    4 < wordBound ∧ run.1.map (Except.map Message.bytes)
        = [.ok "ok".toUTF8, .error (.overflow ⟨0, 5, 4⟩), .ok "yes".toUTF8] ∧
      (run.1.filterMap Except.toOption).Sublist
        (messagesOf (split (joined (piecesOf answers))).lines) := by
  intro answers run
  have hlimit : 4 < wordBound := by decide
  have hstep : Split.InStep 4 Line.empty (Stream.chunks ⟨answers, 0⟩) := by decide +kernel
  rcases given_records_in_step 4 hlimit answers 3 with
    ⟨_, taken, later, hchunks, _, _, hrecords, _⟩
  rw [hchunks] at hstep
  exact ⟨hlimit, by decide +kernel, hrecords (Split.inStep_of_append hstep)⟩

/-- Two sources with a limit of four bytes. The first is a single record of
    eight bytes: what comes after the refusal is given as a message, though it
    is the end of that record. In the second, the beginning of the record that
    was refused is put before the next one. -/
theorem refusal_leaves_reader_inside_record :
    let long : List ReadAnswer := [.ok "012345".toUTF8, .ok "67\n".toUTF8]
    let glued : List ReadAnswer := [.ok "ab".toUTF8, .ok "cdefg\n".toUTF8, .ok "x\n".toUTF8]
    let given (answers : List ReadAnswer) :=
      ((Reader.ofAnswers 4 answers).nexts 2).1.map (Except.map Message.bytes)
    let records (answers : List ReadAnswer) :=
      (messagesOf (split (joined (piecesOf answers))).lines).map Message.bytes
    given long = [.error (.overflow ⟨0, 6, 4⟩), .ok "67".toUTF8] ∧
      records long = ["01234567".toUTF8] ∧
      given glued = [.error (.overflow ⟨2, 5, 4⟩), .ok "abx".toUTF8] ∧
      records glued = ["abcdefg".toUTF8, "x".toUTF8] := by
  decide +kernel

end LineChat
