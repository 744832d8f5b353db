import LineChat.Proofs.Line.Records

/-!
# Framing Does Not See the Cuts

A framer that is fed a stream in pieces finds the records of the stream,
whatever the pieces are.

The invariant is about what the framer holds: after pieces that fit, it holds
the unended line of the stream so far, and the messages it has given are those
of the ended lines. `Fed.Reads` is that invariant together with what a refusal
leaves behind, and it is the whole of what a feed does: `reads_feedLines` proves
it for one piece by walking along the lines of the piece, and `reads_feedAll`
for any pieces, by going on from the stream that has been read so far.

There are two ways to complete a record, one for a line that arrives whole and
one that joins it to what is held, with a check of the limit each.
`complete_cases` says that they are one: only the joined line counts.

Sizes are those of a 64-bit machine, so a limit is below `wordBound`. Past it
the sum of two sizes could leave the word before it reaches the limit.

## Main definitions

* `Fed.Reads`: A feed has read a stream.

## Theorems

* `hold_cases`, `complete_cases`: A line is taken or refused.
* `reads_feedLines`: One piece, from what is held.
* `reads_feedInto`: One piece, from the stream so far.
* `reads_feedAll`: Any pieces, from the stream so far.
* `size_le_of_mem_feed`: No message is longer than the limit.
* `feedAll_eq_records`: Pieces of a stream give its records, and so does the
  stream at once.
-/

namespace LineChat

/-- A feed that began with the messages `before` has read the stream `s`: the
    messages of the lines within the limit came behind, and unless a line was
    too long the unended one is held. -/
structure Fed.Reads (fed : Fed) (limit : Nat) (before : List Message) (s : Split) : Prop where
  messages : fed.messages.toList = before ++ messagesOf (s.within limit)
  accepted : fed.refusal = none ↔ s.Fits limit
  pending : fed.refusal = none → fed.framer.pending = s.rest
  limit : fed.framer.limit = limit

theorem messagesOf_append (a b : List Line) :
    messagesOf (a ++ b) = messagesOf a ++ messagesOf b := by
  unfold messagesOf
  exact List.filterMap_append

-- Nothing was read, so there are no messages.
theorem messagesOf_split_empty (limit : Nat) :
    messagesOf ((split ByteArray.empty).within limit) = [] := by
  rw [split_empty]
  rfl

namespace Framer

theorem hold_cases (f : Framer) (hf : f.limit < wordBound) (l : Line) :
    (f.limit < (f.pending.append l).size ∧
        f.hold l = .error ⟨f.pending.size, l.size, f.limit⟩) ∨
      ((f.pending.append l).size ≤ f.limit ∧
        ∃ f', f.hold l = .ok f' ∧ f'.pending = f.pending.append l ∧ f'.limit = f.limit) := by
  have hsize : (f.pending.append l).size = f.held.size + l.bytes.size := Line.size_append _ _
  have hlim : f.limit = f.held.limit := rfl
  rcases f.held.append_cases l.bytes with ⟨hfull, herr⟩ | ⟨hroom, b', hok, hbytes, hlimit⟩
  · left
    -- A sum that leaves the word is past the limit as well.
    refine ⟨by omega, ?_⟩
    unfold hold
    split
    · rename_i o ho
      rw [herr, Except.error.injEq] at ho
      rw [← ho]
      rfl
    · rename_i b hb
      rw [herr] at hb
      exact absurd hb (by simp only [reduceCtorEq, not_false_eq_true])
  · right
    refine ⟨by omega, ?_⟩
    cases hhold : f.hold l with
    | error o =>
        unfold hold at hhold
        split at hhold
        · rename_i o' ho
          rw [hok] at ho
          exact absurd ho (by simp only [reduceCtorEq, not_false_eq_true])
        · exact absurd hhold (by simp only [reduceCtorEq, not_false_eq_true])
    | ok f' =>
        refine ⟨f', rfl, ?_, limit_hold hhold⟩
        unfold hold at hhold
        split at hhold
        · exact absurd hhold (by simp only [reduceCtorEq, not_false_eq_true])
        · rename_i b hb
          rw [Except.ok.injEq] at hhold
          rw [← hhold]
          exact Line.ext (Buffer.bytes_of_append hb).1

theorem pending_reset (f : Framer) : f.reset.pending = Line.empty := rfl

theorem limit_feedLines (f : Framer) (ls : List Line) (rest : Line) (out : Array Message) :
    (f.feedLines ls rest out).framer.limit = f.limit := by
  induction ls generalizing f out with
  | nil =>
      rw [feedLines]
      cases hhold : f.hold rest with
      | error o => rfl
      | ok f' => exact limit_hold hhold
  | cons l ls ih =>
      rw [feedLines]
      cases hcomplete : f.complete l with
      | error o => rfl
      | ok done =>
          rcases done with ⟨f', m⟩
          have hlimit := limit_complete hcomplete
          cases m with
          | none => exact (ih f' out).trans hlimit
          | some m => exact (ih f' (out.push m)).trans hlimit

theorem pending_of_isEmpty {f : Framer} (h : f.held.isEmpty = true) : f.pending = Line.empty := by
  apply Line.ext
  have hsize : f.held.bytes.size = 0 := by simpa [Buffer.isEmpty, Buffer.size] using h
  exact ByteArray.size_eq_zero_iff.mp hsize

-- A record is what was held and the line that ends it. The line that arrives
-- whole meets its own check of the limit, and that check agrees with the one of
-- the buffer because nothing is held.
theorem complete_cases (f : Framer) (hf : f.limit < wordBound) (l : Line) :
    (f.limit < (f.pending.append l).size ∧
        f.complete l = .error ⟨f.pending.size, l.size, f.limit⟩) ∨
      ((f.pending.append l).size ≤ f.limit ∧
        ∃ f', f.complete l = .ok (f', Message.ofLine? (f.pending.append l)) ∧
          f'.pending = Line.empty ∧ f'.limit = f.limit) := by
  by_cases hempty : f.held.isEmpty = true
  · have hpending := pending_of_isEmpty hempty
    rw [hpending, Line.empty_append]
    unfold complete
    rw [if_pos hempty]
    by_cases hlong : f.limit < l.size
    · left
      refine ⟨hlong, ?_⟩
      rw [if_pos hlong, Line.size_empty]
    · right
      refine ⟨by omega, f, ?_, hpending, rfl⟩
      rw [if_neg hlong]
  · unfold complete
    rw [if_neg hempty]
    rcases f.hold_cases hf l with ⟨hlong, herr⟩ | ⟨hle, f', hok, hpend, hlimit⟩
    · left
      refine ⟨hlong, ?_⟩
      rw [herr]
    · right
      refine ⟨hle, f'.reset, ?_, pending_reset f', hlimit⟩
      rw [hok, ← hpend]

-- One piece, taken apart, goes on from the line that is held. The induction is
-- on the lines of the piece, and nothing is held after the first of them.
theorem reads_feedLines (ls : List Line) (rest : Line) (f : Framer) (hf : f.limit < wordBound)
    (out : Array Message) : (f.feedLines ls rest out).Reads f.limit out.toList
      (Split.append ⟨[], f.pending⟩ ⟨ls, rest⟩) := by
  induction ls generalizing f out with
  | nil =>
      have hshape : Split.append ⟨[], f.pending⟩ ⟨[], rest⟩ = ⟨[], f.pending.append rest⟩ := rfl
      rw [hshape, feedLines]
      rcases f.hold_cases hf rest with ⟨hlong, herr⟩ | ⟨hle, f', hok, hpend, hlimit⟩
      · rw [herr]
        refine ⟨by simp [messagesOf], ?_, ?_, rfl⟩
        · rw [Split.fits_nil_iff]
          exact ⟨fun h => (by cases h), fun h => (by omega)⟩
        · intro h
          cases h
      · rw [hok]
        refine ⟨by simp [messagesOf], ?_, fun _ => hpend, hlimit⟩
        rw [Split.fits_nil_iff]
        exact ⟨fun _ => hle, fun _ => rfl⟩
  | cons l ls ih =>
      have hshape : Split.append ⟨[], f.pending⟩ ⟨l :: ls, rest⟩
          = ⟨f.pending.append l :: ls, rest⟩ := rfl
      rw [hshape, feedLines]
      rcases f.complete_cases hf l with ⟨hlong, herr⟩ | ⟨hle, f', hok, hpend, hlimit⟩
      · -- The first line is too long, and none is read.
        rw [herr]
        refine ⟨?_, ?_, ?_, rfl⟩
        · rw [Split.within_cons_of_lt hlong]
          simp [messagesOf]
        · rw [Split.fits_cons_iff]
          exact ⟨fun h => (by cases h), fun h => (by omega)⟩
        · intro h
          cases h
      · -- The lines behind the first are those of a piece that nothing is held for.
        have hrest : Split.append ⟨[], f'.pending⟩ ⟨ls, rest⟩ = ⟨ls, rest⟩ := by
          rw [hpend, Split.empty_append]
        have hgo := fun out' => ih f' (by omega) out'
        rw [hrest, hlimit] at hgo
        rw [hok]
        -- A blank line is read like any other and leaves no message.
        cases hm : Message.ofLine? (f.pending.append l) with
        | none =>
            rcases hgo out with ⟨hmsgs, hacc, hpen, hlim⟩
            refine ⟨?_, ?_, hpen, hlim⟩
            · rw [hmsgs, Split.within_cons_of_le hle]
              simp [messagesOf, hm]
            · rw [Split.fits_cons_iff]
              exact hacc.trans ⟨fun h => ⟨hle, h⟩, fun h => h.2⟩
        | some m =>
            rcases hgo (out.push m) with ⟨hmsgs, hacc, hpen, hlim⟩
            refine ⟨?_, ?_, hpen, hlim⟩
            · rw [hmsgs, Split.within_cons_of_le hle]
              simp [messagesOf, hm]
            · rw [Split.fits_cons_iff]
              exact hacc.trans ⟨fun h => ⟨hle, h⟩, fun h => h.2⟩

-- One piece goes on from the stream that has been read so far, if that fits and
-- its unended line is held.
theorem reads_feedInto (f : Framer) (hf : f.limit < wordBound) {s : Split} (hfits : s.Fits f.limit)
    (hpend : f.pending = s.rest) (data : ByteArray) (out : Array Message) (before : List Message)
    (hout : out.toList = before ++ messagesOf s.lines) :
    (f.feedInto data out).Reads f.limit before (s.append (split data)) := by
  rcases reads_feedLines (split data).lines (split data).rest f hf out with
    ⟨hmsgs, hacc, hpen, hlim⟩
  rw [hpend] at hmsgs hacc hpen
  refine ⟨?_, ?_, ?_, hlim⟩
  · rw [Split.within_append_of_lines hfits.1, messagesOf_append, ← List.append_assoc, ← hout]
    exact hmsgs
  · rw [Split.fits_append_iff]
    exact hacc.trans ⟨fun h => ⟨hfits.1, h⟩, fun h => h.2⟩
  · rw [Split.rest_append]
    exact hpen

/-- Any pieces go on from the stream that has been read so far. A refusal ends
    the feeding, and the pieces behind it would not have been read either. -/
theorem reads_feedAll (pieces : List ByteArray) (f : Framer) (hf : f.limit < wordBound) {s : Split}
    (hfits : s.Fits f.limit) (hpend : f.pending = s.rest) (out : Array Message)
    (before : List Message) (hout : out.toList = before ++ messagesOf s.lines) :
    (feedAll pieces f out).Reads f.limit before (s.append (split (joined pieces))) := by
  induction pieces generalizing f s out with
  | nil =>
      have hnil : joined [] = ByteArray.empty := rfl
      rw [hnil, split_empty, Split.append_empty]
      refine ⟨?_, ⟨fun _ => hfits, fun _ => rfl⟩, fun _ => hpend, rfl⟩
      rw [Split.within_of_fits hfits]
      exact hout
  | cons piece pieces ih =>
      have hone := reads_feedInto f hf hfits hpend piece out before hout
      have hall : s.append (split (joined (piece :: pieces)))
          = (s.append (split piece)).append (split (joined pieces)) := by
        rw [Split.append_assoc, ← split_append]
        rfl
      rw [hall, feedAll]
      rcases hone with ⟨hmsgs, hacc, hpen, hlim⟩
      cases href : (f.feedInto piece out).refusal with
      | some o =>
          -- The feeding ends here, and what follows does not make the line shorter.
          have hnot : ¬ (s.append (split piece)).Fits f.limit := by
            rw [← hacc, href]
            simp only [reduceCtorEq, not_false_eq_true]
          refine ⟨?_, ?_, ?_, hlim⟩
          · rw [Split.within_append_of_not_fits hnot]
            exact hmsgs
          · constructor
            · intro h
              exact absurd (href.symm.trans h) (by simp only [reduceCtorEq, not_false_eq_true])
            · intro h
              exact absurd (Split.fits_of_fits_append h) hnot
          · intro h
            exact absurd (href.symm.trans h) (by simp only [reduceCtorEq, not_false_eq_true])
      | none =>
          have hfits' := hacc.mp href
          rw [Split.within_of_fits hfits'] at hmsgs
          rw [← hlim] at hfits' hf ⊢
          exact ih _ hf hfits' (hpen href) _ hmsgs

end Framer

theorem Message.size_le_of_ofLine? {l : Line} {m : Message} (h : ofLine? l = some m) :
    m.size ≤ l.size := by
  have hsize : m.size = (trimmed l.bytes).size := by
    rw [← bytes_of_ofLine? h]
    rfl
  rw [hsize, trimmed, ByteArray.size_extract]
  have hle : (l.bytes.size : Nat) = l.size := rfl
  omega

-- A message that a framer gives is not longer than its limit, since the record
-- was not before it was trimmed.
theorem Fed.Reads.size_le_of_mem {fed : Fed} {limit : Nat} {s : Split} (h : fed.Reads limit [] s)
    {m : Message} (hm : m ∈ fed.messages.toList) : m.size ≤ limit := by
  rw [h.messages, List.nil_append] at hm
  rcases List.mem_filterMap.mp hm with ⟨l, hl, hline⟩
  exact (Message.size_le_of_ofLine? hline).trans (Split.size_le_of_mem_within hl)

theorem Framer.size_le_of_mem_feed (f : Framer) (hf : f.limit < wordBound) {data : ByteArray}
    {m : Message} (hm : m ∈ (f.feed data).messages.toList) : m.size ≤ f.limit :=
  (reads_feedLines (split data).lines (split data).rest f hf #[]).size_le_of_mem hm

-- A framer that nothing was fed to reads a stream from its start.
theorem Framer.reads_fresh {limit : Nat} (hlimit : limit < wordBound) (pieces : List ByteArray) :
    (feedAll pieces (ofLimit limit) #[]).Reads limit [] (split (joined pieces)) := by
  have hstart : (⟨[], Line.empty⟩ : Split).Fits (ofLimit limit).limit :=
    ⟨by simp, Nat.zero_le _⟩
  have h := reads_feedAll pieces (ofLimit limit) hlimit hstart rfl #[] [] rfl
  rwa [Split.empty_append] at h

/-- A fresh framer finds the records of a stream, in whatever pieces it comes and
    also when it comes at once. The records are the lines that join to the
    stream. If they all keep to the limit, each is trimmed and becomes a message
    unless it is blank, and the unended one is held. If not, the messages are
    those before the first line that is too long, and the feeding was refused. -/
theorem feedAll_eq_records (limit : Nat) (hlimit : limit < wordBound) (pieces : List ByteArray) :
    let records := split (joined pieces)
    let cut := Framer.feedAll pieces (Framer.ofLimit limit) #[]
    let whole := (Framer.ofLimit limit).feedInto (joined pieces) #[]
    records.join = joined pieces ∧
      (records.Fits limit →
        cut.refusal = none ∧ whole.refusal = none ∧
        cut.messages.toList = records.lines.filterMap Message.ofLine? ∧
        whole.messages.toList = records.lines.filterMap Message.ofLine? ∧
        cut.framer.pending = records.rest ∧ whole.framer.pending = records.rest) ∧
      (¬ records.Fits limit →
        cut.refusal ≠ none ∧ whole.refusal ≠ none ∧
        cut.messages.toList
          = (records.lines.takeWhile (·.size ≤ limit)).filterMap Message.ofLine? ∧
        whole.messages.toList
          = (records.lines.takeWhile (·.size ≤ limit)).filterMap Message.ofLine?) := by
  intro records cut whole
  have hstart : (⟨[], Line.empty⟩ : Split).Fits (Framer.ofLimit limit).limit :=
    ⟨by simp, Nat.zero_le _⟩
  have hcut : cut.Reads limit [] records := by
    have h := Framer.reads_feedAll pieces (Framer.ofLimit limit) hlimit hstart rfl #[] [] rfl
    rwa [Split.empty_append] at h
  have hwhole : whole.Reads limit [] records := by
    have h := Framer.reads_feedInto (Framer.ofLimit limit) hlimit hstart rfl (joined pieces) #[]
      [] rfl
    rwa [Split.empty_append] at h
  refine ⟨join_split _, fun hfits => ?_, fun hnot => ?_⟩
  · have hlines := Split.within_of_fits hfits
    have hrefused := hcut.accepted.mpr hfits
    have hrefused' := hwhole.accepted.mpr hfits
    refine ⟨hrefused, hrefused', ?_, ?_, hcut.pending hrefused, hwhole.pending hrefused'⟩
    · rw [hcut.messages, hlines]
      rfl
    · rw [hwhole.messages, hlines]
      rfl
  · exact ⟨fun h => hnot (hcut.accepted.mp h), fun h => hnot (hwhole.accepted.mp h),
      hcut.messages, hwhole.messages⟩

/-- A record of exactly the limit is taken, a blank one gives nothing, and a
    longer one ends the feeding although each of its pieces is short. -/
theorem feedAll_stops_at_long_record :
    let pieces := ["x\n  a".toUTF8, "\r\n\nlon".toUTF8, ByteArray.empty, "ger\nd\n".toUTF8]
    let fed := Framer.feedAll pieces (Framer.ofLimit 4) #[]
    4 < wordBound ∧ ¬ (split (joined pieces)).Fits 4 ∧ fed.refusal ≠ none ∧
      fed.messages.toList.map Message.bytes = ["x".toUTF8, "a".toUTF8] := by
  intro pieces fed
  have hlimit : 4 < wordBound := by decide
  have hnot : ¬ (split (joined pieces)).Fits 4 := by decide
  have hrefused := (feedAll_eq_records 4 hlimit pieces).2.2 hnot
  refine ⟨hlimit, hnot, hrefused.1, ?_⟩
  rw [hrefused.2.2.1]
  decide

end LineChat
