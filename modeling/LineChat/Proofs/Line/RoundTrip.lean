import LineChat.Proofs.Line.Framing
import LineChat.Proofs.Line.Wire

/-!
# Lines There and Back

What is written as lines is what is read.

Payloads are written into one buffer, one after the other, and a call may come
to nothing: the payload is blank, it holds a newline, or there is no room. Such
a call leaves no trace, because a payload that is written has the shape of a
message (`appendLine_cases`) and a message goes into a buffer whole or not at
all. So the buffer always holds the stream of some messages, `wires`, and these
are the trimmed payloads of the calls that were answered with yes.

Reading does not depend on the writing. A framer finds the lines of a stream
wherever it is cut, and the lines of `wires` are the messages, as long as the
limit of the framer covers the longest of them. In the other direction the
messages of any stream are written without a refusal if there is room for them
all, since a message is its own trimmed form.

## Main definitions

* `written`: The payloads that have become lines.

## Theorems

* `appendLine_cases`: A payload is blank, broken, or as good as a message.
* `appendLines_wires`: Only the calls that succeeded leave a trace.
* `appendLines_messages`: Messages are written if there is room.
* `reads_wires`: Messages on the wire are read back, however they are cut.
* `lines_there_and_back`: Both directions.
-/

namespace LineChat

/-- The payloads that have become lines, without the blanks around them: those
    whose call was answered with yes. -/
def written (payloads : List ByteArray) (answers : List (Except LineError Bool)) :
    List ByteArray :=
  (payloads.zip answers).filterMap fun
    | (payload, .ok true) => some (trimmed payload)
    | _ => none

theorem Line.ofBytes?_eq_none {b : ByteArray} (h : newline ∈ octets b) : ofBytes? b = none := by
  cases hline : ofBytes? b with
  | none => rfl
  | some l => exact absurd (bytes_of_ofBytes? hline ▸ h) l.unbroken

-- Trimming leaves something that neither starts nor ends with a blank, so it is
-- a message unless a newline stands inside.
theorem Message.exists_of_trimmed {payload : ByteArray} (hsome : (trimmed payload).size ≠ 0)
    (hone : newline ∉ octets (trimmed payload)) : ∃ m : Message, m.bytes = trimmed payload :=
  ⟨⟨⟨trimmed payload, hone⟩, (snug_trimmed hsome).nonempty, (snug_trimmed hsome).first,
    (snug_trimmed hsome).last⟩, rfl⟩

namespace Buffer

/-- A payload is blank, or holds a newline after trimming, or is written like
    the message that it trims to. -/
theorem appendLine_cases (dst : Buffer) (payload : ByteArray) :
    ((trimmed payload).size = 0 ∧ dst.appendLine payload = .ok none) ∨
    (newline ∈ octets (trimmed payload) ∧ dst.appendLine payload = .error .embeddedNewline) ∨
    ∃ m : Message, m.bytes = trimmed payload ∧ dst.appendLine payload = dst.appendLine m.bytes := by
  by_cases hblank : (trimmed payload).size = 0
  · left
    refine ⟨hblank, ?_⟩
    unfold appendLine
    simp only [if_pos hblank]
  · by_cases hbroken : newline ∈ octets (trimmed payload)
    · right
      left
      refine ⟨hbroken, ?_⟩
      unfold appendLine
      simp only [if_neg hblank, Line.ofBytes?_eq_none hbroken]
    · right
      right
      rcases Message.exists_of_trimmed hblank hbroken with ⟨m, hm⟩
      refine ⟨m, hm, ?_⟩
      -- Both calls look at the same bytes, since a message is already trimmed.
      unfold appendLine
      rw [m.trimmed_bytes, hm]

/-- However the calls end, what they leave behind are the lines of the payloads
    that were written, in order. -/
theorem appendLines_wires (payloads : List ByteArray) (dst : Buffer) :
    (appendLines payloads dst).1.length = payloads.length ∧
    ∃ ms : List Message, written payloads (appendLines payloads dst).1 = ms.map Message.bytes ∧
      (appendLines payloads dst).2.bytes = dst.bytes ++ wires ms := by
  induction payloads generalizing dst with
  | nil => exact ⟨rfl, [], rfl, ByteArray.append_empty.symm⟩
  | cons payload payloads ih =>
      rw [appendLines]
      rcases dst.appendLine_cases payload with ⟨_, hskip⟩ | ⟨_, hbroken⟩ | ⟨m, hm, hsame⟩
      · rcases ih dst with ⟨hlen, ms, hwritten, hbytes⟩
        simp only [hskip]
        exact ⟨congrArg (· + 1) hlen, ms, hwritten, hbytes⟩
      · rcases ih dst with ⟨hlen, ms, hwritten, hbytes⟩
        simp only [hbroken]
        exact ⟨congrArg (· + 1) hlen, ms, hwritten, hbytes⟩
      · rw [hsame]
        rcases dst.appendLine_message_cases m with ⟨_, hfull⟩ | ⟨_, dst', hok, hdst, _⟩
        · rcases ih dst with ⟨hlen, ms, hwritten, hbytes⟩
          simp only [hfull]
          exact ⟨congrArg (· + 1) hlen, ms, hwritten, hbytes⟩
        · -- Only this call adds a line, and the next ones add theirs behind it.
          rcases ih dst' with ⟨hlen, ms, hwritten, hbytes⟩
          simp only [hok]
          refine ⟨congrArg (· + 1) hlen, m :: ms, ?_, ?_⟩
          · rw [List.map_cons, ← hwritten, hm]
            rfl
          · rw [hbytes, hdst, wires_cons, ByteArray.append_assoc]

/-- Messages are all written if there is room for their lines. -/
theorem appendLines_messages (ms : List Message) (dst : Buffer) (hlimit : dst.limit < wordBound)
    (hroom : dst.size + (wires ms).size ≤ dst.limit) :
    (appendLines (ms.map Message.bytes) dst).1 = ms.map (fun _ => .ok true) ∧
      (appendLines (ms.map Message.bytes) dst).2.bytes = dst.bytes ++ wires ms := by
  induction ms generalizing dst with
  | nil => exact ⟨rfl, ByteArray.append_empty.symm⟩
  | cons m ms ih =>
      rw [wires_cons, ByteArray.size_append, m.size_wire] at hroom
      rw [List.map_cons, appendLines]
      rcases dst.appendLine_message_cases m with ⟨hfull, _⟩ | ⟨_, dst', hok, hdst, hdstlim⟩
      · exact absurd hfull (by omega)
      · have hsize : dst'.size = dst.size + (m.size + 1) := by
          unfold size
          rw [hdst, ByteArray.size_append, m.size_wire]
        rcases ih dst' (by omega) (by omega) with ⟨hanswers, hbytes⟩
        simp only [hok, hanswers, List.map_cons, true_and]
        rw [hbytes, hdst, wires_cons, ByteArray.append_assoc]

end Buffer

-- The lines of the stream are the messages, and nothing follows the last newline.
theorem reads_wires {limit : Nat} (hlimit : limit < wordBound) {ms : List Message}
    (hfits : ∀ m ∈ ms, m.size ≤ limit) {pieces : List ByteArray} (hpieces : joined pieces = wires ms) :
    (Framer.feedAll pieces (Framer.ofLimit limit) #[]).refusal = none ∧
      (Framer.feedAll pieces (Framer.ofLimit limit) #[]).messages.toList = ms ∧
      (Framer.feedAll pieces (Framer.ofLimit limit) #[]).framer.pending = Line.empty := by
  have hreads := Framer.reads_fresh hlimit pieces
  rw [hpieces] at hreads
  have hall : (split (wires ms)).Fits limit := by
    rw [split_wires]
    refine ⟨?_, Nat.zero_le limit⟩
    intro l hl
    rcases List.mem_map.mp hl with ⟨m, hm, rfl⟩
    exact hfits m hm
  have haccepted := hreads.accepted.mpr hall
  refine ⟨haccepted, ?_, ?_⟩
  · rw [hreads.messages, messagesOf_of_fits hall]
    rfl
  · rw [hreads.pending haccepted, split_wires]

/-- Payloads are written into an empty buffer of any room, and each call may be
    answered with yes, no or a refusal. A framer whose limit covers the trimmed
    payloads that were written reads exactly these from the buffer, wherever
    its bytes are cut. And whatever stream a framer is fed, its messages are
    written without a refusal into a buffer that has room for them, and a framer
    whose limit covers them, like the first, reads them again. -/
theorem lines_there_and_back (limit : Nat) (hlimit : limit < wordBound) :
    (∀ (payloads : List ByteArray) (room : Nat),
      let run := Buffer.appendLines payloads (Buffer.empty room)
      run.1.length = payloads.length ∧
      ((∀ text ∈ written payloads run.1, text.size ≤ limit) →
        ∀ pieces, joined pieces = run.2.bytes →
          let fed := Framer.feedAll pieces (Framer.ofLimit limit) #[]
          fed.refusal = none ∧
          fed.messages.toList.map Message.bytes = written payloads run.1 ∧
          fed.framer.pending = Line.empty)) ∧
    (∀ pieces : List ByteArray,
      let decoded := (Framer.feedAll pieces (Framer.ofLimit limit) #[]).messages.toList
      (∀ m ∈ decoded, m.size ≤ limit) ∧
      ∀ room, room < wordBound → (wires decoded).size ≤ room →
        let run := Buffer.appendLines (decoded.map Message.bytes) (Buffer.empty room)
        run.1 = decoded.map (fun _ => .ok true) ∧
        ∀ limit', limit' < wordBound → (∀ m ∈ decoded, m.size ≤ limit') →
          ∀ pieces', joined pieces' = run.2.bytes →
            let again := Framer.feedAll pieces' (Framer.ofLimit limit') #[]
            again.refusal = none ∧ again.messages.toList = decoded ∧
            again.framer.pending = Line.empty) := by
  refine ⟨?_, ?_⟩
  · intro payloads room run
    rcases Buffer.appendLines_wires payloads (Buffer.empty room) with ⟨hlen, ms, hwritten, hbytes⟩
    have hempty : (Buffer.empty room).bytes ++ wires ms = wires ms := ByteArray.empty_append
    rw [hempty] at hbytes
    refine ⟨hlen, ?_⟩
    intro hfits pieces hpieces fed
    rw [show written payloads run.1 = ms.map Message.bytes from hwritten] at hfits ⊢
    rcases reads_wires hlimit (fun m hm => hfits _ (List.mem_map_of_mem hm)) (hpieces.trans hbytes)
      with ⟨haccepted, hmessages, hpending⟩
    exact ⟨haccepted, congrArg (List.map Message.bytes) hmessages, hpending⟩
  · intro pieces decoded
    refine ⟨fun m hm => (Framer.reads_fresh hlimit pieces).size_le_of_mem hm, ?_⟩
    intro room hword hroom run
    have hall : (Buffer.empty room).size + (wires decoded).size ≤ (Buffer.empty room).limit := by
      change 0 + (wires decoded).size ≤ room
      omega
    rcases Buffer.appendLines_messages decoded (Buffer.empty room) hword hall with
      ⟨hanswers, hbytes⟩
    refine ⟨hanswers, ?_⟩
    intro limit' hlimit' hfits pieces' hpieces again
    refine reads_wires hlimit' hfits ?_
    rw [hpieces, hbytes]
    exact ByteArray.empty_append

/-- Five payloads for six bytes of room: the second is blank, the third is
    broken, the fourth is too long, and the fifth still finds room. Read from a
    stream with blanks and an unended line, the two messages are written again
    into five bytes, and a shorter limit is enough to read them. -/
theorem lines_there_and_back_six_bytes :
    let payloads := [" ab ".toUTF8, "\t".toUTF8, "x\ny".toUTF8, "long".toUTF8, "c".toUTF8]
    let run := Buffer.appendLines payloads (Buffer.empty 6)
    let pieces := ["a".toUTF8, "b\nc".toUTF8, ByteArray.empty, "\n".toUTF8]
    let fed := Framer.feedAll pieces (Framer.ofLimit 2) #[]
    let stream := ["  ab\n\n".toUTF8, " c \nrest".toUTF8]
    let decoded := (Framer.feedAll stream (Framer.ofLimit 5) #[]).messages.toList
    (2 < wordBound ∧ written payloads run.1 = ["ab".toUTF8, "c".toUTF8] ∧
      joined pieces = run.2.bytes ∧ fed.refusal = none ∧
      fed.messages.toList.map Message.bytes = written payloads run.1) ∧
    (5 < wordBound ∧ (wires decoded).size = 5 ∧
      joined pieces = (Buffer.appendLines (decoded.map Message.bytes) (Buffer.empty 5)).2.bytes ∧
      fed.messages.toList = decoded) := by
  intro payloads run pieces fed stream decoded
  have hlimit : 2 < wordBound := by decide
  have hlimit' : 5 < wordBound := by decide
  refine ⟨?_, ?_⟩
  · have hwritten : written payloads run.1 = ["ab".toUTF8, "c".toUTF8] := by decide +kernel
    have hpieces : joined pieces = run.2.bytes := by decide +kernel
    have hfits : ∀ text ∈ written payloads run.1, text.size ≤ 2 := by
      rw [hwritten]
      decide
    rcases ((lines_there_and_back 2 hlimit).1 payloads 6).2 hfits pieces hpieces with
      ⟨haccepted, hmessages, _⟩
    exact ⟨hlimit, hwritten, hpieces, haccepted, hmessages⟩
  · have hsize : (wires decoded).size = 5 := by decide +kernel
    have hfits : ∀ m ∈ decoded, m.size ≤ 2 := by decide +kernel
    have hpieces : joined pieces
        = (Buffer.appendLines (decoded.map Message.bytes) (Buffer.empty 5)).2.bytes := by
      decide +kernel
    have hback := ((lines_there_and_back 5 hlimit').2 stream).2 5 hlimit' (Nat.le_of_eq hsize)
    exact ⟨hlimit', hsize, hpieces, (hback.2 2 hlimit hfits pieces hpieces).2.1⟩

end LineChat
