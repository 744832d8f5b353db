import LineChat.Proofs.Line.RoundTrip

/-!
# A Line Whole or Not at All

What a buffer holds after a line was to be written into it.

Writing a line makes three calls on the buffer: it reserves room for the line
and its newline, appends the line, and appends the newline. Any of them may be
refused, and before the last two the buffer has been changed already. A refusal
of `appendLine` comes without a buffer, so nothing can be said about what is
left behind. `writeLine` makes the same calls on one buffer that is changed in
place, and gives it back as it is when the last of them was made.

That a refusal leaves the contents as they were then has one reason. Room for
both appends is reserved at once, and what is reserved is there: after the
reservation neither append is refused (`appends_after_reserve`). The room is
computed in machine words, which stop at their largest value. A payload of less
than half a machine word stays below it, and with a limit that is a word itself
a sum that leaves the word is past the limit as well. So the condition for a
refusal is the one on unbounded numbers.

## Main definitions

* `saturated`: A number as a machine word that stops at its largest value.
* `sizeBound`: What the size of a payload stays below.
* `Buffer.writeLine`: A payload as one line, written in place.

## Theorems

* `writeLine_cases`: How writing a line ends, call by call.
* `appendLine_eq_writeLine`: The buffer that is given on is the one left behind.
* `line_whole_or_not_at_all`: The answer to every payload, and what is held.
-/

namespace LineChat

/-- The number as a machine word. The largest word stands for all that leave it. -/
def saturated (n : Nat) : Nat := min n (wordBound - 1)

/-- No byte string in memory is as long as half a machine word. -/
def sizeBound : Nat := 0x8000000000000000

theorem saturated_of_lt {n : Nat} (h : n < wordBound) : saturated n = n :=
  Nat.min_eq_left (by omega)

-- Trimming makes nothing longer, and one byte more than half a word is no word.
theorem saturated_of_line {l : Line} {payload : ByteArray} (hl : l.bytes = trimmed payload)
    (hpayload : payload.size < sizeBound) : saturated (l.size + 1) = l.size + 1 := by
  have hsize : l.size = (trimmed payload).size := congrArg ByteArray.size hl
  have hshort : (trimmed payload).size ≤ payload.size := by
    rw [trimmed, ByteArray.size_extract]
    omega
  refine saturated_of_lt ?_
  unfold sizeBound at hpayload
  unfold wordBound
  omega

namespace Buffer

/-- A payload as one line at the end of a buffer that is changed in place: the
    answer tells whether there was anything to write, and the buffer is as the
    last call on it has left it. -/
def writeLine (dst : Buffer) (payload : ByteArray) : Except LineError Bool × Buffer :=
  let text := trimmed payload
  if text.size = 0 then (.ok false, dst)
  else
    match Line.ofBytes? text with
    | none => (.error .embeddedNewline, dst)
    | some l =>
      match dst.reserve (saturated (l.size + 1)) with
      | .error o => (.error (.overflow o), dst)
      | .ok roomy =>
        match roomy.append l.bytes with
        | .error o => (.error (.overflow o), roomy)
        | .ok unended =>
          match unended.append (ByteArray.empty.push newline) with
          | .error o => (.error (.overflow o), unended)
          | .ok ended => (.ok true, ended)

/-- A payload that is blank or broken makes no call on the buffer. Any other is a
    line, and there is room for it or not: the calls behind the reservation
    decide nothing. -/
theorem writeLine_cases (dst : Buffer) (hlimit : dst.limit < wordBound) {payload : ByteArray}
    (hpayload : payload.size < sizeBound) :
    ((trimmed payload).size = 0 ∧ dst.writeLine payload = (.ok false, dst)) ∨
    ((trimmed payload).size ≠ 0 ∧ newline ∈ octets (trimmed payload) ∧
      dst.writeLine payload = (.error .embeddedNewline, dst)) ∨
    ∃ l : Line, l.bytes = trimmed payload ∧ (trimmed payload).size ≠ 0 ∧
      ((dst.limit < dst.size + (l.size + 1) ∧
          dst.writeLine payload = (.error (.overflow ⟨dst.size, l.size + 1, dst.limit⟩), dst)) ∨
        (dst.size + (l.size + 1) ≤ dst.limit ∧
          ∃ ended, dst.writeLine payload = (.ok true, ended) ∧
            ended.bytes = dst.bytes ++ l.wire ∧ ended.limit = dst.limit)) := by
  by_cases hblank : (trimmed payload).size = 0
  · left
    refine ⟨hblank, ?_⟩
    unfold writeLine
    rw [if_pos hblank]
  · right
    by_cases hbroken : newline ∈ octets (trimmed payload)
    · left
      refine ⟨hblank, hbroken, ?_⟩
      unfold writeLine
      simp only [if_neg hblank, Line.ofBytes?_eq_none hbroken]
    · right
      let l : Line := ⟨trimmed payload, hbroken⟩
      have hline : Line.ofBytes? (trimmed payload) = some l := l.ofBytes?_bytes
      have hword : saturated (l.size + 1) = l.size + 1 := saturated_of_line rfl hpayload
      refine ⟨l, rfl, hblank, ?_⟩
      unfold writeLine
      simp only [if_neg hblank, hline, hword]
      rcases dst.reserve_cases (l.size + 1) with ⟨hfull, herr⟩ | ⟨hroom, roomy, hok, _⟩
      · left
        refine ⟨by omega, ?_⟩
        rw [herr]
      · right
        rcases appends_after_reserve hok with ⟨unended, ended, hun, hend, hbytes, hsame⟩
        refine ⟨by omega, ended, ?_, hbytes, hsame⟩
        simp only [hok, hun, hend]

/-- Both ways of writing a line make the same calls: one hands over a buffer that
    the other has changed. -/
theorem appendLine_eq_writeLine (dst : Buffer) {payload : ByteArray}
    (hpayload : payload.size < sizeBound) :
    dst.appendLine payload = (dst.writeLine payload).1.map fun wrote =>
      if wrote then some (dst.writeLine payload).2 else none := by
  unfold appendLine writeLine
  by_cases hblank : (trimmed payload).size = 0
  · simp only [if_pos hblank]
    rfl
  · simp only [if_neg hblank]
    cases hline : Line.ofBytes? (trimmed payload) with
    | none => rfl
    | some l =>
        have hword : saturated (l.size + 1) = l.size + 1 :=
          saturated_of_line (Line.bytes_of_ofBytes? hline) hpayload
        simp only [hword]
        cases hroom : dst.reserve (l.size + 1) with
        | error o => rfl
        | ok roomy =>
            rcases appends_after_reserve hroom with ⟨unended, ended, hun, hend, _⟩
            simp only [hun, hend]
            rfl

end Buffer

/-- A payload is to be written as one line into any buffer whose limit is a
    machine word. The answer is decided by what is left of the payload after
    trimming and, if that is one line, by the room that is left as a number
    without bounds. If it is yes the line is there with its newline, and if it is
    anything else the contents are what they were: also between the calls no
    refusal is met once the room is reserved. The calls are those of
    `appendLine`. -/
theorem line_whole_or_not_at_all (dst : Buffer) (hlimit : dst.limit < wordBound)
    (payload : ByteArray) (hpayload : payload.size < sizeBound) :
    let text := trimmed payload
    let run := dst.writeLine payload
    run.1 = (if text.size = 0 then .ok false
      else if newline ∈ octets text then .error .embeddedNewline
      else if dst.limit < dst.size + text.size + 1 then
        .error (.overflow ⟨dst.size, text.size + 1, dst.limit⟩)
      else .ok true) ∧
    (run.1 = .ok true → octets run.2.bytes = octets dst.bytes ++ octets text ++ [newline]) ∧
    (run.1 ≠ .ok true → run.2.bytes = dst.bytes) ∧
    run.2.limit = dst.limit ∧
    (∀ l roomy, Line.ofBytes? text = some l →
      dst.reserve (saturated (l.size + 1)) = .ok roomy →
      ∃ unended ended, roomy.append l.bytes = .ok unended ∧
        unended.append (ByteArray.empty.push newline) = .ok ended) ∧
    dst.appendLine payload = run.1.map fun wrote => if wrote then some run.2 else none := by
  intro text run
  have happends : ∀ l roomy, Line.ofBytes? text = some l →
      dst.reserve (saturated (l.size + 1)) = .ok roomy →
      ∃ unended ended, roomy.append l.bytes = .ok unended ∧
        unended.append (ByteArray.empty.push newline) = .ok ended := by
    intro l roomy hline hroom
    rw [saturated_of_line (Line.bytes_of_ofBytes? hline) hpayload] at hroom
    rcases Buffer.appends_after_reserve hroom with ⟨unended, ended, hun, hend, _⟩
    exact ⟨unended, ended, hun, hend⟩
  have hsame := dst.appendLine_eq_writeLine hpayload
  have hrun : dst.writeLine payload = run := rfl
  have hkept : ∀ answer, run = (answer, dst) → answer ≠ .ok true →
      (run.1 = .ok true → octets run.2.bytes = octets dst.bytes ++ octets text ++ [newline]) ∧
      (run.1 ≠ .ok true → run.2.bytes = dst.bytes) ∧ run.2.limit = dst.limit := by
    intro answer hout hno
    rw [hout]
    exact ⟨fun hyes => absurd hyes hno, fun _ => rfl, rfl⟩
  rcases dst.writeLine_cases hlimit hpayload with
    ⟨hblank, hskip⟩ | ⟨hsome, hbroken, herr⟩ | ⟨l, hl, hsome, hroom⟩
  · rw [hrun] at hskip
    rcases hkept _ hskip nofun with ⟨hline, hbytes, hlim⟩
    exact ⟨by rw [hskip, if_pos hblank], hline, hbytes, hlim, happends, hsame⟩
  · rw [hrun] at herr
    rcases hkept _ herr nofun with ⟨hline, hbytes, hlim⟩
    exact ⟨by rw [herr, if_neg hsome, if_pos hbroken], hline, hbytes, hlim, happends, hsame⟩
  · have hwhole : newline ∉ octets text := by
      rw [show text = l.bytes from hl.symm]
      exact l.unbroken
    have hsize : l.size = text.size := congrArg ByteArray.size hl
    rw [hsize, hrun] at hroom
    rcases hroom with ⟨hfull, herr⟩ | ⟨hfits, ended, hok, hbytes, hlim⟩
    · rcases hkept _ herr nofun with ⟨hline, hbytes, hlim⟩
      refine ⟨?_, hline, hbytes, hlim, happends, hsame⟩
      rw [herr, if_neg hsome, if_neg hwhole, if_pos (by omega)]
    · refine ⟨?_, fun _ => ?_, ?_, ?_, happends, hsame⟩
      · rw [hok, if_neg hsome, if_neg hwhole, if_neg (by omega)]
      · rw [hok]
        dsimp only
        rw [hbytes, octets_append, octets_wire, hl, List.append_assoc]
      · rw [hok]
        exact fun h => absurd rfl h
      · rw [hok]
        exact hlim

/-- Three bytes are held. With a limit of six a line of two is written to the last
    byte of the room and one of three is refused; with the largest limit that is
    a machine word there is room for it. -/
theorem line_whole_or_not_at_all_to_the_last_byte :
    let narrow : Buffer := ⟨6, "abc".toUTF8, 0, by decide⟩
    let wide : Buffer := ⟨wordBound - 1, "abc".toUTF8, 0, by decide⟩
    let short := "\tde ".toUTF8
    let long := " xyz\n".toUTF8
    narrow.limit < wordBound ∧ wide.limit < wordBound ∧
      short.size < sizeBound ∧ long.size < sizeBound ∧
      (narrow.writeLine short).1 = .ok true ∧
      octets (narrow.writeLine short).2.bytes = octets "abc".toUTF8 ++ octets "de".toUTF8 ++ [10] ∧
      (narrow.writeLine long).1 = .error (.overflow ⟨3, 4, 6⟩) ∧
      (narrow.writeLine long).2.bytes = "abc".toUTF8 ∧
      (wide.writeLine long).1 = .ok true ∧
      octets (wide.writeLine long).2.bytes
        = octets "abc".toUTF8 ++ octets "xyz".toUTF8 ++ [10] := by
  intro narrow wide short long
  have hnarrow : narrow.limit < wordBound := by decide
  have hwide : wide.limit < wordBound := by decide
  have hshort : short.size < sizeBound := by decide
  have hlong : long.size < sizeBound := by decide
  have htrim : trimmed short = "de".toUTF8 := by decide
  have htrim' : trimmed long = "xyz".toUTF8 := by decide
  rcases line_whole_or_not_at_all narrow hnarrow short hshort with ⟨hanswer, hwritten, _⟩
  rcases line_whole_or_not_at_all narrow hnarrow long hlong with ⟨hanswer', _, hkept, _⟩
  rcases line_whole_or_not_at_all wide hwide long hlong with ⟨hanswer'', hwritten'', _⟩
  rw [htrim] at hanswer hwritten
  rw [htrim'] at hanswer' hanswer'' hwritten''
  have hyes : (narrow.writeLine short).1 = .ok true := hanswer.trans (by decide)
  have hno : (narrow.writeLine long).1 = .error (.overflow ⟨3, 4, 6⟩) :=
    hanswer'.trans (by decide)
  have hroom : (wide.writeLine long).1 = .ok true := hanswer''.trans (by decide)
  refine ⟨hnarrow, hwide, hshort, hlong, hyes, hwritten hyes, hno, hkept ?_, hroom,
    hwritten'' hroom⟩
  rw [hno]
  exact nofun

end LineChat
