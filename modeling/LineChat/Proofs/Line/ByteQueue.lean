import LineChat.Line.Buffer

/-!
# A Buffer Is a Bounded Queue

What a buffer holds after any number of calls.

A buffer is meant as a list of bytes that grows at its end, shrinks at its front
and has at most so many bytes. `BufferStep.onQueue` says what a call does to such
a list, and `BufferStep.demand` how much longer the list may get by it. Nothing
else enters into the account: not the words in which the sizes are added, and not
the room that is reserved. A sum that leaves the machine word is refused for that
reason alone, but the limit is a machine word, so the sum is past the limit too
(`step_cases`). And the room only decides how the bytes are kept. To leave no
doubt about it, the room is set to any value between two calls: an allocator may
give more of it than was asked for, and bytes that are taken out may take their
room along.

One step is either refused, and then nothing has changed, or does to the bytes
what it does to the list. The induction over a history carries just this, with
the limit, which no step changes.

## Main definitions

* `BufferStep`: A call on a buffer, or a change of its room.
* `BufferStep.demand`, `BufferStep.onQueue`, `BufferStep.takenFrom`: The step on
  a plain list.
* `Buffer.step`, `Buffer.stepAll`: The steps on a buffer, and their answers.
* `granted`: The steps that were not refused.

## Theorems

* `step_cases`: A step is refused or done, by the count of bytes.
* `stepAll_eq`: A buffer holds what the granted steps leave of a list.
* `buffer_is_bounded_queue`: Every history, and every step behind it.
-/

namespace LineChat

/-- A step in the life of a buffer. -/
inductive BufferStep
  /-- Bytes go to the end. -/
  | append (data : ByteArray)
  /-- Room for more bytes is asked for. -/
  | reserve (n : Nat)
  /-- The first bytes are dropped. -/
  | consume (n : Nat)
  /-- All bytes are dropped. -/
  | clear
  /-- The first bytes are taken out. -/
  | detach (n : Nat)
  /-- The room comes to be something else. -/
  | resize (room : Nat)

namespace BufferStep

/-- How many bytes a step asks room for. -/
def demand : BufferStep → Nat
  | append data => data.size
  | reserve n => n
  | _ => 0

/-- What a step makes of a plain list of bytes. -/
def onQueue (queue : List UInt8) : BufferStep → List UInt8
  | append data => queue ++ octets data
  | consume n => queue.drop n
  | clear => []
  | detach n => queue.drop n
  | _ => queue

/-- What a step takes out of a plain list of bytes. -/
def takenFrom (queue : List UInt8) : BufferStep → List UInt8
  | detach n => queue.take n
  | _ => []

end BufferStep

/-- The steps that were not refused. -/
def granted (steps : List BufferStep) (answers : List (Except Overflow ByteArray)) :
    List BufferStep :=
  (steps.zip answers).filterMap fun
    | (step, .ok _) => some step
    | _ => none

namespace Buffer

/-- One step: the bytes that it takes out or the refusal, and the buffer
    afterwards. -/
def step (b : Buffer) : BufferStep → Except Overflow ByteArray × Buffer
  | .append data =>
    match b.append data with
    | .error o => (.error o, b)
    | .ok longer => (.ok ByteArray.empty, longer)
  | .reserve n =>
    match b.reserve n with
    | .error o => (.error o, b)
    | .ok roomy => (.ok ByteArray.empty, roomy)
  | .consume n => (.ok ByteArray.empty, b.consume n)
  | .clear => (.ok ByteArray.empty, b.clear)
  | .detach n => (.ok (b.detach n).1, (b.detach n).2)
  | .resize room => (.ok ByteArray.empty, { b with capacity := room })

/-- Steps in order, whatever their answers. -/
def stepAll : List BufferStep → Buffer → List (Except Overflow ByteArray) × Buffer
  | [], b => ([], b)
  | s :: steps, b =>
    let first := b.step s
    let more := stepAll steps first.2
    (first.1 :: more.1, more.2)

theorem size_eq (b : Buffer) : b.size = (octets b.bytes).length := (length_octets b.bytes).symm

theorem octets_consume (b : Buffer) (n : Nat) :
    octets (b.consume n).bytes = (octets b.bytes).drop n := by
  unfold consume
  rw [octets_extract, ← length_octets]
  exact List.take_of_length_le (Nat.le_of_eq List.length_drop)

theorem octets_detach (b : Buffer) (n : Nat) :
    octets (b.detach n).1 = (octets b.bytes).take n := by
  unfold detach
  rw [octets_extract, List.drop_zero, Nat.sub_zero, size_eq, ← List.take_take, List.take_length]

/-- A step that was done has changed the bytes as it changes a list. -/
structure Done (b : Buffer) (s : BufferStep) (out : ByteArray) (after : Buffer) : Prop where
  bytes : octets after.bytes = s.onQueue (octets b.bytes)
  taken : octets out = s.takenFrom (octets b.bytes)
  limit : after.limit = b.limit

-- With a limit that is a machine word a sum that leaves the word is past it.
theorem refused_iff {b : Buffer} (hb : b.limit < wordBound) (n : Nat) :
    (wordBound ≤ b.size + n ∨ b.limit < b.size + n) ↔ b.limit < b.size + n := by
  omega

/-- A step is refused, with everything as it was, if what it asks for does not
    fit behind what is held, and done otherwise. -/
theorem step_cases (b : Buffer) (hb : b.limit < wordBound) (s : BufferStep) :
    (b.limit < b.size + s.demand ∧ b.step s = (.error ⟨b.size, s.demand, b.limit⟩, b)) ∨
    (b.size + s.demand ≤ b.limit ∧ ∃ out after, b.step s = (.ok out, after) ∧
      b.Done s out after) := by
  have hfits : b.size + 0 ≤ b.limit := b.fits
  cases s with
  | append data =>
      rcases b.append_cases data with ⟨hfull, herr⟩ | ⟨hroom, longer, hok, hbytes, hlimit⟩
      · left
        refine ⟨(refused_iff hb _).mp hfull, ?_⟩
        simp only [step, herr, BufferStep.demand]
      · right
        rw [refused_iff hb, Nat.not_lt] at hroom
        refine ⟨hroom, ByteArray.empty, longer, ?_, ?_, rfl, hlimit⟩
        · simp only [step, hok]
        · rw [hbytes, octets_append]
          rfl
  | reserve n =>
      rcases b.reserve_cases n with ⟨hfull, herr⟩ | ⟨hroom, roomy, hok, hbytes, hlimit⟩
      · left
        refine ⟨(refused_iff hb _).mp hfull, ?_⟩
        simp only [step, herr, BufferStep.demand]
      · right
        rw [refused_iff hb, Nat.not_lt] at hroom
        refine ⟨hroom, ByteArray.empty, roomy, ?_, ?_, rfl, hlimit⟩
        · simp only [step, hok]
        · rw [hbytes]
          rfl
  | consume n => exact Or.inr ⟨hfits, _, _, rfl, b.octets_consume n, rfl, rfl⟩
  | clear => exact Or.inr ⟨hfits, _, _, rfl, rfl, rfl, rfl⟩
  | detach n => exact Or.inr ⟨hfits, _, _, rfl, b.octets_consume n, b.octets_detach n, rfl⟩
  | resize room => exact Or.inr ⟨hfits, _, _, rfl, rfl, rfl, rfl⟩

/-- After any history a buffer holds what the granted steps, one after the
    other, leave of the list it began with. -/
theorem stepAll_eq (steps : List BufferStep) (b : Buffer) (hb : b.limit < wordBound) :
    let run := b.stepAll steps
    run.1.length = steps.length ∧
    octets run.2.bytes = (granted steps run.1).foldl BufferStep.onQueue (octets b.bytes) ∧
    run.2.limit = b.limit := by
  induction steps generalizing b with
  | nil => exact ⟨rfl, rfl, rfl⟩
  | cons s steps ih =>
      intro run
      rcases b.step_cases hb s with ⟨_, herr⟩ | ⟨_, out, after, hok, hbytes, _, hlimit⟩
      · rcases ih b hb with ⟨hlength, hqueue, hsame⟩
        have hrun : run = (.error ⟨b.size, s.demand, b.limit⟩ :: (b.stepAll steps).1,
            (b.stepAll steps).2) := by
          simp only [run, stepAll, herr]
        rw [hrun]
        exact ⟨congrArg (· + 1) hlength, hqueue, hsame⟩
      · rcases ih after (by omega) with ⟨hlength, hqueue, hsame⟩
        have hrun : run = (.ok out :: (after.stepAll steps).1, (after.stepAll steps).2) := by
          simp only [run, stepAll, hok]
        rw [hrun]
        refine ⟨congrArg (· + 1) hlength, ?_, hsame.trans hlimit⟩
        rw [hqueue, hbytes]
        rfl

end Buffer

/-- An empty buffer whose limit is a machine word goes through any history. It
    holds what the steps that were not refused make of a plain list, in order,
    and never more than the limit. The next step, whichever it is, is refused
    exactly if the bytes that are held and the bytes it asks for are together
    more than the limit, as numbers without bounds. The refusal tells these three
    numbers and leaves the buffer as it is. Any other step is done, and what it
    takes out is what it takes out of the list. -/
theorem buffer_is_bounded_queue (limit : Nat) (hlimit : limit < wordBound)
    (steps : List BufferStep) :
    let run := (Buffer.empty limit).stepAll steps
    let held := octets run.2.bytes
    run.1.length = steps.length ∧
    held = (granted steps run.1).foldl BufferStep.onQueue [] ∧
    held.length ≤ limit ∧ run.2.limit = limit ∧
    ∀ s : BufferStep,
      let next := run.2.step s
      (∀ o, next.1 = .error o ↔
        limit < held.length + s.demand ∧ o = ⟨held.length, s.demand, limit⟩) ∧
      (limit < held.length + s.demand → next.2 = run.2) ∧
      (held.length + s.demand ≤ limit → octets next.2.bytes = s.onQueue held ∧
        ∃ out, next.1 = .ok out ∧ octets out = s.takenFrom held) := by
  intro run held
  rcases (Buffer.empty limit).stepAll_eq steps hlimit with ⟨hlength, hqueue, hsame⟩
  have hword : run.2.limit < wordBound := Nat.lt_of_le_of_lt (Nat.le_of_eq hsame) hlimit
  have hsize : run.2.size = held.length := run.2.size_eq
  have hmost : held.length ≤ limit := by
    rw [← hsize, ← show run.2.limit = limit from hsame]
    exact run.2.fits
  refine ⟨hlength, hqueue, hmost, hsame, fun s => ?_⟩
  have hcases := run.2.step_cases hword s
  rw [hsize, show run.2.limit = limit from hsame] at hcases
  intro next
  rcases hcases with ⟨hfull, herr⟩ | ⟨hroom, out, after, hok, hbytes, htaken, _⟩
  · have hnext : next = (.error ⟨held.length, s.demand, limit⟩, run.2) := herr
    rw [hnext]
    refine ⟨fun o => ?_, fun _ => rfl, fun hroom => absurd hfull (Nat.not_lt.mpr hroom)⟩
    rw [Except.error.injEq]
    exact ⟨fun h => ⟨hfull, h.symm⟩, fun h => h.2.symm⟩
  · have hnext : next = (.ok out, after) := hok
    rw [hnext]
    refine ⟨fun o => ⟨nofun, fun h => absurd h.1 (Nat.not_lt.mpr hroom)⟩,
      fun hfull => absurd hfull (Nat.not_lt.mpr hroom), fun _ => ⟨hbytes, out, rfl, htaken⟩⟩

/-- Within four bytes the second append and a reservation that leaves the machine
    word are refused, and what is consumed makes room again. With the largest
    limit one byte is enough to refuse the largest reservation: the sum would be
    zero as a machine word. -/
theorem buffer_is_bounded_queue_of_four_bytes :
    let steps := [.append "abc".toUTF8, .append "de".toUTF8, .reserve (wordBound - 1),
      .resize 7, .consume 2, .append "xyz".toUTF8, .detach 1]
    let run := (Buffer.empty 4).stepAll steps
    let wide := (Buffer.empty (wordBound - 1)).stepAll [.append "a".toUTF8]
    4 < wordBound ∧ wordBound - 1 < wordBound ∧
      granted steps run.1 = [.append "abc".toUTF8, .resize 7, .consume 2, .append "xyz".toUTF8,
        .detach 1] ∧
      octets run.2.bytes = octets "xyz".toUTF8 ∧
      (run.2.step (.reserve (wordBound - 1))).1 = .error ⟨3, wordBound - 1, 4⟩ ∧
      (run.2.step (.reserve (wordBound - 1))).2 = run.2 ∧
      (wide.2.step (.reserve (wordBound - 1))).1 = .error ⟨1, wordBound - 1, wordBound - 1⟩ := by
  intro steps run wide
  have hfour : 4 < wordBound := by decide
  have hword : wordBound - 1 < wordBound := by decide
  rcases buffer_is_bounded_queue 4 hfour steps with ⟨_, hqueue, _, _, hnext⟩
  rcases buffer_is_bounded_queue (wordBound - 1) hword [.append "a".toUTF8] with
    ⟨_, hqueue', _, _, hnext'⟩
  have hgranted : granted steps run.1 = [.append "abc".toUTF8, .resize 7, .consume 2,
      .append "xyz".toUTF8, .detach 1] := by
    rfl
  have hheld : octets run.2.bytes = octets "xyz".toUTF8 := by
    rw [hqueue, hgranted]
    decide
  have hone : octets wide.2.bytes = octets "a".toUTF8 := hqueue'
  rcases hnext (.reserve (wordBound - 1)) with ⟨hrefused, hkept, _⟩
  rcases hnext' (.reserve (wordBound - 1)) with ⟨hrefused', _, _⟩
  rw [hheld] at hrefused hkept
  rw [hone] at hrefused'
  exact ⟨hfour, hword, hgranted, hheld, (hrefused _).mpr ⟨by decide, rfl⟩, hkept (by decide),
    (hrefused' _).mpr ⟨by decide, rfl⟩⟩

end LineChat
