import LineChat.Line.Framer

/-!
# Reading Messages from a Stream

A reader takes bytes from a stream, a chunk per call, until a message is
complete.

A stream is given by the answers that its read calls will get, in order. One
answer may hold more than a chunk; then a call takes a chunk of it and the rest
stays for the next call. An empty answer, and every call after the last answer,
is the end of the stream.

Messages that a chunk completes wait in `ready`. A refusal or a fault is
reported to the caller of that call, after which reading may go on: what is
ready stays ready, and what is pending stays pending.

## Main definitions

* `ReadAnswer`: What a read call on a stream gives.
* `Stream`: The answers of the coming read calls.
* `takeChunk`: One read call.
* `Reader`: A framer, the messages that wait, and the stream.
* `Reader.next`: The next message.
* `Reader.nexts`: Several requests for it.

## Theorems

* `left_takeChunk_lt`: Every read call leaves less of a stream to be read.
-/

namespace LineChat

/-- What a read call gives: some bytes, none at the end of the stream, or a
    fault. -/
abbrev ReadAnswer := Except Fault ByteArray

/-- The most bytes a reader asks for in one call. -/
def readerChunk : Nat := 4096

/-- A stream, as the answers that the coming read calls will get. -/
structure Stream where
  /-- The answers that are not used up. -/
  answers : List ReadAnswer
  /-- How many bytes of the first answer were taken already. -/
  taken : Nat

/-- One read call for at most `n` bytes: its answer, and the stream that is
    left for later calls. -/
def takeChunk (n : Nat) : Stream → ReadAnswer × Stream
  | ⟨[], taken⟩ => (.ok ByteArray.empty, ⟨[], taken⟩)
  | ⟨.error fault :: later, _⟩ => (.error fault, ⟨later, 0⟩)
  | ⟨.ok data :: later, taken⟩ =>
    if data.size ≤ taken + n then (.ok (data.extract taken data.size), ⟨later, 0⟩)
    else (.ok (data.extract taken (taken + n)), ⟨.ok data :: later, taken + n⟩)

/-- The size of answers: their bytes, and one for each. -/
def sizeOfAnswers : List ReadAnswer → Nat
  | [] => 0
  | .error _ :: later => 1 + sizeOfAnswers later
  | .ok data :: later => data.size + 1 + sizeOfAnswers later

/-- How much of a stream is left. Every answer counts for one more than its
    bytes, so that an empty one counts too. -/
def Stream.left : Stream → Nat
  | ⟨.ok data :: later, taken⟩ => (data.size - taken) + 1 + sizeOfAnswers later
  | ⟨answers, _⟩ => sizeOfAnswers answers

theorem Stream.left_fresh (answers : List ReadAnswer) :
    Stream.left ⟨answers, 0⟩ = sizeOfAnswers answers := by
  cases answers with
  | nil => rfl
  | cons a later => cases a <;> rfl

/-- A read call on a stream that is not used up leaves less of it. -/
theorem left_takeChunk_lt {n : Nat} (hn : 0 < n) {s : Stream} (hs : s.answers ≠ []) :
    (takeChunk n s).2.left < s.left := by
  obtain ⟨answers, taken⟩ := s
  cases answers with
  | nil => exact absurd rfl hs
  | cons a later =>
    cases a with
    | error fault =>
      rw [takeChunk, Stream.left_fresh]
      simp only [Stream.left, sizeOfAnswers]
      omega
    | ok data =>
      rw [takeChunk]
      split
      · rw [Stream.left_fresh]
        simp only [Stream.left]
        omega
      · simp only [Stream.left]
        omega

/-- Reads messages from a stream. -/
structure Reader where
  /-- The unended record. -/
  framer : Framer
  /-- Complete messages not handed out yet, oldest first. -/
  ready : List Message
  /-- Where the bytes come from. -/
  stream : Stream

namespace Reader

/-- A reader at the start of a stream. -/
def ofAnswers (limit : Nat) (answers : List ReadAnswer) : Reader :=
  ⟨Framer.ofLimit limit, [], ⟨answers, 0⟩⟩

/-- The bytes received after the last newline. -/
def pending (r : Reader) : Line := r.framer.pending

/-- The next message, reading as much of the stream as that takes. -/
def next (r : Reader) : Except LineError Message × Reader :=
  match r.ready with
  | m :: ready => (.ok m, { r with ready := ready })
  | [] =>
    if hs : r.stream.answers = [] then (.error .closed, r)
    else
      let call := takeChunk readerChunk r.stream
      have : call.2.left < r.stream.left := left_takeChunk_lt (by decide) hs
      match call.1 with
      | .error fault =>
        if fault.kind = .interrupted then next { r with stream := call.2 }
        else (.error (.io fault), { r with stream := call.2 })
      | .ok data =>
        if data.size = 0 then (.error .closed, { r with stream := call.2 })
        else
          let fed := r.framer.feed data
          match fed.refusal with
          | some o => (.error (.overflow o), ⟨fed.framer, fed.messages.toList, call.2⟩)
          | none =>
            match fed.messages.toList with
            | m :: ready => (.ok m, ⟨fed.framer, ready, call.2⟩)
            | [] => next ⟨fed.framer, [], call.2⟩
termination_by r.stream.left

/-- The answers to `n` requests for the next message. -/
def nexts : (n : Nat) → Reader → List (Except LineError Message) × Reader
  | 0, r => ([], r)
  | n + 1, r =>
    let first := r.next
    let more := nexts n first.2
    (first.1 :: more.1, more.2)

end Reader

end LineChat
