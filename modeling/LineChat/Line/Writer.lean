import LineChat.Line.Encoding

/-!
# Writing Messages to a Stream

A writer hands whole lines to a stream that may take them in pieces.

The stream is a `Sink`: the answers its write and flush calls will get, and
what it has taken. A write call answers with how many bytes it is willing to
take; a sink without answers left takes everything. A call that is interrupted
is made again; taking nothing means that the stream is closed.

## Main definitions

* `Sink`: A stream that is written to.
* `Sink.write`, `Sink.flush`: One call each.
* `Writer`: A sink and the buffer that holds the line being sent.
* `Writer.send`: A payload as one line.
* `Writer.sendAll`: Several payloads.
-/

namespace LineChat

/-- A stream that is written to. -/
structure Sink where
  /-- How many bytes the coming write calls will take, or their faults. -/
  writes : List (Except Fault Nat)
  /-- The answers of the coming flush calls. -/
  flushes : List (Except Fault Unit)
  /-- The bytes taken so far. -/
  taken : ByteArray
  /-- The number of write calls so far. -/
  writeCalls : Nat
  /-- The number of flush calls so far. -/
  flushCalls : Nat

namespace Sink

/-- A sink that nothing has been written to. -/
def ofAnswers (writes : List (Except Fault Nat)) (flushes : List (Except Fault Unit)) : Sink :=
  ⟨writes, flushes, ByteArray.empty, 0, 0⟩

/-- One write call that offers `data`: how much of it was taken. -/
def write (s : Sink) (data : ByteArray) : Except Fault Nat × Sink :=
  match s.writes with
  | [] => (.ok data.size, { s with taken := s.taken ++ data, writeCalls := s.writeCalls + 1 })
  | .error fault :: later =>
    (.error fault, { s with writes := later, writeCalls := s.writeCalls + 1 })
  | .ok n :: later =>
    (.ok (min n data.size), { s with
      writes := later
      taken := s.taken ++ data.extract 0 (min n data.size)
      writeCalls := s.writeCalls + 1 })

/-- One flush call. -/
def flush (s : Sink) : Except Fault Unit × Sink :=
  match s.flushes with
  | [] => (.ok (), { s with flushCalls := s.flushCalls + 1 })
  | answer :: later => (answer, { s with flushes := later, flushCalls := s.flushCalls + 1 })

/-- Writes all of `data`, in as many calls as it takes. -/
def writeAll (s : Sink) (data : ByteArray) : Except LineError Unit × Sink :=
  if data.size = 0 then (.ok (), s)
  else if hw : s.writes = [] then (.ok (), (s.write data).2)
  else
    let call := s.write data
    have : call.2.writes.length < s.writes.length := by
      show (s.write data).2.writes.length < _
      rw [write]
      cases hs : s.writes with
      | nil => exact absurd hs hw
      | cons a later => cases a <;> simp
    match call.1 with
    | .error fault =>
      if fault.kind = .interrupted then writeAll call.2 data
      else (.error (.io fault), call.2)
    | .ok 0 => (.error .closed, call.2)
    | .ok (n + 1) => writeAll call.2 (data.extract (n + 1) data.size)
termination_by s.writes.length

/-- Flushes, again as long as the call is interrupted. -/
def flushAll (s : Sink) : Except LineError Unit × Sink :=
  if hf : s.flushes = [] then (.ok (), s.flush.2)
  else
    let call := s.flush
    have : call.2.flushes.length < s.flushes.length := by
      show s.flush.2.flushes.length < _
      rw [flush]
      cases hs : s.flushes with
      | nil => exact absurd hs hf
      | cons a later => simp
    match call.1 with
    | .error fault =>
      if fault.kind = .interrupted then flushAll call.2
      else (.error (.io fault), call.2)
    | .ok () => (.ok (), call.2)
termination_by s.flushes.length

end Sink

/-- Writes whole lines to a sink. -/
structure Writer where
  /-- The stream. -/
  sink : Sink
  /-- The line being sent. -/
  line : Buffer

namespace Writer

/-- A writer that has not sent anything. -/
def ofSink (s : Sink) : Writer := ⟨s, Buffer.empty defaultLimit⟩

/-- Flushes the stream. -/
def flush (w : Writer) : Except LineError Unit × Writer :=
  let done := w.sink.flushAll
  (done.1, { w with sink := done.2 })

/-- Sends a payload as one line and flushes; the answer tells whether there was
    anything to send. -/
def send (w : Writer) (payload : ByteArray) : Except LineError Bool × Writer :=
  match w.line.clear.appendLine payload with
  | .error e => (.error e, { w with line := w.line.clear })
  | .ok none => (.ok false, { w with line := w.line.clear })
  | .ok (some line) =>
    let written := w.sink.writeAll line.bytes
    match written.1 with
    | .error e => (.error e, ⟨written.2, line⟩)
    | .ok () =>
      let flushed := written.2.flushAll
      match flushed.1 with
      | .error e => (.error e, ⟨flushed.2, line⟩)
      | .ok () => (.ok true, ⟨flushed.2, line⟩)

/-- Sends payloads one after the other: what became of each. -/
def sendAll : List ByteArray → Writer → List (Except LineError Bool) × Writer
  | [], w => ([], w)
  | payload :: payloads, w =>
    let first := w.send payload
    let more := sendAll payloads first.2
    (first.1 :: more.1, more.2)

end Writer

end LineChat
