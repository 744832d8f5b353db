import LineChat.Line.Buffer
import LineChat.Line.Message

/-!
# Framing a Byte Stream

Turns bytes that arrive in arbitrary pieces into messages.

A framer keeps the record that has not been ended yet and nothing else. Each
newline ends a record: what was kept and what arrived before the newline are
put together, trimmed, and become a message unless nothing is left. Every
record is bounded by the framer's limit before it is trimmed, ended or not,
so whether a stream is refused does not depend on how it was cut into pieces.

A refusal loses the rest of the piece that was being fed and keeps what was
held before the record that did not fit was joined to it. Messages completed
before it stay in the output.

## Main definitions

* `Framer`: The unended record and the limit of every record.
* `Framer.complete`: A newline has arrived.
* `Framer.hold`: More of the unended record has arrived.
* `Framer.feedInto`: A piece of the stream, its messages appended to others.
* `Framer.feedAll`: Several pieces.
* `Fed`: What feeding a piece gives.
* `messagesOf`: The messages in a list of lines.

## Theorems

* `limit_complete`, `limit_hold`: The limit of a framer never changes.
-/

namespace LineChat

/-- The record of a byte stream that has not been ended yet. -/
structure Framer where
  /-- Its bytes; their limit bounds every record of the stream. -/
  held : Buffer
  /-- It has not been ended. -/
  unended : newline ∉ octets held.bytes

/-- What feeding a piece of a stream gives: the framer afterwards, the messages
    so far, and the refusal if a record was too long. -/
structure Fed where
  /-- The framer afterwards. -/
  framer : Framer
  /-- The messages so far, oldest first. -/
  messages : Array Message
  /-- Why the rest of the piece was dropped, if it was. -/
  refusal : Option Overflow

/-- The messages in a list of lines: blank lines hold none. -/
def messagesOf (ls : List Line) : List Message := ls.filterMap Message.ofLine?

namespace Framer

/-- A framer at the start of a stream. -/
def ofLimit (limit : Nat) : Framer := ⟨Buffer.empty limit, by simp [Buffer.empty]⟩

instance : Inhabited Framer := ⟨ofLimit defaultLimit⟩

/-- The limit of every record. -/
def limit (f : Framer) : Nat := f.held.limit

/-- The unended record. -/
def pending (f : Framer) : Line := ⟨f.held.bytes, f.unended⟩

/-- The framer without its unended record. -/
def reset (f : Framer) : Framer := ⟨f.held.clear, by simp [Buffer.clear]⟩

/-- The unended record goes on with `l`. -/
@[inline] def hold (f : Framer) (l : Line) : Except Overflow Framer :=
  match h : f.held.append l.bytes with
  | .error o => .error o
  | .ok held => .ok ⟨held, by
      rw [(Buffer.bytes_of_append h).1, octets_append, List.mem_append]
      rintro (hx | hx)
      · exact f.unended hx
      · exact l.unbroken hx⟩

/-- The unended record ends with `l`: its message, if it is not blank, and the
    framer at the start of the next record. A record that arrived in one piece
    is not copied into the buffer first. -/
def complete (f : Framer) (l : Line) : Except Overflow (Framer × Option Message) :=
  if f.held.isEmpty then
    if f.limit < l.size then .error ⟨0, l.size, f.limit⟩
    else .ok (f, Message.ofLine? l)
  else
    match f.hold l with
    | .error o => .error o
    | .ok joined => .ok (joined.reset, Message.ofLine? joined.pending)

/-- Completes one record after the other and holds the rest. -/
def feedLines (f : Framer) : List Line → Line → Array Message → Fed
  | [], rest, out =>
    -- What follows the last newline is bounded like a whole record.
    match f.hold rest with
    | .error o => ⟨f, out, some o⟩
    | .ok f => ⟨f, out, none⟩
  | l :: ls, rest, out =>
    match f.complete l with
    | .error o => ⟨f, out, some o⟩
    | .ok (f, none) => feedLines f ls rest out
    | .ok (f, some m) => feedLines f ls rest (out.push m)

/-- Feeds a piece of the stream, appending its messages to `out`. -/
def feedInto (f : Framer) (data : ByteArray) (out : Array Message) : Fed :=
  let parts := split data
  f.feedLines parts.lines parts.rest out

/-- Feeds pieces of the stream, one after the other, up to the first refusal. -/
def feedAll : List ByteArray → Framer → Array Message → Fed
  | [], f, out => ⟨f, out, none⟩
  | piece :: pieces, f, out =>
    let fed := f.feedInto piece out
    match fed.refusal with
    | some _ => fed
    | none => feedAll pieces fed.framer fed.messages

/-- Feeds a piece of the stream. -/
def feed (f : Framer) (data : ByteArray) : Fed := f.feedInto data #[]

theorem limit_hold {f f' : Framer} {l : Line} (h : f.hold l = .ok f') : f'.limit = f.limit := by
  simp only [hold] at h
  split at h
  · simp at h
  · rename_i held heq
    simp only [Except.ok.injEq] at h
    rw [← h]
    exact (Buffer.bytes_of_append heq).2

theorem limit_complete {f f' : Framer} {l : Line} {m : Option Message}
    (h : f.complete l = .ok (f', m)) : f'.limit = f.limit := by
  simp only [complete] at h
  split at h
  · split at h
    · simp at h
    · simp only [Except.ok.injEq, Prod.mk.injEq] at h
      rw [← h.1]
  · split at h
    · simp at h
    · rename_i joined heq
      simp only [Except.ok.injEq, Prod.mk.injEq] at h
      rw [← h.1]
      exact (limit_hold heq : joined.limit = f.limit)

end Framer

end LineChat
