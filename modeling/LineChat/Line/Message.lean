import LineChat.Line.Basic
import LineChat.Line.Error

/-!
# Messages

One complete chat message: a line that is not blank and has no blanks around
it.

The shape is part of the type. Everything that relays a message relies on it:
a message can be written as one line without being looked at again, and
reading that line back gives the same message.

## Main definitions

* `Message`: A trimmed line that is not blank.
* `Message.ofLine?`: The message in a line, absent for a blank one.
* `Message.ofBytes`: The message in a payload handed in by a user.

## Theorems

* `ofLine?_eq_none_iff`: Only a blank line holds no message.
* `bytes_of_ofLine?`: A line's message is its trimmed bytes.
-/

namespace LineChat

/-- A line that is not blank and has no blanks around it. -/
structure Message where
  /-- The message as a line. -/
  line : Line
  /-- There is something in it. -/
  nonempty : 0 < line.size
  /-- It does not start with a blank. -/
  first : isBlank (byteAt line.bytes 0) = false
  /-- It does not end with a blank. -/
  last : isBlank (byteAt line.bytes (line.size - 1)) = false
  deriving DecidableEq

namespace Message

/-- The bytes of the message. -/
def bytes (m : Message) : ByteArray := m.line.bytes

/-- The number of bytes in the message. -/
def size (m : Message) : Nat := m.line.size

@[ext] theorem ext {a b : Message} (h : a.bytes = b.bytes) : a = b := by
  cases a
  cases b
  simp only [bytes] at h
  simp only [mk.injEq]
  exact Line.ext h

/-- The message in a line: the line without the blanks around it, or nothing
    if it is blank. -/
def ofLine? (l : Line) : Option Message :=
  let range := trimRange l.bytes
  if h : range.1 < range.2 then
    have hsize : (l.bytes.extract range.1 range.2).size = range.2 - range.1 := by
      have hle : range.2 ≤ l.bytes.size := (trimRange_le l.bytes).2
      rw [ByteArray.size_extract]
      omega
    some {
      line := l.slice range.1 range.2
      nonempty := by
        show 0 < (l.bytes.extract range.1 range.2).size
        omega
      first := by
        show isBlank (byteAt (l.bytes.extract range.1 range.2) 0) = false
        rw [byteAt_extract (by omega)]
        exact trimRange_first l.bytes h
      last := by
        show isBlank (byteAt (l.bytes.extract range.1 range.2)
          ((l.bytes.extract range.1 range.2).size - 1)) = false
        rw [hsize, byteAt_extract (by omega)]
        have : range.1 + (range.2 - range.1 - 1) = range.2 - 1 := by omega
        rw [this]
        exact trimRange_last l.bytes h }
  else none

/-- The message in a payload. A newline anywhere in it is refused, also one
    that trimming would remove; so is a payload of blanks. -/
def ofBytes (payload : ByteArray) : Except LineError Message :=
  match Line.ofBytes? payload with
  | none => .error .embeddedNewline
  | some l =>
    match ofLine? l with
    | none => .error .emptyMessage
    | some m => .ok m

theorem ofLine?_eq_none_iff (l : Line) :
    ofLine? l = none ↔ (trimRange l.bytes).1 = (trimRange l.bytes).2 := by
  have hle := (trimRange_le l.bytes).1
  simp only [ofLine?]
  split
  · simp only [reduceCtorEq, false_iff]
    omega
  · simp only [true_iff]
    omega

theorem bytes_of_ofLine? {l : Line} {m : Message} (h : ofLine? l = some m) :
    m.bytes = trimmed l.bytes := by
  simp only [ofLine?] at h
  split at h
  · simp only [Option.some.injEq] at h
    rw [← h]
    rfl
  · simp at h

end Message

end LineChat
