import LineChat.Line.Buffer
import LineChat.Line.Message

/-!
# Writing Lines

A payload becomes a line on the wire by being trimmed and ended with a newline.

Room for the whole line is reserved before any of it is appended, so a line is
written whole or not at all. A payload of blanks is not written, and one that
still holds a newline after trimming is refused, because the other side would
read it as several.

## Main definitions

* `Buffer.appendLine`: A payload as a line at the end of a buffer.
* `Buffer.appendLines`: Several payloads.
* `Message.wire`: A message as it travels.
-/

namespace LineChat

namespace Message

/-- The message as it travels: its bytes and a newline. -/
def wire (m : Message) : ByteArray := m.line.wire

end Message

namespace Buffer

/-- The buffer with `payload` at its end as one line, or nothing if the payload
    is blank. -/
def appendLine (dst : Buffer) (payload : ByteArray) : Except LineError (Option Buffer) :=
  let text := trimmed payload
  if text.size = 0 then .ok none
  else
    match Line.ofBytes? text with
    | none => .error .embeddedNewline
    | some l =>
      match dst.reserve (l.size + 1) with
      | .error o => .error (.overflow o)
      | .ok roomy =>
        match roomy.append l.bytes with
        | .error o => .error (.overflow o)
        | .ok unended =>
          match unended.append (ByteArray.empty.push newline) with
          | .error o => .error (.overflow o)
          | .ok ended => .ok (some ended)

/-- The buffer with payloads at its end, each as a line, as far as they can be
    written; and what became of each. -/
def appendLines : List ByteArray → Buffer → List (Except LineError Bool) × Buffer
  | [], dst => ([], dst)
  | payload :: payloads, dst =>
    let first : Except LineError Bool × Buffer := match dst.appendLine payload with
      | .error e => (.error e, dst)
      | .ok none => (.ok false, dst)
      | .ok (some dst) => (.ok true, dst)
    let more := appendLines payloads first.2
    (first.1 :: more.1, more.2)

end Buffer

end LineChat
