import LineChat.Fault

/-!
# Why a Line Is Refused

The errors of buffering, framing, reading and writing lines.

`Overflow` is separate because it is the only error that the buffers
themselves can raise; it carries the three numbers that explain it, so that a
statement about it need not parse its text.

## Main definitions

* `Overflow`: A buffer limit that would be exceeded.
* `LineError`: Any refusal on the way between a byte stream and lines.
* `LineError.message`: The text of a refusal.
-/

namespace LineChat

/-- Adding `additional` bytes to `held` ones would exceed `limit`. -/
structure Overflow where
  /-- Bytes already there. -/
  held : Nat
  /-- Bytes that were to be added. -/
  additional : Nat
  /-- The most that may be there. -/
  limit : Nat
  deriving DecidableEq, Repr

/-- Refusals on the way between a byte stream and lines. -/
inductive LineError
  /-- A buffer limit would be exceeded. -/
  | overflow (cause : Overflow)
  /-- A payload held a newline. -/
  | embeddedNewline
  /-- Nothing but blanks was left of a payload. -/
  | emptyMessage
  /-- The stream below failed. -/
  | io (fault : Fault)
  /-- The stream ended, or takes nothing more. -/
  | closed
  deriving DecidableEq, Repr

namespace LineError

/-- What a refusal says. -/
def message : LineError → String
  | overflow o =>
    "buffer overflow (" ++ toString o.held ++ " bytes buffered, " ++ toString o.additional
      ++ " more, max " ++ toString o.limit ++ ")"
  | embeddedNewline => "message contains an embedded newline"
  | emptyMessage => "message is empty after trimming"
  | io fault => "frame I/O error: " ++ fault.message
  | closed => "connection closed"

end LineError

end LineChat
